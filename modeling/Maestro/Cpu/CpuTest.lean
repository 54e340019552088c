import Maestro.Cpu.Looks
import Maestro.Effect.Loop

/-!
# The CPU test program

`cpuTestProgram.c` runs commands and reads their output, and then times two loops. The
processor check stops the program when a command cannot be run or shows nothing; the other
checks print what they find and nothing else. The loop over the output of `sysbench` runs on
fuel, and `none` means that it is still reading.

The host is the environment. It runs a command to its whole output, or not at all, and it
supplies the times of day.
-/

namespace Maestro.Cpu

open Effect Text

/-- The printed lines. -/
inductive CpuLine where
  | processorCheck
  | performanceCheck
  | ipsCheck
  | floatingPointCheck
  | clear
  | notRun
  | memoryOkay
  | processors (number : ℤ)
  | processorAlright
  | readFailed
  | functionFailed
  | eventsPerSecond (cpuSpeed : Option Number)
  | ips (result : Number)
  | flops (flops : Number)
deriving DecidableEq

/-- The printed text; a variable without a value prints anything. -/
def CpuLine.text : CpuLine → Option String
  | processorCheck => some "[+] CPU, Processor Check\n"
  | performanceCheck => some "[+] CPU Performance Check\n"
  | ipsCheck => some "[+] CPU IPS Check\n"
  | floatingPointCheck => some "[+] CPU Floating Point Check\n"
  | clear => some "[+] CPU Clear\n"
  | notRun => some "\x1b[0;31m    [!] CPU is not run\x1b[0m"
  | memoryOkay => some "\x1b[0;32m    [+] Memory access Okay\n\x1b[0m"
  | processors number =>
    some ("\x1b[0;32m    [+] Number of processors: " ++ toString number ++ "\n\x1b[0m")
  | processorAlright => some "\x1b[0;32m    [+] Processor is alright\n\x1b[0m"
  | readFailed => some "\x1b[0;31m    [!] Failed to read output\n\x1b[0m"
  | functionFailed => some "\x1b[0;31m    [!] cpu Funciton is Failed\n\x1b[0m"
  | eventsPerSecond cpuSpeed =>
    cpuSpeed.map fun speed => "\x1b[0;32m    [+] events per second: " ++ speed.text ++ "\n\x1b[0m"
  | ips result => some ("    [+] IPS: " ++ result.text ++ " GIPS\n")
  | flops rate => some ("    [+] FLOPS: " ++ rate.text ++ " MFLOPS\n")

/-- What `gettimeofday` stores: seconds, and microseconds of the next second. -/
structure Timeval where
  tv_sec : ℤ
  tv_usec : Fin 1000000
deriving DecidableEq

/-- The calls of the program. -/
inductive CpuCall where
  | popen (command mode : String)
  | fgets (size fp : ℕ)
  | pclose (fp : ℕ)
  | gettimeofday
  | printf (line : CpuLine)

/-- `popen` is answered with a stream or `NULL`, and `fgets` with the line read or `NULL`. -/
abbrev CpuCalls : Interface where
  Call := CpuCall
  Reply
    | .popen _ _ => Option ℕ
    | .fgets _ _ => Option (List Char)
    | .pclose _ => ℤ
    | .gettimeofday => Timeval
    | .printf _ => Unit

abbrev CpuProg (ε α : Type) := Prog CpuCalls ε α

section Program

variable {ε : Type}

def popen (command mode : String) : CpuProg ε (Option ℕ) :=
  Prog.perform (I := CpuCalls) (.popen command mode)

def fgets (size fp : ℕ) : CpuProg ε (Option (List Char)) :=
  Prog.perform (I := CpuCalls) (.fgets size fp)

def pclose (fp : ℕ) : CpuProg ε ℤ := Prog.perform (I := CpuCalls) (.pclose fp)
def gettimeofday : CpuProg ε Timeval := Prog.perform (I := CpuCalls) .gettimeofday
def printf (line : CpuLine) : CpuProg ε Unit := Prog.perform (I := CpuCalls) (.printf line)

def CLOCKS_PER_SEC : ℚ := 1000000

/-- The command of the performance check. -/
def sysbenchCommand : String := "sysbench cpu --cpu-max-prime=20000 --threads=4 run"

/-- The time of day in seconds. -/
def timeCheck : CpuProg ε ℚ := do
  let tp ← gettimeofday
  return tp.tv_sec + tp.tv_usec.val * (1 / 1000000)

/-- The available memory is read and, if it is positive, reported. -/
def readMemory (lsmem : ℕ) : CpuProg ε Unit := lookMemory (fgets BUFFER_SIZE lsmem) (printf .memoryOkay)

/-- The check stops the program if no line is read for the number of processors. -/
def readFailed : CpuProg Exit Unit := do
  printf .readFailed
  Prog.exit (-1)

/-- The number of processors is read and reported, with another line for the number 4. -/
def readProcessors (cpuinfo : ℕ) : CpuProg Exit Unit :=
  lookProcessors (fgets BUFFER_SIZE cpuinfo) readFailed (fun number => printf (.processors number))
    (printf .processorAlright) ()

/-- The processor check with its four streams open; two of them are not read. -/
def checkStreams (cpuinfo modelname lscpu lsmem : ℕ) : CpuProg Exit Unit := do
  readMemory lsmem
  readProcessors cpuinfo
  let _ ← pclose cpuinfo
  let _ ← pclose modelname
  let _ ← pclose lscpu
  let _ ← pclose lsmem
  return ()

/-- The check stops the program if a command cannot be run. -/
def numFailed : CpuProg Exit Unit := do
  printf .notRun
  Prog.exit (-1)

/-- The processor check. -/
def cpuNumCheck : CpuProg Exit Unit := withStreams popen checkStreams numFailed

/-- The loop over the output of `sysbench`. A line with the words prints `cpuSpeed`, whether or not
a number was found in it; at the start `cpuSpeed` has no value. -/
def readEvents (fp : ℕ) : ℕ → Option Number → CpuProg ε (Option Unit)
  | 0, _ => return none
  | fuel + 1, cpuSpeed => do
    let line ← fgets BUFFER_SIZE fp
    match line with
    | none => return some ()
    | some buffer =>
      match strstr buffer "events per second".toList with
      | some ptr =>
        let cpuSpeed := (sscanf "events per second: " ptr).or cpuSpeed
        printf (.eventsPerSecond cpuSpeed)
        readEvents fp fuel cpuSpeed
      | none => readEvents fp fuel cpuSpeed

/-- The performance check. -/
def cpuPerformCheck (fuel : ℕ) : CpuProg Exit (Option Unit) := do
  let fp ← popen sysbenchCommand "r"
  match fp with
  | none =>
    printf .functionFailed
    Prog.exit (-1)
  | some fp =>
    let read ← readEvents fp fuel none
    match read with
    | none => return none
    | some () =>
      let _ ← pclose fp
      return some ()

/-- The conversion of a `double` to a `clock_t`. -/
def toClock (x : ℚ) : ℤ := if 0 ≤ x then ⌊x⌋ else ⌈x⌉

/-- The number of seconds that the program computes from two values of `timeCheck`. -/
def cpuTime (start finish : ℚ) : ℚ := (toClock finish - toClock start : ℤ) / CLOCKS_PER_SEC

def instructions : ℚ := 10006964235
def num : ℚ := 100000000

/-- The figure of the first timed loop. -/
def ipsResult (cpu_time : ℚ) : Number := (Number.quotient instructions cpu_time).over 1000000000

/-- The figure of the second timed loop. -/
def flopsResult (cpu_time : ℚ) : Number := (Number.quotient num cpu_time).over 1000

/-- The first timed check; the loop between the two times is empty. -/
def cpuIPSCheck : CpuProg ε Unit := do
  let start ← timeCheck
  let finish ← timeCheck
  printf (.ips (ipsResult (cpuTime start finish)))

/-- The second timed check; the value that its loop computes is not used. -/
def cpuFPCheck : CpuProg ε Unit := do
  let start ← timeCheck
  let finish ← timeCheck
  printf (.flops (flopsResult (cpuTime start finish)))

/-- What follows the first two checks. -/
def afterChecks : Option Unit → CpuProg Exit (Option ℤ)
  | none => return none
  | some () => do
    printf .ipsCheck
    cpuIPSCheck
    printf .floatingPointCheck
    cpuFPCheck
    printf .clear
    return some 0

/-- The program. -/
def main (fuel : ℕ) : CpuProg Exit (Option ℤ) := do
  printf .processorCheck
  cpuNumCheck
  printf .performanceCheck
  let read ← cpuPerformCheck fuel
  afterChecks read

end Program

/-- The output of each command, if it can be run, and the times of day. -/
structure Host where
  output : String → Option (List Char)
  time : ℕ → Timeval

/-- What is left of the open streams, how often the time was read, and the printed lines. -/
structure Session where
  streams : List (List Char)
  reads : ℕ
  printed : List CpuLine

/-- The start of a session. -/
def opening : Session := ⟨[], 0, []⟩

/-- The epoch as a time of day. -/
def epoch : Timeval := ⟨0, 0⟩

/-- The calls on a host. -/
def Host.handler (host : Host) : Handler CpuCalls Session where
  answer
    | .popen command _, session =>
      ((openStream session.streams (host.output command)).1,
        { session with streams := (openStream session.streams (host.output command)).2 })
    | .fgets size fp, session =>
      ((readStream size session.streams fp).1, { session with streams := (readStream size session.streams fp).2 })
    | .pclose _, session => (0, session)
    | .gettimeofday, session => (host.time session.reads, { session with reads := session.reads + 1 })
    | .printf line, session => ((), { session with printed := session.printed ++ [line] })

/-- The streams and the lines of a session. -/
def Host.console (host : Host) : Console CpuCalls Session (List (List Char)) CpuLine where
  handler := host.handler
  input := Session.streams
  printed := Session.printed

section Console

variable {ε : Type} (host : Host) (streams : List (List Char))

/-- The console serves the commands of its host. -/
theorem serves : Serves host.console host.output (popen (ε := ε)) fgets where
  popen_runs _ _ _ _ hstreams := by
    subst hstreams
    exact ⟨_, rfl, rfl, (List.append_nil _).symm⟩
  fgets_runs _ _ _ _ hstreams := by
    subst hstreams
    exact ⟨_, rfl, rfl, (List.append_nil _).symm⟩

/-- A line is printed. -/
theorem runs_printf (line : CpuLine) :
    host.console.Runs (printf line : CpuProg ε Unit) streams (.ok ()) streams [line] :=
  fun _ hstreams => ⟨_, rfl, hstreams, rfl⟩

/-- Closing a stream has no effect on what is left of it. -/
theorem runs_pclose (fp : ℕ) : host.console.Runs (pclose fp : CpuProg ε ℤ) streams (.ok 0) streams [] :=
  fun _ hstreams => ⟨_, rfl, hstreams, (List.append_nil _).symm⟩

end Console

end Maestro.Cpu
