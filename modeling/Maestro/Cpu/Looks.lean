import Maestro.Text.Number
import Maestro.Text.Streams

/-!
# The looks at the processor

Three programs run the same four commands, look at the line for the available memory and at the line
for the number of processors, and differ in what they print and in how they end. Here are the parts
they share, with what these do on a console that serves commands.
-/

namespace Maestro.Cpu

open Effect Text

/-- The size of the buffers; proofs do not unroll it. -/
@[irreducible] def BUFFER_SIZE : ℕ := 1024

/-- A buffer holds a character. -/
theorem one_lt_BUFFER_SIZE : 1 < BUFFER_SIZE := by
  unfold BUFFER_SIZE
  decide

/-- The four commands of the processor check. -/
def cpuinfoCommand : String := "grep processor /proc/cpuinfo | wc -l"
def modelnameCommand : String := "grep Model /proc/cpuinfo"
def lscpuCommand : String := "lscpu | grep 'CPU'"
def lsmemCommand : String := "free | grep Mem | awk '\x7bprint $7\x7d'"

/-- The commands of the processor check. -/
def numCommands : List String := [cpuinfoCommand, modelnameCommand, lscpuCommand, lsmemCommand]

section Parts

variable {I : Interface} {ε α : Type}

/-- The four commands are run; without one of the streams the check fails. -/
def withStreams (popen : String → String → Prog I ε (Option ℕ)) (check : ℕ → ℕ → ℕ → ℕ → Prog I ε α)
    (fail : Prog I ε α) : Prog I ε α := do
  let cpuinfo ← popen cpuinfoCommand "r"
  let modelname ← popen modelnameCommand "r"
  let lscpu ← popen lscpuCommand "r"
  let lsmem ← popen lsmemCommand "r"
  match cpuinfo, modelname, lscpu, lsmem with
  | some cpuinfo, some modelname, some lscpu, some lsmem => check cpuinfo modelname lscpu lsmem
  | _, _, _, _ => fail

/-- The available memory is read and, if it is positive, reported. -/
def lookMemory (read : Prog I ε (Option (List Char))) (okay : Prog I ε Unit) : Prog I ε Unit := do
  let line ← read
  match line with
  | none => return ()
  | some buffer => if 0 < atoi buffer then okay else return ()

/-- The number of processors is read and reported, with another line for the number 4. -/
def lookProcessors (read : Prog I ε (Option (List Char))) (missing : Prog I ε α) (report : ℤ → Prog I ε Unit)
    (alright : Prog I ε Unit) (found : α) : Prog I ε α := do
  let line ← read
  match line with
  | none => missing
  | some buffer => do
    report (atoi buffer)
    if atoi buffer = 4 then do
      alright
      return found
    else return found

end Parts

section Lines

variable {Line : Type}

/-- What the look at the memory prints. -/
def memoryLines (okay : Line) : Option (List Char) → List Line
  | none => []
  | some buffer => if 0 < atoi buffer then [okay] else []

/-- What the look at the number of processors prints, but for what it prints without a line. -/
def processorLines (report : ℤ → Line) (alright : Line) (buffer : List Char) : List Line :=
  report (atoi buffer) :: if atoi buffer = 4 then [alright] else []

end Lines

section Runs

variable {I : Interface} {σ Line ε α : Type} {console : Console I σ (List (List Char)) Line}
  {output : String → Option (List Char)} {popen : String → String → Prog I ε (Option ℕ)}
  {fgets : ℕ → ℕ → Prog I ε (Option (List Char))} (hserves : Serves console output popen fgets)
  {streams : List (List Char)} {fp : ℕ} {text : List Char}

include hserves

/-- The look at the memory takes its line and reports a positive number. -/
theorem runs_lookMemory {okay : Prog I ε Unit} {okayLine : Line}
    (hokay : ∀ streams, console.Runs okay streams (.ok ()) streams [okayLine]) (hstream : streams[fp]? = some text) :
    console.Runs (lookMemory (fgets BUFFER_SIZE fp) okay) streams (.ok ())
      (streams.set fp (afterLine BUFFER_SIZE text)) (memoryLines okayLine (lineOf BUFFER_SIZE text)) := by
  refine (hserves.read_runs BUFFER_SIZE hstream).bind_silent ?_
  cases lineOf BUFFER_SIZE text with
  | none => exact console.runs_ret () _
  | some buffer =>
    change console.Runs (if 0 < atoi buffer then okay else Prog.ret ()) _ _ _ (if 0 < atoi buffer then _ else _)
    split
    · exact hokay _
    · exact console.runs_ret () _

variable {missing : Prog I ε α} {report : ℤ → Prog I ε Unit} {alright : Prog I ε Unit} {found : α}
  (hstream : streams[fp]? = some text)

include hstream

/-- Without a line the look at the number of processors goes on as it is told. -/
theorem runs_lookProcessors_of_none {result : Except ε α} {lines : List Line}
    (hmissing : ∀ streams, console.Runs missing streams result streams lines)
    (hnone : lineOf BUFFER_SIZE text = none) :
    console.Runs (lookProcessors (fgets BUFFER_SIZE fp) missing report alright found) streams result
      (streams.set fp (afterLine BUFFER_SIZE text)) lines := by
  refine (hserves.read_runs BUFFER_SIZE hstream).bind_silent ?_
  rw [hnone]
  exact hmissing _

/-- With a line it reports the number, whichever it is. -/
theorem runs_lookProcessors_of_some {reportLine : ℤ → Line} {alrightLine : Line}
    (hreport : ∀ number streams, console.Runs (report number) streams (.ok ()) streams [reportLine number])
    (halright : ∀ streams, console.Runs alright streams (.ok ()) streams [alrightLine]) {buffer : List Char}
    (hsome : lineOf BUFFER_SIZE text = some buffer) :
    console.Runs (lookProcessors (fgets BUFFER_SIZE fp) missing report alright found) streams (.ok found)
      (streams.set fp (afterLine BUFFER_SIZE text)) (processorLines reportLine alrightLine buffer) := by
  refine (hserves.read_runs BUFFER_SIZE hstream).bind_silent ?_
  rw [hsome]
  have hnumber (rest : List (List Char)) :
      console.Runs (if atoi buffer = 4 then alright >>= fun _ => Prog.ret found else Prog.ret found) rest (.ok found)
        rest (if atoi buffer = 4 then [alrightLine] else []) := by
    split
    · exact (halright rest).bind (console.runs_ret found rest)
    · exact console.runs_ret found rest
  exact (hreport (atoi buffer) _).bind (hnumber _)

end Runs

section Streams

variable {I : Interface} {σ Line ε α : Type} {console : Console I σ (List (List Char)) Line}
  {output : String → Option (List Char)} {popen : String → String → Prog I ε (Option ℕ)}
  {fgets : ℕ → ℕ → Prog I ε (Option (List Char))} (hserves : Serves console output popen fgets)
  (check : ℕ → ℕ → ℕ → ℕ → Prog I ε α) (fail : Prog I ε α) {result : Except ε α} {lines : List Line}

include hserves

/-- If a command cannot be run, the check fails. -/
theorem runs_withStreams_of_none (hfail : ∀ streams, console.Runs fail streams result streams lines)
    (hnone : ∃ command ∈ numCommands, output command = none) :
    ∃ left, console.Runs (withStreams popen check fail) [] result left lines := by
  simp only [numCommands, List.exists_mem_cons_iff, List.not_mem_nil, false_and, exists_false, or_false] at hnone
  have hopen (command : String) (streams : List (List Char)) := hserves.popen_runs command "r" streams
  refine ⟨(openStream (openStream (openStream (openStream [] (output cpuinfoCommand)).2
    (output modelnameCommand)).2 (output lscpuCommand)).2 (output lsmemCommand)).2,
    (hopen cpuinfoCommand _).bind_silent ((hopen modelnameCommand _).bind_silent
      ((hopen lscpuCommand _).bind_silent ((hopen lsmemCommand _).bind_silent ?_)))⟩
  cases hcpuinfo : output cpuinfoCommand <;> cases hmodelname : output modelnameCommand <;>
    cases hlscpu : output lscpuCommand <;> cases hlsmem : output lsmemCommand
  case some.some.some.some => simp [hcpuinfo, hmodelname, hlscpu, hlsmem] at hnone
  all_goals exact hfail _

/-- If all commands can be run, the check has their outputs. -/
theorem runs_withStreams_of_some {cpuinfo modelname lscpu lsmem : List Char} {left : List (List Char)}
    (hcpuinfo : output cpuinfoCommand = some cpuinfo) (hmodelname : output modelnameCommand = some modelname)
    (hlscpu : output lscpuCommand = some lscpu) (hlsmem : output lsmemCommand = some lsmem)
    (hcheck : console.Runs (check 0 1 2 3) [cpuinfo, modelname, lscpu, lsmem] result left lines) :
    console.Runs (withStreams popen check fail) [] result left lines :=
  (hserves.open_some hcpuinfo "r" _).bind_silent ((hserves.open_some hmodelname "r" _).bind_silent
    ((hserves.open_some hlscpu "r" _).bind_silent ((hserves.open_some hlsmem "r" _).bind_silent hcheck)))

omit check fail hserves in
/-- If no command fails to run, all four have an output. -/
theorem exists_outputs (hnone : ¬∃ command ∈ numCommands, output command = none) :
    ∃ cpuinfo modelname lscpu lsmem, output cpuinfoCommand = some cpuinfo ∧
      output modelnameCommand = some modelname ∧ output lscpuCommand = some lscpu ∧
      output lsmemCommand = some lsmem := by
  have hsome : ∀ command ∈ numCommands, ∃ text, output command = some text := by
    intro command hcommand
    exact Option.ne_none_iff_exists'.mp fun h => hnone ⟨command, hcommand, h⟩
  obtain ⟨cpuinfo, hcpuinfo⟩ := hsome cpuinfoCommand (by simp [numCommands])
  obtain ⟨modelname, hmodelname⟩ := hsome modelnameCommand (by simp [numCommands])
  obtain ⟨lscpu, hlscpu⟩ := hsome lscpuCommand (by simp [numCommands])
  obtain ⟨lsmem, hlsmem⟩ := hsome lsmemCommand (by simp [numCommands])
  exact ⟨cpuinfo, modelname, lscpu, lsmem, hcpuinfo, hmodelname, hlscpu, hlsmem⟩

end Streams

end Maestro.Cpu
