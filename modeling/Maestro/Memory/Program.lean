import Maestro.Effect.Environments
import Maestro.Memory.BandWidth
import Maestro.Memory.PatternTest
import Maestro.Memory.Sysbench

/-!
# The memory test program

`memTestProgram.c` runs `sysbench`, times three loops, tests a block with a pattern, and then reports
the memory as clear. The three checks have environments of their own: the output of a command, a clock
with memory for an array, and memory with stuck bits. A command that cannot be run, or an array that
cannot be allocated, ends the program in a fault before the pattern test; otherwise the last line
depends on nothing but that test.
-/

namespace Maestro.Memory.Program

open Effect Text

/-- The lines of the main program. -/
inductive Title where
  | functionCheck
  | bandWidthCheck
  | errorCheck
  | clear
deriving DecidableEq

/-- The printed text. -/
def Title.text : Title → String
  | functionCheck => "[+] Memory Function Check\n"
  | bandWidthCheck => "[+] Memory BandWidth Check\n"
  | errorCheck => "[+] Memory Error Check\n"
  | clear => "[+] Memory Clear\n"

inductive TitleCall where
  | printf (title : Title)

abbrev TitleCalls : Interface where
  Call := TitleCall
  Reply _ := Unit

/-- The main program and its three checks. -/
inductive Part where
  | main
  | function
  | bandWidth
  | error
deriving DecidableEq

/-- The calls of each part. -/
abbrev Part.Calls : Part → Interface
  | main => TitleCalls
  | function => Sysbench.SysbenchCalls
  | bandWidth => BandWidth.BandCalls
  | error => MemCalls

/-- The program ends early in a fault, or with an exit status. -/
inductive Ending where
  | fault
  | exit (status : ℤ)
deriving DecidableEq

abbrev MemTestProg (α : Type) := Prog (Interface.family Part.Calls) Ending α

def printf (title : Title) : MemTestProg Unit :=
  (Prog.perform (I := TitleCalls) (.printf title)).embed (I := Part.Calls) .main

/-- The function check in the whole program. -/
def memoryFuncCheck (fuel : ℕ) : MemTestProg (Option Unit) :=
  ((Sysbench.memoryFuncCheck fuel).mapStop fun _ => Ending.fault).embed (I := Part.Calls) .function

/-- The bandwidth check in the whole program. -/
def memoryBandWidthCheck : MemTestProg Unit :=
  (BandWidth.memoryBandWidthCheck.mapStop fun _ => Ending.fault).embed (I := Part.Calls) .bandWidth

/-- The pattern test in the whole program. -/
def memoryErrorCheck : MemTestProg Unit :=
  (Memory.memoryErrorCheck.mapStop fun reason => Ending.exit reason.status).embed (I := Part.Calls) .error

/-- What follows the first check; `none` means that it is still reading. -/
def afterFunction : Option Unit → MemTestProg (Option ℤ)
  | none => return none
  | some () => do
    printf .bandWidthCheck
    memoryBandWidthCheck
    printf .errorCheck
    memoryErrorCheck
    printf .clear
    return some 0

/-- The program, with fuel for the output of `sysbench`. -/
def main (fuel : ℕ) : MemTestProg (Option ℤ) := do
  printf .functionCheck
  let read ← memoryFuncCheck fuel
  afterFunction read

/-- The output of the command, if it can be run, the clock, whether there is memory for the array, and
the memory of the block. -/
structure Host where
  text : Option (List Char)
  time : ℕ → Cpu.Timeval
  array : Bool
  ram : Ram

/-- What each part changes: the lines printed, the output left to read, the arrays, and the block. -/
abbrev Part.State : Part → Type
  | main => List Title
  | function => Reader Sysbench.SysbenchLine
  | bandWidth => BandWidth.Machine
  | error => Bench

/-- The command on the host. -/
def Host.command (host : Host) : Handler Sysbench.SysbenchCalls (Reader Sysbench.SysbenchLine) where
  answer
    | .popen _ _, reader => (host.text.map fun _ => 0, reader)
    | request, reader => Sysbench.sysbench.answer request reader

/-- The arrays and the clock of the host. -/
def Host.arrays (host : Host) : Handler BandWidth.BandCalls BandWidth.Machine where
  answer
    | .malloc _, machine => (if host.array then some .heap else none, machine)
    | request, machine => (BandWidth.handler host.time).answer request machine

/-- The environments of the parts. -/
def Host.environment (host : Host) : (part : Part) → Handler part.Calls part.State
  | .main => ⟨fun | .printf title, titles => ((), titles ++ [title])⟩
  | .function => host.command
  | .bandWidth => host.arrays
  | .error => host.ram.handler

/-- The states of the parts together. -/
def states (titles : List Title) (reader : Reader Sysbench.SysbenchLine) (machine : BandWidth.Machine)
    (bench : Bench) : (part : Part) → part.State
  | .main => titles
  | .function => reader
  | .bandWidth => machine
  | .error => bench

/-- The start, with the contents of the arrays and of the memory. -/
def Host.start (host : Host) (cells : BandWidth.Buffer → ℕ → ℚ) (stored : ℕ → BitVec 8) : (part : Part) → part.State :=
  states [] ⟨host.text.getD [], []⟩ ⟨cells, 0, []⟩ ⟨stored, []⟩

/-- The run of the program, with fuel for the whole output. -/
def Host.outcome (host : Host) (cells : BandWidth.Buffer → ℕ → ℚ) (stored : ℕ → BitVec 8) :
    Except Ending (Option ℤ) × ((part : Part) → part.State) :=
  (main ((host.text.getD []).length + 1)).run (Handler.family host.environment) (host.start cells stored)

/-- The lines of the parts. -/
structure Printed where
  titles : List Title
  function : List Sysbench.SysbenchLine
  bandWidth : List BandWidth.BandLine
  error : List MemLine

/-- What has been printed. -/
def printed (s : (part : Part) → part.State) : Printed :=
  ⟨s .main, (s .function).printed, (s .bandWidth).printed, (s .error).printed⟩

/-- The block is allocated, and none of its bits is stuck against the pattern. -/
def Passes (ram : Ram) : Prop := ∃ block, ram.heap = some block ∧ ¬StuckAgainst ram.faults block BUFFER_SIZE

section Checks

/-- A byte shows the pattern unless a bit is stuck against it. -/
theorem forall_seen_iff (faults : ℕ → Fin 8 → Word.BitFault) (block size : ℕ) :
    (∀ i < size, Word.seen (faults (block + i)) 0xAA#8 = 0xAA#8) ↔ ¬StuckAgainst faults block size := by
  unfold StuckAgainst
  push Not
  refine forall₂_congr fun i _ => ?_
  rw [Word.seen_eq_iff]
  refine forall_congr' fun bit => ?_
  rw [ne_eq, eq_against_iff, not_or, not_and, not_and]

/-- The pattern test returns without a line if the block passes, and reports one otherwise. -/
theorem run_memoryErrorCheck (ram : Ram) (stored : ℕ → BitVec 8) :
    ∃ left, Passes ram ∧ Memory.memoryErrorCheck.run ram.handler ⟨stored, []⟩ = (.ok (), ⟨left, []⟩) ∨
      ¬Passes ram ∧ ∃ line, Memory.memoryErrorCheck.run ram.handler ⟨stored, []⟩ = (.error ⟨-1⟩, ⟨left, [line]⟩) := by
  obtain ⟨heap, faults⟩ := ram
  cases heap with
  | none =>
    refine ⟨stored, .inr ⟨fun h => ?_, .allocationFailed "    [!] ", rfl⟩⟩
    obtain ⟨block, hblock, -⟩ := h
    cases hblock
  | some block =>
    obtain ⟨left, hrun⟩ := run_testPattern ⟨some block, faults⟩ block 0xAA#8 "    [!] " BUFFER_SIZE ⟨stored, []⟩
    refine ⟨left, ?_⟩
    rw [Memory.run_memoryErrorCheck]
    rcases hrun with ⟨hall, hrun⟩ | ⟨i, hi, hdiffers, hrun⟩
    · exact .inl ⟨⟨block, rfl, (forall_seen_iff faults block BUFFER_SIZE).mp hall⟩, hrun⟩
    · refine .inr ⟨fun h => ?_, _, hrun⟩
      obtain ⟨other, hblock, hfree⟩ := h
      cases hblock
      exact hdiffers ((forall_seen_iff faults block BUFFER_SIZE).mpr hfree i hi)

/-- A command that can be run prints its output. -/
theorem command_eq {host : Host} {text : List Char} (htext : host.text = some text) :
    host.command = Sysbench.sysbench := by
  refine congrArg Handler.mk (funext fun request => funext fun reader => ?_)
  cases request with
  | popen command mode => exact congrArg (fun output => (Option.map (fun _ => 0) output, reader)) htext
  | _ => rfl

/-- With memory for the array, the check has all its arrays. -/
theorem arrays_eq {host : Host} (harray : host.array = true) : host.arrays = BandWidth.handler host.time := by
  refine congrArg Handler.mk (funext fun request => funext fun machine => ?_)
  cases request with
  | malloc size => exact congrArg (fun value => (value, machine)) (if_pos harray)
  | _ => rfl

/-- The first check returns when the output is read. -/
theorem run_memoryFuncCheck (text : List Char) :
    ∃ rest, (Sysbench.memoryFuncCheck (text.length + 1)).run Sysbench.sysbench ⟨text, []⟩ =
      (.ok (some ()), ⟨rest, Sysbench.memoryPrinted (text.length + 1) text⟩) := by
  have hfuel : text.length < text.length + 1 := Nat.lt_succ_self text.length
  obtain ⟨rest, hrun⟩ := Sysbench.run_readFigures 0 ⟨text, []⟩ hfuel none none
  refine ⟨rest, ?_⟩
  rw [Sysbench.memoryPrinted_eq hfuel]
  change (Sysbench.readFigures 0 (text.length + 1) none none >>= Sysbench.closeAfter 0).run Sysbench.sysbench
    ⟨text, []⟩ = _
  rw [Prog.run_bind_of_ok _ _ hrun]
  rfl

end Checks

section Parts

variable (host : Host) (titles : List Title) (reader : Reader Sysbench.SysbenchLine) (machine : BandWidth.Machine)
  (bench : Bench)

/-- A title is printed, and nothing else changes. -/
theorem run_printf (title : Title) :
    (printf title).run (Handler.family host.environment) (states titles reader machine bench) =
      (.ok (), states (titles ++ [title]) reader machine bench) := by
  rw [printf, Prog.run_embed]
  exact Prod.ext rfl (funext fun part => by cases part <;> rfl)

/-- The first check changes the state of its own part; a fault in it ends the program. -/
theorem run_function {fuel : ℕ} {result : Except Sysbench.Fault (Option Unit)}
    {reader' : Reader Sysbench.SysbenchLine}
    (hrun : (Sysbench.memoryFuncCheck fuel).run host.command reader = (result, reader')) :
    (memoryFuncCheck fuel).run (Handler.family host.environment) (states titles reader machine bench) =
      (result.mapError fun _ => Ending.fault, states titles reader' machine bench) := by
  have hown : (Sysbench.memoryFuncCheck fuel).run (host.environment .function)
      (states titles reader machine bench .function) = (result, reader') := hrun
  rw [memoryFuncCheck, Prog.run_embed, Prog.run_mapStop, hown]
  exact Prod.ext rfl (funext fun part => by cases part <;> rfl)

/-- So does the second one. -/
theorem run_bandWidth {result : Except BandWidth.Fault Unit} {machine' : BandWidth.Machine}
    (hrun : BandWidth.memoryBandWidthCheck.run host.arrays machine = (result, machine')) :
    memoryBandWidthCheck.run (Handler.family host.environment) (states titles reader machine bench) =
      (result.mapError fun _ => Ending.fault, states titles reader machine' bench) := by
  have hown : BandWidth.memoryBandWidthCheck.run (host.environment .bandWidth)
      (states titles reader machine bench .bandWidth) = (result, machine') := hrun
  rw [memoryBandWidthCheck, Prog.run_embed, Prog.run_mapStop, hown]
  exact Prod.ext rfl (funext fun part => by cases part <;> rfl)

/-- The third check may end the program. -/
theorem run_error {result : Except Exit Unit} {bench' : Bench}
    (hrun : Memory.memoryErrorCheck.run host.ram.handler bench = (result, bench')) :
    memoryErrorCheck.run (Handler.family host.environment) (states titles reader machine bench) =
      (result.mapError fun reason => Ending.exit reason.status, states titles reader machine bench') := by
  have hown : Memory.memoryErrorCheck.run (host.environment .error)
      (states titles reader machine bench .error) = (result, bench') := hrun
  rw [memoryErrorCheck, Prog.run_embed, Prog.run_mapStop, hown]
  exact Prod.ext rfl (funext fun part => by cases part <;> rfl)

/-- What the program prints besides its last line. -/
def opened : List Title := [.functionCheck, .bandWidthCheck, .errorCheck]

/-- The last check and the last line. -/
def finish : MemTestProg (Option ℤ) := do
  memoryErrorCheck
  printf .clear
  return some 0

/-- Without the first check nothing is left. -/
theorem run_main_of_fault {fuel : ℕ} {fault : Sysbench.Fault} {reader' : Reader Sysbench.SysbenchLine}
    (hfunction : (Sysbench.memoryFuncCheck fuel).run host.command reader = (.error fault, reader')) :
    (main fuel).run (Handler.family host.environment) (states [] reader machine bench) =
      (.error .fault, states [.functionCheck] reader' machine bench) := by
  have htitle := run_printf host [] reader machine bench .functionCheck
  have hfunction := run_function host [.functionCheck] reader machine bench hfunction
  rw [List.nil_append] at htitle
  rw [main, Prog.run_bind_of_ok _ _ htitle, Prog.run_bind_of_error _ _ hfunction]

/-- After the first check the second one is left. -/
theorem run_main {fuel : ℕ} {reader' : Reader Sysbench.SysbenchLine}
    (hfunction : (Sysbench.memoryFuncCheck fuel).run host.command reader = (.ok (some ()), reader')) :
    (main fuel).run (Handler.family host.environment) (states [] reader machine bench) =
      (memoryBandWidthCheck >>= fun _ => printf .errorCheck >>= fun _ => finish).run
        (Handler.family host.environment) (states [.functionCheck, .bandWidthCheck] reader' machine bench) := by
  have htitle := run_printf host [] reader machine bench .functionCheck
  have hfunction := run_function host [.functionCheck] reader machine bench hfunction
  have hnext := run_printf host [.functionCheck] reader' machine bench .bandWidthCheck
  rw [List.nil_append] at htitle
  rw [main, Prog.run_bind_of_ok _ _ htitle, Prog.run_bind_of_ok _ _ hfunction]
  change (printf .bandWidthCheck >>= fun _ => memoryBandWidthCheck >>= fun _ => printf .errorCheck >>= fun _ =>
    finish).run (Handler.family host.environment) _ = _
  rw [Prog.run_bind_of_ok _ _ hnext]
  rfl

/-- After the second check the last one is left. -/
theorem run_measured {machine' : BandWidth.Machine}
    (hband : BandWidth.memoryBandWidthCheck.run host.arrays machine = (.ok (), machine')) :
    (memoryBandWidthCheck >>= fun _ => printf .errorCheck >>= fun _ => finish).run (Handler.family host.environment)
        (states [.functionCheck, .bandWidthCheck] reader machine bench) =
      finish.run (Handler.family host.environment) (states opened reader machine' bench) := by
  have hband := run_bandWidth host [.functionCheck, .bandWidthCheck] reader machine bench hband
  have hlast := run_printf host [.functionCheck, .bandWidthCheck] reader machine' bench .errorCheck
  rw [Prog.run_bind_of_ok _ _ hband, Prog.run_bind_of_ok _ _ hlast]
  rfl

/-- The last line is printed if the last check returns. -/
theorem run_finish {result : Except Exit Unit} {bench' : Bench}
    (hrun : Memory.memoryErrorCheck.run host.ram.handler bench = (result, bench')) :
    finish.run (Handler.family host.environment) (states titles reader machine bench) =
      match result with
      | .ok () => (.ok (some 0), states (titles ++ [.clear]) reader machine bench')
      | .error reason => (.error (.exit reason.status), states titles reader machine bench') := by
  have herror := run_error host titles reader machine bench hrun
  have hclear := run_printf host titles reader machine bench' .clear
  cases result with
  | ok value =>
    rw [finish, Prog.run_bind_of_ok _ _ herror, Prog.run_bind_of_ok _ _ hclear]
    rfl
  | error reason => rw [finish, Prog.run_bind_of_error _ _ herror]

end Parts

/-- The rows of the second check. -/
def bandRows (time : ℕ → Cpu.Timeval) : List BandWidth.BandLine :=
  .header :: [BandWidth.Label.Read, .Write, .Copy].map fun label =>
    .row label (BandWidth.rowOf (BandWidth.timesOf time label))

section Faults

variable (host : Host) (cells : BandWidth.Buffer → ℕ → ℚ) (stored : ℕ → BitVec 8)

/-- A command that cannot be run ends the program in its first check. -/
theorem outcome_of_no_command (htext : host.text = none) :
    (host.outcome cells stored).1 = .error .fault ∧
      printed (host.outcome cells stored).2 = ⟨[.functionCheck], [], [], []⟩ := by
  have hfault : (Sysbench.memoryFuncCheck ((host.text.getD []).length + 1)).run host.command
      ⟨host.text.getD [], []⟩ = (.error .nullStream, ⟨host.text.getD [], []⟩) := by
    have hpopen (command mode : String) (reader : Reader Sysbench.SysbenchLine) :
        host.command.answer (.popen command mode) reader = (none, reader) :=
      congrArg (fun output => (Option.map (fun _ => 0) output, reader)) htext
    rw [Sysbench.memoryFuncCheck, Sysbench.popen, Prog.perform_bind, Prog.run_call, hpopen]
    rfl
  rw [Host.outcome, Host.start, run_main_of_fault host _ _ _ hfault]
  exact ⟨rfl, rfl⟩

/-- With the command, the second check is left. -/
theorem outcome_of_command {text : List Char} (htext : host.text = some text) :
    ∃ rest, host.outcome cells stored =
      (memoryBandWidthCheck >>= fun _ => printf .errorCheck >>= fun _ => finish).run (Handler.family host.environment)
        (states [.functionCheck, .bandWidthCheck] ⟨rest, Sysbench.memoryPrinted (text.length + 1) text⟩ ⟨cells, 0, []⟩
          ⟨stored, []⟩) := by
  obtain ⟨rest, hfunction⟩ := run_memoryFuncCheck text
  rw [← command_eq htext] at hfunction
  refine ⟨rest, ?_⟩
  rw [← run_main host ⟨text, []⟩ ⟨cells, 0, []⟩ ⟨stored, []⟩ hfunction, Host.outcome, Host.start, htext]
  rfl

/-- An array that cannot be allocated ends the program in its second check. -/
theorem outcome_of_no_array {text : List Char} (htext : host.text = some text) (harray : host.array = false) :
    (host.outcome cells stored).1 = .error .fault ∧
      printed (host.outcome cells stored).2 =
        ⟨[.functionCheck, .bandWidthCheck], Sysbench.memoryPrinted (text.length + 1) text, [], []⟩ := by
  obtain ⟨rest, houtcome⟩ := outcome_of_command host cells stored htext
  have hfault : BandWidth.memoryBandWidthCheck.run host.arrays ⟨cells, 0, []⟩ =
      (.error .nullPointer, ⟨cells, 0, []⟩) := by
    have hmalloc (size : ℕ) (machine : BandWidth.Machine) :
        host.arrays.answer (.malloc size) machine = (none, machine) :=
      congrArg (fun array : Bool => ((if array then some BandWidth.Buffer.heap else none), machine)) harray
    rw [BandWidth.memoryBandWidthCheck, BandWidth.malloc, Prog.perform_bind, Prog.run_call, hmalloc]
    rfl
  have hband := run_bandWidth host [.functionCheck, .bandWidthCheck]
    ⟨rest, Sysbench.memoryPrinted (text.length + 1) text⟩ ⟨cells, 0, []⟩ ⟨stored, []⟩ hfault
  rw [houtcome, Prog.run_bind_of_error _ _ hband]
  exact ⟨rfl, rfl⟩

/-- With the command and the array, the last check decides. -/
theorem outcome_of_both {text : List Char} (htext : host.text = some text) (harray : host.array = true) :
    Passes host.ram ∧ (host.outcome cells stored).1 = .ok (some 0) ∧
        printed (host.outcome cells stored).2 =
          ⟨opened ++ [.clear], Sysbench.memoryPrinted (text.length + 1) text, bandRows host.time, []⟩ ∨
      ¬Passes host.ram ∧ (host.outcome cells stored).1 = .error (.exit (-1)) ∧
        ∃ line, printed (host.outcome cells stored).2 =
          ⟨opened, Sysbench.memoryPrinted (text.length + 1) text, bandRows host.time, [line]⟩ := by
  obtain ⟨rest, houtcome⟩ := outcome_of_command host cells stored htext
  obtain ⟨machine, hrows, hband⟩ : ∃ machine, machine.printed = bandRows host.time ∧
      BandWidth.memoryBandWidthCheck.run host.arrays ⟨cells, 0, []⟩ = (.ok (), machine) := by
    obtain ⟨last, hrun⟩ := BandWidth.run_memoryBandWidthCheck host.time cells
    rw [arrays_eq harray]
    exact ⟨_, rfl, hrun⟩
  obtain ⟨left, herror⟩ := run_memoryErrorCheck host.ram stored
  rw [houtcome, run_measured host _ _ _ hband, ← hrows]
  rcases herror with ⟨hpasses, hrun⟩ | ⟨hfails, line, hrun⟩
  · rw [run_finish host opened _ machine ⟨stored, []⟩ hrun]
    exact .inl ⟨hpasses, rfl, rfl⟩
  · rw [run_finish host opened _ machine ⟨stored, []⟩ hrun]
    exact .inr ⟨hfails, rfl, line, rfl⟩

end Faults

/-- For every host and whatever the arrays and the memory held. If `sysbench` cannot be run, the program
ends in a fault in its first check, and if the array cannot be allocated, in its second one. Otherwise the
first two checks print their figures and change nothing else: if the block is allocated and has no bit
stuck against the pattern, the program reports the memory as clear and returns 0, and if not, the
pattern test prints one line and ends the program with status -1. -/
theorem clear_iff_passes (host : Host) (cells : BandWidth.Buffer → ℕ → ℚ) (stored : ℕ → BitVec 8) :
    (host.text = none → (host.outcome cells stored).1 = .error .fault ∧
        printed (host.outcome cells stored).2 = ⟨[.functionCheck], [], [], []⟩) ∧
      ∀ text, host.text = some text →
        (host.array = false → (host.outcome cells stored).1 = .error .fault ∧
          printed (host.outcome cells stored).2 =
            ⟨[.functionCheck, .bandWidthCheck], Sysbench.memoryPrinted (text.length + 1) text, [], []⟩) ∧
        (host.array = true →
          Passes host.ram ∧ (host.outcome cells stored).1 = .ok (some 0) ∧
              printed (host.outcome cells stored).2 =
                ⟨opened ++ [.clear], Sysbench.memoryPrinted (text.length + 1) text, bandRows host.time, []⟩ ∨
            ¬Passes host.ram ∧ (host.outcome cells stored).1 = .error (.exit (-1)) ∧
              ∃ line, printed (host.outcome cells stored).2 =
                ⟨opened, Sysbench.memoryPrinted (text.length + 1) text, bandRows host.time, [line]⟩) :=
  ⟨outcome_of_no_command host cells stored, fun _ htext =>
    ⟨outcome_of_no_array host cells stored htext, outcome_of_both host cells stored htext⟩⟩

end Maestro.Memory.Program
