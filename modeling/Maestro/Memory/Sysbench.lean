import Maestro.Cpu.Verdict
import Maestro.Text.Carried

/-!
# The values that the test programs read from `sysbench`

`memoryFuncCheck` and `cpuPerformCheck` look for words in the lines that `sysbench` prints, read
the number that follows them, and print it. Whether there is a number is not checked. The main
result says for which outputs the printed values are those of the lines that they stand for.
-/

namespace Maestro.Memory.Sysbench

open Effect Text

/-- The printed lines. -/
inductive SysbenchLine where
  | operations (oper : Option Number)
  | transferred (trans : Option Number)
deriving DecidableEq

/-- The printed text; a variable without a value prints anything. -/
def SysbenchLine.text : SysbenchLine → Option String
  | operations oper =>
    oper.map fun value => "\x1b[0;32m    [+] Total operations: " ++ value.text ++ "\n\x1b[0m"
  | transferred rate =>
    rate.map fun value => "\x1b[0;32m    [+] MiB Transferred: " ++ value.text ++ " MiB/sec\n\x1b[0m"

/-- The calls of the check. -/
inductive SysbenchCall where
  | popen (command mode : String)
  | fgets (size fp : ℕ)
  | pclose (fp : ℕ)
  | printf (line : SysbenchLine)

/-- `popen` is answered with a stream or `NULL`, and `fgets` with the line read or `NULL`. -/
abbrev SysbenchCalls : Interface where
  Call := SysbenchCall
  Reply
    | .popen _ _ => Option ℕ
    | .fgets _ _ => Option (List Char)
    | .pclose _ => ℤ
    | .printf _ => Unit

/-- The check ends in a fault when it reads from a stream that was not opened. -/
inductive Fault where
  | nullStream
deriving DecidableEq

abbrev SysbenchProg (α : Type) := Prog SysbenchCalls Fault α

def popen (command mode : String) : SysbenchProg (Option ℕ) :=
  Prog.perform (I := SysbenchCalls) (.popen command mode)

def fgets (size fp : ℕ) : SysbenchProg (Option (List Char)) :=
  Prog.perform (I := SysbenchCalls) (.fgets size fp)

def pclose (fp : ℕ) : SysbenchProg ℤ := Prog.perform (I := SysbenchCalls) (.pclose fp)
def printf (line : SysbenchLine) : SysbenchProg Unit := Prog.perform (I := SysbenchCalls) (.printf line)

/-- The size of the buffer. -/
def bufferSize : ℕ := 1024

/-- The loop over the output. A line with one of the words prints its variable, whether or not a
number was found in it; at the start the variables have no value. What follows the number in the
second format has no influence on the value. -/
def readFigures (fp fuel : ℕ) (oper trans : Option Number) : SysbenchProg (Option Unit) :=
  match fuel with
  | 0 => return none
  | fuel + 1 => do
    let line ← fgets bufferSize fp
    match line with
    | none => return some ()
    | some buffer =>
      match strstr buffer "Total operations".toList with
      | some ptr =>
        let oper := (sscanf "Total operations: " ptr).or oper
        printf (.operations oper)
        readFigures fp fuel oper trans
      | none =>
        match strstr buffer "transferred".toList with
        | some ptr =>
          let trans := (sscanf "transferred (" ptr).or trans
          printf (.transferred trans)
          readFigures fp fuel oper trans
        | none => readFigures fp fuel oper trans

/-- The stream is closed when the loop has ended. -/
def closeAfter (fp : ℕ) : Option Unit → SysbenchProg (Option Unit)
  | none => return none
  | some () => do
    let _ ← pclose fp
    return some ()

/-- The memory check; it does not look whether the command could be run. -/
def memoryFuncCheck (fuel : ℕ) : SysbenchProg (Option Unit) := do
  let fp ← popen "sysbench memory --threads=4 run" "r"
  match fp with
  | none => Prog.stop .nullStream
  | some fp =>
    let read ← readFigures fp fuel none none
    closeAfter fp read

/-- A host on which the command prints a text. -/
def sysbench : Handler SysbenchCalls (Reader SysbenchLine) where
  answer
    | .popen _ _, reader => (some 0, reader)
    | .fgets size _, reader => reader.read size
    | .pclose _, reader => (0, reader)
    | .printf line, reader => ((), reader.print line)

/-- The two variables of the memory check. -/
inductive Figure where
  | oper
  | trans
deriving DecidableEq

/-- The variable that a line asks for, and the number in the line. -/
def figureOf (buffer : List Char) : Option (Figure × Option Number) :=
  match strstr buffer "Total operations".toList with
  | some ptr => some (.oper, sscanf "Total operations: " ptr)
  | none => (strstr buffer "transferred".toList).map fun ptr => (.trans, sscanf "transferred (" ptr)

/-- What the lines of an output ask for. -/
def askedFigures (text : List Char) : List (Figure × Option Number) :=
  (lines bufferSize text).filterMap fun line => figureOf (cString line)

/-- The line that prints a variable. -/
def figureLine : Figure × Option Number → SysbenchLine
  | (.oper, value) => .operations value
  | (.trans, value) => .transferred value

/-- The values of the variables. -/
def held (oper trans : Option Number) : Figure → Option Number
  | .oper => oper
  | .trans => trans

/-- A new number of operations. -/
theorem update_oper (oper trans value : Option Number) :
    Function.update (held oper trans) .oper value = held value trans := by
  funext figure
  cases figure <;> rfl

/-- A new amount that was transferred. -/
theorem update_trans (oper trans value : Option Number) :
    Function.update (held oper trans) .trans value = held oper value := by
  funext figure
  cases figure <;> rfl

/-- A buffer holds a character. -/
theorem one_lt_bufferSize : 1 < bufferSize := by decide

/-- What the loop goes on with after a line. -/
theorem askedFigures_of_some {text line rest : List Char} (hread : Text.fgets bufferSize text = some (line, rest)) :
    askedFigures text = (figureOf (cString line)).toList ++ askedFigures rest := by
  rw [askedFigures, lines_of_some one_lt_bufferSize hread, List.filterMap_cons]
  cases figureOf (cString line) <;> rfl

/-- A read is one of the output. -/
theorem answer_fgets (reader : Reader SysbenchLine) (size fp : ℕ) :
    sysbench.answer (.fgets size fp) reader = reader.read size := rfl

/-- The output is read to its end, and for every line that asks for it the variable is printed. -/
theorem run_readFigures (fp : ℕ) {fuel : ℕ} (reader : Reader SysbenchLine) (hfuel : reader.rest.length < fuel)
    (oper trans : Option Number) :
    ∃ rest, (readFigures fp fuel oper trans).run sysbench reader =
      (.ok (some ()), ⟨rest, reader.printed ++
        (carried (held oper trans) (askedFigures reader.rest)).map figureLine⟩) := by
  induction fuel generalizing reader oper trans with
  | zero => cases hfuel
  | succ fuel ih =>
    rw [readFigures, fgets, Prog.perform_bind, Prog.run_call]
    cases hread : Text.fgets bufferSize reader.rest with
    | none =>
      rw [answer_fgets, Reader.read_of_none hread, askedFigures, lines_of_none hread]
      refine ⟨reader.rest, ?_⟩
      rw [List.filterMap_nil, carried, List.map_nil, List.append_nil]
      rfl
    | some piece =>
      obtain ⟨line, rest⟩ := piece
      have hlt : rest.length < fuel := length_lt_of_fgets_of_lt_succ one_lt_bufferSize hread hfuel
      rw [answer_fgets, Reader.read_of_some hread, askedFigures_of_some hread, figureOf]
      dsimp only
      cases strstr (cString line) "Total operations".toList with
      | some ptr =>
        dsimp only
        rw [Option.toList_some, List.singleton_append, carried, update_oper, List.map_cons, List.append_cons]
        exact ih ⟨rest, _⟩ hlt _ trans
      | none =>
        dsimp only
        cases strstr (cString line) "transferred".toList with
        | some ptr =>
          dsimp only
          rw [Option.map_some, Option.toList_some, List.singleton_append, carried, update_trans, List.map_cons,
            List.append_cons]
          exact ih ⟨rest, _⟩ hlt oper _
        | none => exact ih ⟨rest, reader.printed⟩ hlt oper trans

/-- What the memory check prints for an output. -/
def memoryPrinted (fuel : ℕ) (text : List Char) : List SysbenchLine :=
  ((memoryFuncCheck fuel).run sysbench ⟨text, []⟩).2.printed

/-- The memory check prints the values that its variables carry from line to line. -/
theorem memoryPrinted_eq {fuel : ℕ} {text : List Char} (hfuel : text.length < fuel) :
    memoryPrinted fuel text = (carried (held none none) (askedFigures text)).map figureLine := by
  obtain ⟨rest, hrun⟩ := run_readFigures 0 ⟨text, []⟩ hfuel none none
  rw [memoryPrinted]
  change ((readFigures 0 fuel none none >>= closeAfter 0).run sysbench ⟨text, []⟩).2.printed = _
  rw [Prog.run_bind_of_ok _ _ hrun]
  rfl

/-- Lines for different values differ. -/
theorem figureLine_injective : Function.Injective figureLine := by
  intro first last heq
  obtain ⟨figure, value⟩ := first
  obtain ⟨figure', value'⟩ := last
  cases figure <;> cases figure' <;> cases heq <;> rfl

section Events

open Cpu

/-- What the lines of an output ask the performance check for: there is one variable. -/
def askedEvents (text : List Char) : List (Unit × Option Number) :=
  (lines Cpu.BUFFER_SIZE text).filterMap fun line =>
    (strstr (cString line) "events per second".toList).map fun ptr => ((), sscanf "events per second: " ptr)

/-- The line that prints the variable. -/
def eventLine (asked : Unit × Option Number) : CpuLine := .eventsPerSecond asked.2

/-- So do the lines of the performance check. -/
theorem eventLine_injective : Function.Injective eventLine := fun _ _ heq =>
  Prod.ext rfl (CpuLine.eventsPerSecond.inj heq)

/-- The loop of the performance check carries its variable from line to line. -/
theorem printedEvents_eq (speed : Option Number) (pieces : List (List Char)) :
    printedEvents speed pieces = (carried (fun _ => speed) (pieces.filterMap fun line =>
      (strstr (cString line) "events per second".toList).map fun ptr =>
        ((), sscanf "events per second: " ptr))).map eventLine := by
  induction pieces generalizing speed with
  | nil => rfl
  | cons piece pieces ih =>
    rw [printedEvents, List.filterMap_cons]
    cases strstr (cString piece) "events per second".toList with
    | none => exact ih speed
    | some ptr =>
      have hupdate : Function.update (fun _ : Unit => speed) () ((sscanf "events per second: " ptr).or speed) =
          fun _ => (sscanf "events per second: " ptr).or speed := funext fun _ => rfl
      rw [Option.map_some]
      dsimp only
      rw [ih, carried, hupdate]
      rfl

/-- What the performance check prints on a host. -/
def eventsPrinted (fuel : ℕ) (host : Host) : List CpuLine :=
  ((cpuPerformCheck fuel).run host.handler opening).2.printed

/-- The performance check prints the values that its variable carries from line to line. -/
theorem eventsPrinted_eq {fuel : ℕ} {host : Host} {text : List Char}
    (htext : host.output sysbenchCommand = some text) (hfuel : text.length < fuel) :
    eventsPrinted fuel host = (carried (fun _ => none) (askedEvents text)).map eventLine := by
  have hall : ∀ other, host.output sysbenchCommand = some other → other.length < fuel := by
    intro other hother
    rw [htext, Option.some.injEq] at hother
    rwa [← hother]
  rcases runs_cpuPerformCheck host fuel [] hall with ⟨hnone, -⟩ | ⟨other, left, hother, hruns⟩
  · exact absurd (hnone.symm.trans htext) nofun
  · obtain ⟨after, hrun, -, hprinted⟩ := hruns opening rfl
    change (cpuPerformCheck fuel).run host.handler opening = _ at hrun
    change after.printed = [] ++ printedEvents none (lines Cpu.BUFFER_SIZE other) at hprinted
    rw [htext, Option.some.injEq] at hother
    rw [eventsPrinted, hrun, hprinted, ← hother, printedEvents_eq]
    rfl

end Events

/-- For all outputs of the two commands: each check prints the values found in the lines themselves,
and nothing for a line with the words but no number, if and only if every line with the words has
a number. A line is what one read returns. -/
theorem printed_values_iff (fuel : ℕ) (text : List Char) (hfuel : text.length < fuel) (host : Cpu.Host)
    (output : List Char) (houtput : host.output Cpu.sysbenchCommand = some output)
    (hfuel' : output.length < fuel) :
    (memoryPrinted fuel text = (ownValues (askedFigures text)).map figureLine ↔
        ∀ asked ∈ askedFigures text, asked.2.isSome = true) ∧
      (eventsPrinted fuel host = (ownValues (askedEvents output)).map eventLine ↔
        ∀ asked ∈ askedEvents output, asked.2.isSome = true) := by
  rw [memoryPrinted_eq hfuel, eventsPrinted_eq houtput hfuel', List.map_inj_right figureLine_injective,
    List.map_inj_right eventLine_injective, carried_eq_ownValues_iff, carried_eq_ownValues_iff]
  exact ⟨Iff.rfl, Iff.rfl⟩

/-- An output whose second line has the words and no number. -/
def withoutNumber : List Char := "Total operations: 7\nTotal operations: n/a\n".toList

/-- The memory check prints the number of the first line twice. -/
theorem earlier_value_printed :
    memoryPrinted 50 withoutNumber ≠ (ownValues (askedFigures withoutNumber)).map figureLine := by
  rw [memoryPrinted_eq (by decide), ne_eq, List.map_inj_right figureLine_injective, carried_eq_ownValues_iff]
  decide

/-- The condition fails for the memory check of this output, and holds for the performance check of an
output without the words. -/
theorem printed_values_withoutNumber :
    (memoryPrinted 50 withoutNumber = (ownValues (askedFigures withoutNumber)).map figureLine ↔
        ∀ asked ∈ askedFigures withoutNumber, asked.2.isSome = true) ∧
      (eventsPrinted 50 ⟨fun _ => some "idle\n".toList, fun _ => Cpu.epoch⟩ =
          (ownValues (askedEvents "idle\n".toList)).map eventLine ↔
        ∀ asked ∈ askedEvents "idle\n".toList, asked.2.isSome = true) :=
  printed_values_iff 50 withoutNumber (by decide) ⟨fun _ => some "idle\n".toList, fun _ => Cpu.epoch⟩
    "idle\n".toList rfl (by decide)

end Maestro.Memory.Sysbench
