import Maestro.Cpu.Verdict
import Maestro.Effect.Protocol
import Mathlib.Algebra.Order.Group.Multiset

/-!
# The processor checks of `ExampleCode`

`cpu.c` and `Cpu_Test` of `test.c` run the same four commands as the CPU test program and look at the same
two lines of their output; `cpu.c` also prints the other two outputs. All three find the same on every host.
Neither of the two reads from a stream that is not open, but when they fail they leave their streams open.
-/

namespace Maestro.Cpu.Probe

open Effect Text

/-- The printed lines. -/
inductive ProbeLine where
  | failedToRun
  | started
  | output (buffer : List Char)
  | memoryOkay
  | processors (number : ℤ)
  | processorAlright
  | readFailed
  | finished
deriving DecidableEq

/-- The printed text; the misspelt word is that of the source. -/
def ProbeLine.text : ProbeLine → String
  | failedToRun => "Failed to run command\n"
  | started => "CPU Test Start \n"
  | output buffer => String.ofList buffer
  | memoryOkay => "Memory access Okay\n"
  | processors number => "Number of processors: " ++ toString number ++ "\n"
  | processorAlright => "Processor is alright\n"
  | readFailed => "Failed to read output\n"
  | finished => "CPU Test Finsih \n"

/-- The calls of both programs. -/
inductive ProbeCall where
  | popen (command mode : String)
  | fgets (size fp : ℕ)
  | pclose (fp : ℕ)
  | printf (line : ProbeLine)

/-- `popen` is answered with a stream or `NULL`, and `fgets` with the line read or `NULL`. -/
abbrev ProbeCalls : Interface where
  Call := ProbeCall
  Reply
    | .popen _ _ => Option ℕ
    | .fgets _ _ => Option (List Char)
    | .pclose _ => ℤ
    | .printf _ => Unit

abbrev ProbeProg (α : Type) := Prog ProbeCalls Empty α

def popen (command mode : String) : ProbeProg (Option ℕ) := Prog.perform (I := ProbeCalls) (.popen command mode)
def fgets (size fp : ℕ) : ProbeProg (Option (List Char)) := Prog.perform (I := ProbeCalls) (.fgets size fp)
def pclose (fp : ℕ) : ProbeProg ℤ := Prog.perform (I := ProbeCalls) (.pclose fp)
def printf (line : ProbeLine) : ProbeProg Unit := Prog.perform (I := ProbeCalls) (.printf line)

/-- `printFile`; `none` means that it is still reading. -/
def printFile (file : ℕ) : ℕ → ProbeProg (Option Unit)
  | 0 => return none
  | fuel + 1 => do
    let line ← fgets BUFFER_SIZE file
    match line with
    | none => return some ()
    | some buffer =>
      printf (.output buffer)
      printFile file fuel

/-- The look at the available memory. -/
def showMemory (lsmem : ℕ) : ProbeProg Unit := lookMemory (fgets BUFFER_SIZE lsmem) (printf .memoryOkay)

/-- The report of a missing line. -/
def readFailed : ProbeProg Bool := do
  printf .readFailed
  return false

/-- The look at the number of processors; without a line both programs return at once. -/
def showProcessors (cpuinfo : ℕ) : ProbeProg Bool :=
  lookProcessors (fgets BUFFER_SIZE cpuinfo) readFailed (fun number => printf (.processors number))
    (printf .processorAlright) true

/-- The streams are closed in the order in which they were opened. -/
def closeAll (cpuinfo modelname lscpu lsmem : ℕ) : ProbeProg Unit := do
  let _ ← pclose cpuinfo
  let _ ← pclose modelname
  let _ ← pclose lscpu
  let _ ← pclose lsmem
  return ()

/-- `cpu.c` after the second file. -/
def afterModel (cpuinfo modelname lscpu lsmem : ℕ) : Option Unit → ProbeProg (Option ℤ)
  | none => return none
  | some () => do
    let read ← showProcessors cpuinfo
    if read then do
      closeAll cpuinfo modelname lscpu lsmem
      return some 0
    else return some 1

/-- `cpu.c` after the first file. -/
def afterCpu (fuel cpuinfo modelname lscpu lsmem : ℕ) : Option Unit → ProbeProg (Option ℤ)
  | none => return none
  | some () => do
    showMemory lsmem
    let printed ← printFile modelname fuel
    afterModel cpuinfo modelname lscpu lsmem printed

/-- `cpu.c` with its four streams open. -/
def mainStreams (fuel cpuinfo modelname lscpu lsmem : ℕ) : ProbeProg (Option ℤ) := do
  let printed ← printFile lscpu fuel
  afterCpu fuel cpuinfo modelname lscpu lsmem printed

/-- `cpu.c` without one of the streams. -/
def mainFailed : ProbeProg (Option ℤ) := do
  printf .failedToRun
  return some 1

/-- `main` of `cpu.c`, with fuel for the files that it prints. -/
def main (fuel : ℕ) : ProbeProg (Option ℤ) := withStreams popen (mainStreams fuel) mainFailed

/-- `Cpu_Test` with its four streams open. -/
def testStreams (cpuinfo modelname lscpu lsmem : ℕ) : ProbeProg Unit := do
  printf .started
  showMemory lsmem
  let read ← showProcessors cpuinfo
  if read then do
    printf .finished
    closeAll cpuinfo modelname lscpu lsmem
  else return ()

/-- `Cpu_Test` of `test.c`. -/
def Cpu_Test : ProbeProg Unit := withStreams popen testStreams (printf .failedToRun)

/-- The streams opened so far and those that are open still, and whether the last line was printed. -/
structure Streams where
  opened : Multiset ℕ
  held : Multiset ℕ
  finished : Bool

/-- A stream is read and closed only while it is open. -/
def streams : Protocol ProbeCalls Streams where
  next s exchange :=
    match exchange with
    | ⟨.popen _ _, some fp⟩ => { s with opened := fp ::ₘ s.opened, held := fp ::ₘ s.held }
    | ⟨.pclose fp, _⟩ => { s with held := s.held.erase fp }
    | ⟨.printf .finished, _⟩ => { s with finished := true }
    | _ => s
  Allows s exchange :=
    match exchange.request with
    | .fgets _ fp => fp ∈ s.held
    | .pclose fp => fp ∈ s.held
    | _ => True

section Leaks

variable {s : Streams}

/-- Printing a file leaves the streams as they are. -/
theorem meets_printFile {file : ℕ} (hopen : file ∈ s.held) (fuel : ℕ) :
    (printFile file fuel).Meets streams (fun _ => (· = s)) (fun _ _ => False) s := by
  induction fuel with
  | zero => exact rfl
  | succ fuel ih =>
    intro line
    refine ⟨hopen, ?_⟩
    cases line with
    | none => exact rfl
    | some buffer => exact fun _ => ⟨trivial, ih⟩

/-- So does the look at the memory. -/
theorem meets_showMemory {lsmem : ℕ} (hopen : lsmem ∈ s.held) :
    (showMemory lsmem).Meets streams (fun _ => (· = s)) (fun _ _ => False) s := by
  intro line
  refine ⟨hopen, ?_⟩
  cases line with
  | none => exact rfl
  | some buffer =>
    change (if 0 < atoi buffer then _ else _ : ProbeProg Unit).Meets streams _ _ s
    split
    · exact fun _ => ⟨trivial, rfl⟩
    · exact rfl

/-- So does the look at the number of processors. -/
theorem meets_showProcessors {cpuinfo : ℕ} (hopen : cpuinfo ∈ s.held) :
    (showProcessors cpuinfo).Meets streams (fun _ => (· = s)) (fun _ _ => False) s := by
  intro line
  refine ⟨hopen, ?_⟩
  cases line with
  | none => exact fun _ => ⟨trivial, rfl⟩
  | some buffer =>
    refine fun _ => ⟨trivial, ?_⟩
    change (if atoi buffer = 4 then _ else _ : ProbeProg Bool).Meets streams _ _ s
    split
    · exact fun _ => ⟨trivial, rfl⟩
    · exact rfl

/-- The four streams are open. -/
def Streams.Full (s : Streams) (cpuinfo modelname lscpu lsmem : ℕ) : Prop :=
  s.held = cpuinfo ::ₘ modelname ::ₘ lscpu ::ₘ {lsmem}

/-- Closing the four streams leaves none. -/
theorem meets_closeAll {cpuinfo modelname lscpu lsmem : ℕ} (hfull : s.Full cpuinfo modelname lscpu lsmem) :
    (closeAll cpuinfo modelname lscpu lsmem).Meets streams
      (fun _ s' => s'.held = 0 ∧ s'.opened = s.opened ∧ s'.finished = s.finished) (fun _ _ => False) s := by
  obtain ⟨opened, held, finished⟩ := s
  obtain rfl : held = _ := hfull
  have hopen (fp : ℕ) (rest : Multiset ℕ) (status : ℤ) :
      streams.Allows ⟨opened, fp ::ₘ rest, finished⟩ ⟨.pclose fp, status⟩ := Multiset.mem_cons_self fp rest
  have hclose (fp : ℕ) (rest : Multiset ℕ) (status : ℤ) :
      streams.next ⟨opened, fp ::ₘ rest, finished⟩ ⟨.pclose fp, status⟩ = ⟨opened, rest, finished⟩ := by
    change Streams.mk opened ((fp ::ₘ rest).erase fp) finished = _
    rw [Multiset.erase_cons_head]
  intro first
  refine ⟨hopen cpuinfo _ first, ?_⟩
  rw [hclose]
  intro second
  refine ⟨hopen modelname _ second, ?_⟩
  rw [hclose]
  intro third
  refine ⟨hopen lscpu _ third, ?_⟩
  rw [hclose]
  intro fourth
  refine ⟨hopen lsmem 0 fourth, ?_⟩
  change Multiset.erase (lsmem ::ₘ 0) lsmem = 0 ∧ _
  rw [Multiset.erase_cons_head]
  exact ⟨rfl, rfl, rfl⟩

/-- The streams after the four commands: all of them are open, and were opened. -/
theorem meets_withStreams {α : Type} {post : α → Streams → Prop} {check : ℕ → ℕ → ℕ → ℕ → ProbeProg α}
    {fail : ProbeProg α}
    (hcheck : ∀ cpuinfo modelname lscpu lsmem s, s.held = s.opened → s.finished = false →
      s.Full cpuinfo modelname lscpu lsmem →
      (check cpuinfo modelname lscpu lsmem).Meets streams post (fun _ _ => False) s)
    (hfail : ∀ s, s.held = s.opened → s.finished = false → fail.Meets streams post (fun _ _ => False) s) :
    (withStreams popen check fail).Meets streams post (fun _ _ => False) ⟨0, 0, false⟩ := by
  have hopen (command : String) (fp : Option ℕ) (held : Multiset ℕ) :
      streams.next ⟨held, held, false⟩ ⟨.popen command "r", fp⟩ =
        ⟨fp.elim held (· ::ₘ held), fp.elim held (· ::ₘ held), false⟩ := by
    cases fp <;> rfl
  intro cpuinfo
  refine ⟨trivial, fun modelname => ⟨trivial, fun lscpu => ⟨trivial, fun lsmem => ⟨trivial, ?_⟩⟩⟩⟩
  rw [hopen, hopen, hopen, hopen]
  cases cpuinfo <;> cases modelname <;> cases lscpu <;> cases lsmem
  case some.some.some.some cpuinfo modelname lscpu lsmem =>
    exact hcheck cpuinfo modelname lscpu lsmem _ rfl rfl
      (Multiset.coe_eq_coe.mpr (List.reverse_perm [cpuinfo, modelname, lscpu, lsmem]))
  all_goals exact hfail _ rfl rfl

/-- `main` leaves its streams open exactly if it returns 1. -/
theorem meets_main (fuel : ℕ) :
    (main fuel).Meets streams
      (fun value s => value = none ∨ value = some 0 ∧ s.held = 0 ∨ value = some 1 ∧ s.held = s.opened)
      (fun _ _ => False) ⟨0, 0, false⟩ := by
  refine meets_withStreams (fun cpuinfo modelname lscpu lsmem s hheld _ hfull => ?_) fun s hheld _ => ?_
  · have hopen : cpuinfo ∈ s.held ∧ modelname ∈ s.held ∧ lscpu ∈ s.held ∧ lsmem ∈ s.held := by
      rw [hfull]
      simp
    refine (meets_printFile hopen.2.2.1 fuel).bind fun printed _ hsame => ?_
    rw [hsame]
    cases printed with
    | none => exact .inl rfl
    | some printed =>
      refine (meets_showMemory hopen.2.2.2).bind fun _ _ hsame => ?_
      rw [hsame]
      refine (meets_printFile hopen.2.1 fuel).bind fun printed _ hsame => ?_
      rw [hsame]
      cases printed with
      | none => exact .inl rfl
      | some printed =>
        refine (meets_showProcessors hopen.1).bind fun read _ hsame => ?_
        rw [hsame]
        cases read with
        | false => exact .inr (.inr ⟨rfl, hheld⟩)
        | true => exact (meets_closeAll hfull).bind fun _ _ hclosed => .inr (.inl ⟨rfl, hclosed.1⟩)
  · exact fun _ => ⟨trivial, .inr (.inr ⟨rfl, hheld⟩)⟩

/-- `Cpu_Test` leaves its streams open exactly if it does not print its last line. -/
theorem meets_Cpu_Test :
    Cpu_Test.Meets streams (fun _ s => s.held = if s.finished then 0 else s.opened) (fun _ _ => False)
      ⟨0, 0, false⟩ := by
  have hleft {s : Streams} (hheld : s.held = s.opened) (hfinished : s.finished = false) :
      s.held = if s.finished then 0 else s.opened := by
    rw [hfinished]
    exact hheld
  refine meets_withStreams (fun cpuinfo modelname lscpu lsmem s hheld hfinished hfull => ?_) fun s hheld hfinished =>
    fun _ => ⟨trivial, hleft hheld hfinished⟩
  have hopen : cpuinfo ∈ s.held ∧ lsmem ∈ s.held := by
    rw [hfull]
    simp
  refine fun _ => ⟨trivial, ?_⟩
  refine (meets_showMemory hopen.2).bind fun _ _ hsame => ?_
  rw [hsame]
  refine (meets_showProcessors hopen.1).bind fun read _ hsame => ?_
  rw [hsame]
  cases read with
  | false => exact hleft hheld hfinished
  | true =>
    have hclosing := meets_closeAll (s := { s with finished := true }) hfull
    refine fun _ => ⟨trivial, hclosing.mono (fun _ closed hclosed => ?_) fun _ _ => id⟩
    rw [hclosed.1, hclosed.2.2]
    rfl

/-- The files are read and closed only while they are open. They stay open exactly if the program fails. -/
theorem streams_left {fuel : ℕ} (probed : (main fuel).Returned) (tested : Cpu_Test.Returned) :
    (streams.Keeps ⟨0, 0, false⟩ probed.log ∧
      (probed.value = some 0 → (streams.after ⟨0, 0, false⟩ probed.log).held = 0) ∧
      (probed.value = some 1 →
        (streams.after ⟨0, 0, false⟩ probed.log).held = (streams.after ⟨0, 0, false⟩ probed.log).opened)) ∧
    streams.Keeps ⟨0, 0, false⟩ tested.log ∧
      (streams.after ⟨0, 0, false⟩ tested.log).held =
        if (streams.after ⟨0, 0, false⟩ tested.log).finished then 0
        else (streams.after ⟨0, 0, false⟩ tested.log).opened := by
  obtain ⟨hprobed, hleft⟩ := (meets_main fuel).of_course probed.course
  refine ⟨⟨hprobed, fun hzero => ?_, fun hone => ?_⟩, meets_Cpu_Test.of_course tested.course⟩
  · rcases hleft with hnone | ⟨-, hheld⟩ | ⟨hone, -⟩
    · cases hnone.symm.trans hzero
    · exact hheld
    · cases hone.symm.trans hzero
  · rcases hleft with hnone | ⟨hzero, -⟩ | ⟨-, hheld⟩
    · cases hnone.symm.trans hone
    · cases hzero.symm.trans hone
    · exact hheld

end Leaks

/-- What a check finds. -/
inductive Finding where
  | notRun
  | memoryOkay
  | processors (number : ℤ)
  | processorAlright
  | readFailed
deriving DecidableEq

/-- The finding that a line reports. -/
def ProbeLine.finding : ProbeLine → Option Finding
  | failedToRun => some .notRun
  | memoryOkay => some .memoryOkay
  | processors number => some (.processors number)
  | processorAlright => some .processorAlright
  | readFailed => some .readFailed
  | _ => none

/-- The finding that a line of the CPU test program reports. -/
def lineFinding : CpuLine → Option Finding
  | .notRun => some .notRun
  | .memoryOkay => some .memoryOkay
  | .processors number => some (.processors number)
  | .processorAlright => some .processorAlright
  | .readFailed => some .readFailed
  | _ => none

/-- What is found in the line for the memory. -/
def memoryFindings (line : Option (List Char)) : List Finding := memoryLines .memoryOkay line

/-- What is found in the line for the processors. -/
def processorFindings (line : Option (List Char)) : List Finding :=
  line.elim [.readFailed] (processorLines .processors .processorAlright)

/-- What is left of the open streams, and the printed lines. -/
structure Transcript where
  streams : List (List Char)
  printed : List ProbeLine

/-- The calls on a host. -/
def handler (host : Host) : Handler ProbeCalls Transcript where
  answer
    | .popen command _, t =>
      ((openStream t.streams (host.output command)).1,
        { t with streams := (openStream t.streams (host.output command)).2 })
    | .fgets size fp, t =>
      ((readStream size t.streams fp).1, { t with streams := (readStream size t.streams fp).2 })
    | .pclose _, t => (0, t)
    | .printf line, t => ((), { t with printed := t.printed ++ [line] })

/-- The streams and the lines of a transcript. -/
def console (host : Host) : Console ProbeCalls Transcript (List (List Char)) ProbeLine where
  handler := handler host
  input := Transcript.streams
  printed := Transcript.printed

section Findings

variable (host : Host)

instance : Decidable (NumStops host) := inferInstanceAs (Decidable (_ ∨ _))

/-- What there is to find on the host. -/
def findings : List Finding :=
  if ∃ command ∈ numCommands, host.output command = none then [.notRun]
  else memoryFindings (host.firstLine lsmemCommand) ++ processorFindings (host.firstLine cpuinfoCommand)

/-- Enough fuel for the two files that are printed. -/
def fileFuel : ℕ :=
  (host.output lscpuCommand).elim 0 List.length + (host.output modelnameCommand).elim 0 List.length + 1

/-- The console serves the commands of its host. -/
theorem serves : Serves (console host) host.output popen fgets where
  popen_runs _ _ _ _ hstreams := by
    subst hstreams
    exact ⟨_, rfl, rfl, (List.append_nil _).symm⟩
  fgets_runs _ _ _ _ hstreams := by
    subst hstreams
    exact ⟨_, rfl, rfl, (List.append_nil _).symm⟩

/-- A line is printed. -/
theorem runs_printf (line : ProbeLine) (streams : List (List Char)) :
    (console host).Runs (printf line) streams (.ok ()) streams [line] :=
  fun _ hstreams => ⟨_, rfl, hstreams, rfl⟩

/-- Closing the streams has no effect on what is left of them. -/
theorem runs_closeAll (streams : List (List Char)) :
    (console host).Runs (closeAll 0 1 2 3) streams (.ok ()) streams [] := by
  have hclose (fp : ℕ) : (console host).Runs (pclose fp) streams (.ok 0) streams [] :=
    fun _ hstreams => ⟨_, rfl, hstreams, (List.append_nil _).symm⟩
  exact (hclose 0).bind_silent ((hclose 1).bind_silent ((hclose 2).bind_silent ((hclose 3).bind_silent
    ((console host).runs_ret () streams))))

/-- A file is printed to its end, with no finding. -/
theorem runs_printFile (fp fuel : ℕ) (text : List Char) (hfuel : text.length < fuel) (streams : List (List Char))
    (hstream : streams[fp]? = some text) :
    ∃ lines : List (List Char), (console host).Runs (printFile fp fuel) streams (.ok (some ()))
      (streams.set fp []) (lines.map .output) := by
  induction fuel generalizing text streams with
  | zero => exact absurd hfuel (Nat.not_lt_zero _)
  | succ fuel ih =>
    have hread := (serves host).read_runs BUFFER_SIZE hstream
    cases hpiece : Text.fgets BUFFER_SIZE text with
    | none =>
      obtain rfl := eq_nil_of_fgets hpiece
      rw [lineOf_of_none hpiece, afterLine_of_none hpiece] at hread
      exact ⟨[], hread.bind_silent ((console host).runs_ret (some ()) _)⟩
    | some piece =>
      obtain ⟨line, rest⟩ := piece
      have hlength : rest.length < fuel := length_lt_of_fgets_of_lt_succ one_lt_BUFFER_SIZE hpiece hfuel
      rw [lineOf_of_some hpiece, afterLine_of_some hpiece] at hread
      have hrest : (streams.set fp rest)[fp]? = some rest := by
        rw [List.getElem?_set_self', hstream]
        rfl
      obtain ⟨lines, hloop⟩ := ih rest hlength _ hrest
      rw [List.set_set] at hloop
      exact ⟨cString line :: lines, hread.bind_silent ((runs_printf host _ _).bind hloop)⟩

/-- The look at the memory. -/
theorem runs_showMemory (streams : List (List Char)) {lsmem : ℕ} {text : List Char}
    (hstream : streams[lsmem]? = some text) :
    (console host).Runs (showMemory lsmem) streams (.ok ()) (streams.set lsmem (afterLine BUFFER_SIZE text))
      (memoryLines .memoryOkay (lineOf BUFFER_SIZE text)) :=
  runs_lookMemory (serves host) (runs_printf host .memoryOkay) hstream

/-- The look at the number of processors goes on if there is a line. -/
theorem runs_showProcessors (streams : List (List Char)) {cpuinfo : ℕ} {text : List Char}
    (hstream : streams[cpuinfo]? = some text) :
    (console host).Runs (showProcessors cpuinfo) streams (.ok (lineOf BUFFER_SIZE text).isSome)
      (streams.set cpuinfo (afterLine BUFFER_SIZE text))
      ((lineOf BUFFER_SIZE text).elim [.readFailed] (processorLines .processors .processorAlright)) := by
  cases hline : lineOf BUFFER_SIZE text with
  | none =>
    exact runs_lookProcessors_of_none (serves host) hstream
      (fun streams => (runs_printf host .readFailed streams).bind ((console host).runs_ret false streams)) hline
  | some buffer =>
    exact runs_lookProcessors_of_some (serves host) hstream (fun number => runs_printf host (.processors number))
      (runs_printf host .processorAlright) hline

/-- With its streams open, `main` prints what it finds in the two lines, between the lines of two files. -/
theorem runs_mainStreams (fuel : ℕ) (cpuinfo modelname lscpu lsmem : List Char) (hlscpu : lscpu.length < fuel)
    (hmodelname : modelname.length < fuel) :
    ∃ (left : List (List Char)) (cpu model : List (List Char)),
      (console host).Runs (mainStreams fuel 0 1 2 3) [cpuinfo, modelname, lscpu, lsmem]
        (.ok (some (if (lineOf BUFFER_SIZE cpuinfo).isSome then 0 else 1))) left
        (cpu.map .output ++ (memoryLines .memoryOkay (lineOf BUFFER_SIZE lsmem) ++ (model.map .output ++
          (lineOf BUFFER_SIZE cpuinfo).elim [.readFailed] (processorLines .processors .processorAlright)))) := by
  obtain ⟨cpu, hcpu⟩ := runs_printFile host 2 fuel lscpu hlscpu [cpuinfo, modelname, lscpu, lsmem] rfl
  have hmemory := runs_showMemory host [cpuinfo, modelname, [], lsmem] (show _[3]? = some lsmem from rfl)
  obtain ⟨model, hmodel⟩ := runs_printFile host 1 fuel modelname hmodelname
    [cpuinfo, modelname, [], afterLine BUFFER_SIZE lsmem] rfl
  have hprocessors := runs_showProcessors host [cpuinfo, [], [], afterLine BUFFER_SIZE lsmem]
    (show _[0]? = some cpuinfo from rfl)
  have hlast (read : Bool) (rest : List (List Char)) :
      (console host).Runs
        (if read then closeAll 0 1 2 3 >>= fun _ => Prog.ret (some 0) else Prog.ret (some 1) : ProbeProg (Option ℤ))
        rest (.ok (some (if read then 0 else 1))) rest [] := by
    cases read with
    | false => exact (console host).runs_ret (some 1) rest
    | true => exact (runs_closeAll host rest).bind_silent ((console host).runs_ret (some 0) rest)
  exact ⟨_, cpu, model, hcpu.bind (hmemory.bind (hmodel.bind (hprocessors.bind_silent_right (hlast _ _))))⟩

/-- With its streams open, `Cpu_Test` prints what it finds, and its last line if it goes on. -/
theorem runs_testStreams (cpuinfo modelname lscpu lsmem : List Char) :
    ∃ left, (console host).Runs (testStreams 0 1 2 3) [cpuinfo, modelname, lscpu, lsmem] (.ok ()) left
      ([.started] ++ (memoryLines .memoryOkay (lineOf BUFFER_SIZE lsmem) ++
        ((lineOf BUFFER_SIZE cpuinfo).elim [.readFailed] (processorLines .processors .processorAlright) ++
          if (lineOf BUFFER_SIZE cpuinfo).isSome then [.finished] else []))) := by
  have hmemory := runs_showMemory host [cpuinfo, modelname, lscpu, lsmem] (show _[3]? = some lsmem from rfl)
  have hprocessors := runs_showProcessors host [cpuinfo, modelname, lscpu, afterLine BUFFER_SIZE lsmem]
    (show _[0]? = some cpuinfo from rfl)
  have hlast (read : Bool) (rest : List (List Char)) :
      (console host).Runs (if read then printf .finished >>= fun _ => closeAll 0 1 2 3 else Prog.ret ()) rest
        (.ok ()) rest (if read then [.finished] else []) := by
    cases read with
    | false => exact (console host).runs_ret () rest
    | true => exact (runs_printf host .finished rest).bind (runs_closeAll host rest)
  exact ⟨_, (runs_printf host .started _).bind (hmemory.bind (hprocessors.bind (hlast _ _)))⟩

/-- A finding is reported by its line. -/
theorem filterMap_memoryLines {Line : Type} (finding : Line → Option Finding) {okay : Line}
    (hokay : finding okay = some .memoryOkay) (line : Option (List Char)) :
    (memoryLines okay line).filterMap finding = memoryFindings line := by
  cases line with
  | none => rfl
  | some buffer =>
    rw [memoryFindings, memoryLines, memoryLines]
    split
    · rw [List.filterMap_cons_some hokay, List.filterMap_nil]
    · rfl

/-- So is the number of processors. -/
theorem filterMap_processorLines {Line : Type} (finding : Line → Option Finding) {report : ℤ → Line} {alright : Line}
    (hreport : ∀ number, finding (report number) = some (.processors number))
    (halright : finding alright = some .processorAlright) (buffer : List Char) :
    (processorLines report alright buffer).filterMap finding = processorFindings (some buffer) := by
  rw [processorFindings, Option.elim_some, processorLines, processorLines,
    List.filterMap_cons_some (hreport (atoi buffer))]
  split
  · rw [List.filterMap_cons_some halright, List.filterMap_nil]
  · rfl

/-- The lines of the two looks have the findings. -/
theorem filterMap_looks (memory cpuinfo : Option (List Char)) :
    (memoryLines .memoryOkay memory).filterMap ProbeLine.finding = memoryFindings memory ∧
      (cpuinfo.elim [.readFailed] (processorLines .processors .processorAlright)).filterMap ProbeLine.finding =
        processorFindings cpuinfo := by
  refine ⟨filterMap_memoryLines ProbeLine.finding rfl memory, ?_⟩
  cases cpuinfo with
  | none => rfl
  | some buffer => exact filterMap_processorLines ProbeLine.finding (fun _ => rfl) rfl buffer

/-- Nothing is found in the lines of a file. -/
theorem filterMap_output (lines : List (List Char)) : (lines.map .output).filterMap ProbeLine.finding = [] := by
  rw [List.filterMap_map]
  exact List.filterMap_eq_nil_iff.mpr fun _ _ => rfl

/-- The last line is in neither of the two looks. -/
theorem finished_not_mem_looks (memory cpuinfo : Option (List Char)) :
    ProbeLine.finished ∉ memoryLines .memoryOkay memory ∧
      ProbeLine.finished ∉ cpuinfo.elim [.readFailed] (processorLines .processors .processorAlright) := by
  constructor
  · cases memory with
    | none => exact List.not_mem_nil
    | some buffer =>
      rw [memoryLines]
      split <;> simp
  · cases cpuinfo with
    | none => simp
    | some buffer =>
      rw [Option.elim_some, processorLines]
      split <;> simp

/-- `main` of `cpu.c` on a host. -/
def probed : Except Empty (Option ℤ) × Transcript := (main (fileFuel host)).run (handler host) ⟨[], []⟩

/-- `Cpu_Test` on a host. -/
def tested : Except Empty Unit × Transcript := Cpu_Test.run (handler host) ⟨[], []⟩

/-- The processor check of the CPU test program on a host. -/
def checked : Except Exit Unit × Session := cpuNumCheck.run host.handler opening

section Outcomes

variable {α : Type} {left : List (List Char)}

/-- What a program of the two does on the console is what it does from its start. -/
theorem run_of_runs {program : ProbeProg α} {result : Except Empty α} {lines : List ProbeLine}
    (hruns : (console host).Runs program [] result left lines) :
    (program.run (handler host) ⟨[], []⟩).1 = result ∧ (program.run (handler host) ⟨[], []⟩).2.printed = lines := by
  obtain ⟨after, hrun, -, hprinted⟩ := hruns ⟨[], []⟩ rfl
  change program.run (handler host) ⟨[], []⟩ = _ at hrun
  rw [hrun]
  exact ⟨rfl, hprinted⟩

/-- So it is for the CPU test program. -/
theorem run_opening_of_runs {program : CpuProg Exit α} {result : Except Exit α} {lines : List CpuLine}
    (hruns : host.console.Runs program [] result left lines) :
    (program.run host.handler opening).1 = result ∧ (program.run host.handler opening).2.printed = lines := by
  obtain ⟨after, hrun, -, hprinted⟩ := hruns opening rfl
  change program.run host.handler opening = _ at hrun
  rw [hrun]
  exact ⟨rfl, hprinted⟩

/-- Without one of the commands all three report it and nothing else. -/
theorem outcomes_of_none (hnone : ∃ command ∈ numCommands, host.output command = none) :
    ((probed host).1 = .ok (some 1) ∧ (probed host).2.printed = [.failedToRun]) ∧
      ((tested host).1 = .ok () ∧ (tested host).2.printed = [.failedToRun]) ∧
      (checked host).1 = .error ⟨-1⟩ ∧ (checked host).2.printed = [.notRun] := by
  have hmain (streams : List (List Char)) :
      (console host).Runs mainFailed streams (.ok (some 1)) streams [.failedToRun] :=
    (runs_printf host .failedToRun streams).bind ((console host).runs_ret (some 1) streams)
  obtain ⟨_, hprobed⟩ := runs_withStreams_of_none (serves host) (mainStreams (fileFuel host)) mainFailed hmain hnone
  obtain ⟨_, htested⟩ :=
    runs_withStreams_of_none (serves host) testStreams (printf .failedToRun) (runs_printf host .failedToRun) hnone
  obtain ⟨_, hchecked⟩ := runs_cpuNumCheck_of_none host hnone
  exact ⟨run_of_runs host hprobed, run_of_runs host htested, run_opening_of_runs host hchecked⟩

variable {cpuinfo modelname lscpu lsmem : List Char} (hcpuinfo : host.output cpuinfoCommand = some cpuinfo)
  (hmodelname : host.output modelnameCommand = some modelname) (hlscpu : host.output lscpuCommand = some lscpu)
  (hlsmem : host.output lsmemCommand = some lsmem)

include hcpuinfo hmodelname hlscpu hlsmem

/-- With all commands `main` finds what is in the two lines, though it prints two files in between. -/
theorem outcome_probed :
    (probed host).1 = .ok (some (if (lineOf BUFFER_SIZE cpuinfo).isSome then 0 else 1)) ∧
      (probed host).2.printed.filterMap ProbeLine.finding =
        memoryFindings (lineOf BUFFER_SIZE lsmem) ++ processorFindings (lineOf BUFFER_SIZE cpuinfo) := by
  have hfuel : fileFuel host = lscpu.length + modelname.length + 1 := by
    rw [fileFuel, hlscpu, hmodelname]
    rfl
  obtain ⟨left, cpu, model, hruns⟩ :=
    runs_mainStreams host (fileFuel host) cpuinfo modelname lscpu lsmem (by omega) (by omega)
  have hmain := runs_withStreams_of_some (serves host) (mainStreams (fileFuel host)) mainFailed hcpuinfo hmodelname
    hlscpu hlsmem hruns
  obtain ⟨hresult, hprinted⟩ := run_of_runs host hmain
  obtain ⟨hmemory, hprocessors⟩ := filterMap_looks (lineOf BUFFER_SIZE lsmem) (lineOf BUFFER_SIZE cpuinfo)
  refine ⟨hresult, ?_⟩
  change ((main (fileFuel host)).run (handler host) ⟨[], []⟩).2.printed.filterMap _ = _
  rw [main, hprinted, List.filterMap_append, List.filterMap_append, List.filterMap_append, filterMap_output,
    filterMap_output, hmemory, hprocessors]
  rfl

/-- So does `Cpu_Test`, which prints its last line if there is a line for the number of processors. -/
theorem outcome_tested :
    (tested host).2.printed.filterMap ProbeLine.finding =
        memoryFindings (lineOf BUFFER_SIZE lsmem) ++ processorFindings (lineOf BUFFER_SIZE cpuinfo) ∧
      (.finished ∈ (tested host).2.printed ↔ (lineOf BUFFER_SIZE cpuinfo).isSome) := by
  obtain ⟨left, hruns⟩ := runs_testStreams host cpuinfo modelname lscpu lsmem
  obtain ⟨-, hprinted⟩ := run_of_runs host
    (runs_withStreams_of_some (serves host) testStreams (printf .failedToRun) hcpuinfo hmodelname hlscpu hlsmem hruns)
  obtain ⟨hmemory, hprocessors⟩ := filterMap_looks (lineOf BUFFER_SIZE lsmem) (lineOf BUFFER_SIZE cpuinfo)
  obtain ⟨hfirst, hsecond⟩ := finished_not_mem_looks (lineOf BUFFER_SIZE lsmem) (lineOf BUFFER_SIZE cpuinfo)
  change (Cpu_Test.run (handler host) ⟨[], []⟩).2.printed.filterMap _ = _ ∧
    (_ ∈ (Cpu_Test.run (handler host) ⟨[], []⟩).2.printed ↔ _)
  rw [Cpu_Test, hprinted, List.filterMap_append, List.filterMap_append, List.filterMap_append, hmemory, hprocessors,
    List.mem_append, List.mem_append, List.mem_append, or_iff_right hfirst, or_iff_right hsecond]
  have hrest (read : Bool) : (if read then [ProbeLine.finished] else []).filterMap ProbeLine.finding = [] := by
    cases read <;> rfl
  rw [hrest, List.append_nil]
  exact ⟨rfl, by simp⟩

/-- So does the CPU test program, which ends if there is no such line. -/
theorem outcome_checked :
    (checked host).1 = (if (lineOf BUFFER_SIZE cpuinfo).isSome then .ok () else .error ⟨-1⟩) ∧
      (checked host).2.printed.filterMap lineFinding =
        memoryFindings (lineOf BUFFER_SIZE lsmem) ++ processorFindings (lineOf BUFFER_SIZE cpuinfo) := by
  have hmemory : (memoryLines .memoryOkay (lineOf BUFFER_SIZE lsmem)).filterMap lineFinding = _ :=
    filterMap_memoryLines lineFinding rfl (lineOf BUFFER_SIZE lsmem)
  change (cpuNumCheck.run host.handler opening).1 = _ ∧ (cpuNumCheck.run host.handler opening).2.printed.filterMap _ = _
  cases hline : lineOf BUFFER_SIZE cpuinfo with
  | none =>
    obtain ⟨left, hruns⟩ := runs_checkStreams_of_none host hline modelname lscpu lsmem
    obtain ⟨hresult, hprinted⟩ := run_opening_of_runs host
      (runs_withStreams_of_some (Cpu.serves host) checkStreams numFailed hcpuinfo hmodelname hlscpu hlsmem hruns)
    rw [cpuNumCheck, hresult, hprinted, List.filterMap_append, hmemory]
    exact ⟨rfl, rfl⟩
  | some buffer =>
    obtain ⟨left, hruns⟩ := runs_checkStreams_of_some host hline modelname lscpu lsmem
    obtain ⟨hresult, hprinted⟩ := run_opening_of_runs host
      (runs_withStreams_of_some (Cpu.serves host) checkStreams numFailed hcpuinfo hmodelname hlscpu hlsmem hruns)
    rw [cpuNumCheck, hresult, hprinted, List.filterMap_append, hmemory,
      filterMap_processorLines lineFinding (fun _ => rfl) rfl buffer]
    exact ⟨rfl, rfl⟩

end Outcomes

/-- On every host the three copies of the processor check find the same, and fail together: `main` of `cpu.c`
with status 1, `Cpu_Test` without its last line, and the CPU test program with an exit. -/
theorem probes_agree :
    (((probed host).2.printed.filterMap ProbeLine.finding = findings host ∧
      (tested host).2.printed.filterMap ProbeLine.finding = findings host) ∧
      (checked host).2.printed.filterMap lineFinding = findings host) ∧
    (probed host).1 = .ok (some (if NumStops host then 1 else 0)) ∧
    (.finished ∈ (tested host).2.printed ↔ ¬NumStops host) ∧
    (checked host).1 = if NumStops host then .error ⟨-1⟩ else .ok () := by
  unfold findings
  by_cases hnone : ∃ command ∈ numCommands, host.output command = none
  · have hstops : NumStops host := .inl hnone
    obtain ⟨⟨hprobed, hprobed'⟩, ⟨-, htested⟩, hchecked, hchecked'⟩ := outcomes_of_none host hnone
    rw [if_pos hnone, if_pos hstops, if_pos hstops, hprobed, hprobed', htested, hchecked, hchecked']
    exact ⟨⟨⟨rfl, rfl⟩, rfl⟩, rfl, iff_of_false (by simp) (not_not_intro hstops), rfl⟩
  · obtain ⟨cpuinfo, modelname, lscpu, lsmem, hcpuinfo, hmodelname, hlscpu, hlsmem⟩ := exists_outputs hnone
    have hstops : NumStops host ↔ ¬(lineOf BUFFER_SIZE cpuinfo).isSome := by
      rw [NumStops, or_iff_right hnone, firstLine_eq host hcpuinfo, Option.not_isSome_iff_eq_none]
    obtain ⟨hprobed, hprobedFound⟩ := outcome_probed host hcpuinfo hmodelname hlscpu hlsmem
    obtain ⟨htestedFound, hlast⟩ := outcome_tested host hcpuinfo hmodelname hlscpu hlsmem
    obtain ⟨hchecked, hcheckedFound⟩ := outcome_checked host hcpuinfo hmodelname hlscpu hlsmem
    rw [if_neg hnone, firstLine_eq host hlsmem, firstLine_eq host hcpuinfo, hprobed, hchecked]
    refine ⟨⟨⟨hprobedFound, htestedFound⟩, hcheckedFound⟩, ?_⟩
    simp only [hstops, not_not, ite_not]
    exact ⟨trivial, hlast, trivial⟩

end Findings

end Maestro.Cpu.Probe
