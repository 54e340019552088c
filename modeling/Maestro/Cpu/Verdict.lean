import Maestro.Cpu.CpuTest

/-!
# What the last line of the CPU test program says

The program prints that the CPU is clear whenever it comes to its end, whatever the checks found.
The main result says for which outputs of the commands this is right: when all three checks are
passed, and when the program does not come to its end.
-/

namespace Maestro.Cpu

open Effect Text

section Verdict

variable (host : Host)

/-- The line that is read of the output of a command. -/
def Host.firstLine (command : String) : Option (List Char) :=
  (host.output command).bind fun text => (Text.fgets BUFFER_SIZE text).map fun read => cString read.1

/-- The available memory that is read is positive. -/
def MemoryPositive : Prop := ∃ buffer, host.firstLine lsmemCommand = some buffer ∧ 0 < atoi buffer

/-- The number of processors that is read is 4. -/
def FourProcessors : Prop := ∃ buffer, host.firstLine cpuinfoCommand = some buffer ∧ atoi buffer = 4

/-- The number in a line with the words, if there is one. -/
def eventsIn (buffer : List Char) : Option Number :=
  (strstr buffer "events per second".toList).bind (sscanf "events per second: ")

/-- Some line of the output of `sysbench` has the words with a number. -/
def EventsFound : Prop :=
  ∃ text, host.output sysbenchCommand = some text ∧
    ∃ line ∈ lines BUFFER_SIZE text, (eventsIn (cString line)).isSome

/-- All checks are passed. -/
def AllGood : Prop := MemoryPositive host ∧ FourProcessors host ∧ EventsFound host

/-- The processor check stops the program: a command cannot be run, or no line is read for the number
of processors. -/
def NumStops : Prop :=
  (∃ command ∈ numCommands, host.output command = none) ∨ host.firstLine cpuinfoCommand = none

/-- The program is stopped before its end. -/
def Stops : Prop := NumStops host ∨ host.output sysbenchCommand = none

/-- The lines that report a failure. -/
def failures : List CpuLine := [.notRun, .readFailed, .functionFailed]

/-- The result and the session after the whole program. -/
def Host.outcome (fuel : ℕ) : Except Exit (Option ℤ) × Session := (main fuel).run host.handler opening

/-- The last line is printed only if all checks are passed, and a failure is reported otherwise. -/
structure VerdictRight (fuel : ℕ) : Prop where
  clear : .clear ∈ (host.outcome fuel).2.printed → AllGood host
  failure : ¬AllGood host → (host.outcome fuel).1 = .error ⟨-1⟩ ∧
    ∃ line ∈ failures, line ∈ (host.outcome fuel).2.printed

/-- What the loop prints for the pieces of an output. -/
def printedEvents : Option Number → List (List Char) → List CpuLine
  | _, [] => []
  | speed, piece :: pieces =>
    match strstr (cString piece) "events per second".toList with
    | some ptr =>
      .eventsPerSecond ((sscanf "events per second: " ptr).or speed) ::
        printedEvents ((sscanf "events per second: " ptr).or speed) pieces
    | none => printedEvents speed pieces

/-- The first line of a command is the one that is read of its output. -/
theorem firstLine_eq {command : String} {text : List Char} (houtput : host.output command = some text) :
    host.firstLine command = lineOf BUFFER_SIZE text := by
  rw [Host.firstLine, houtput]
  rfl

/-- The output of `sysbench` is read to its end, and every piece with the words is printed. -/
theorem runs_readEvents (fp fuel : ℕ) (text : List Char) (hfuel : text.length < fuel) (speed : Option Number)
    (streams : List (List Char)) (hstream : streams[fp]? = some text) :
    ∃ left, host.console.Runs (readEvents fp fuel speed : CpuProg Exit (Option Unit)) streams (.ok (some ())) left
      (printedEvents speed (lines BUFFER_SIZE text)) := by
  induction fuel generalizing text speed streams with
  | zero => exact absurd hfuel (Nat.not_lt_zero _)
  | succ fuel ih =>
    have hread := (serves host).read_runs (ε := Exit) BUFFER_SIZE hstream
    have hrest : (streams.set fp (afterLine BUFFER_SIZE text))[fp]? = some (afterLine BUFFER_SIZE text) := by
      rw [List.getElem?_set_self', hstream]
      rfl
    cases hpiece : Text.fgets BUFFER_SIZE text with
    | none =>
      rw [lineOf_of_none hpiece] at hread
      rw [lines_of_none hpiece]
      exact ⟨_, hread.bind_silent (host.console.runs_ret (some ()) _)⟩
    | some piece =>
      obtain ⟨line, rest⟩ := piece
      have hlength : rest.length < fuel := length_lt_of_fgets_of_lt_succ one_lt_BUFFER_SIZE hpiece hfuel
      rw [lineOf_of_some hpiece, afterLine_of_some hpiece] at hread
      rw [afterLine_of_some hpiece] at hrest
      rw [lines_of_some one_lt_BUFFER_SIZE hpiece, printedEvents]
      cases hwords : strstr (cString line) "events per second".toList with
      | none =>
        obtain ⟨left, hloop⟩ := ih rest hlength speed _ hrest
        refine ⟨left, hread.bind_silent ?_⟩
        dsimp only
        rw [hwords]
        exact hloop
      | some ptr =>
        obtain ⟨left, hloop⟩ := ih rest hlength ((sscanf "events per second: " ptr).or speed) _ hrest
        refine ⟨left, hread.bind_silent ?_⟩
        dsimp only
        rw [hwords]
        exact (runs_printf host _ _).bind hloop

/-- The four streams are closed. -/
theorem runs_closeAll (streams : List (List Char)) :
    host.console.Runs (do
      let _ ← pclose 0
      let _ ← pclose 1
      let _ ← pclose 2
      let _ ← pclose 3
      return () : CpuProg Exit Unit) streams (.ok ()) streams [] :=
  (runs_pclose host streams 0).bind_silent ((runs_pclose host streams 1).bind_silent
    ((runs_pclose host streams 2).bind_silent ((runs_pclose host streams 3).bind_silent
      (host.console.runs_ret () streams))))

/-- With its streams open, the check is stopped if there is no line for the number of processors. -/
theorem runs_checkStreams_of_none {cpuinfo : List Char} (hline : lineOf BUFFER_SIZE cpuinfo = none)
    (modelname lscpu lsmem : List Char) :
    ∃ left, host.console.Runs (checkStreams 0 1 2 3) [cpuinfo, modelname, lscpu, lsmem] (.error ⟨-1⟩) left
      (memoryLines .memoryOkay (lineOf BUFFER_SIZE lsmem) ++ [.readFailed]) := by
  have hmemory := runs_lookMemory (serves host) (fun streams => runs_printf (ε := Exit) host streams .memoryOkay)
    (show [cpuinfo, modelname, lscpu, lsmem][3]? = some lsmem from rfl)
  have hfailed (streams : List (List Char)) :
      host.console.Runs readFailed streams (.error ⟨-1⟩) streams [.readFailed] :=
    (runs_printf host streams .readFailed).bind (host.console.runs_exit (-1) streams)
  exact ⟨_, hmemory.bind (runs_lookProcessors_of_none (serves host) rfl hfailed hline).bind_error⟩

/-- With a line it goes on with any number. -/
theorem runs_checkStreams_of_some {cpuinfo buffer : List Char} (hline : lineOf BUFFER_SIZE cpuinfo = some buffer)
    (modelname lscpu lsmem : List Char) :
    ∃ left, host.console.Runs (checkStreams 0 1 2 3) [cpuinfo, modelname, lscpu, lsmem] (.ok ()) left
      (memoryLines .memoryOkay (lineOf BUFFER_SIZE lsmem) ++ processorLines .processors .processorAlright buffer) := by
  have hmemory := runs_lookMemory (serves host) (fun streams => runs_printf (ε := Exit) host streams .memoryOkay)
    (show [cpuinfo, modelname, lscpu, lsmem][3]? = some lsmem from rfl)
  have hprocessors : host.console.Runs (readProcessors 0)
      ([cpuinfo, modelname, lscpu, lsmem].set 3 (afterLine BUFFER_SIZE lsmem)) (.ok ()) _ _ :=
    runs_lookProcessors_of_some (serves host) rfl
      (fun number streams => runs_printf host streams (.processors number))
      (fun streams => runs_printf host streams .processorAlright) hline
  exact ⟨_, hmemory.bind (hprocessors.bind_silent_right (runs_closeAll host _))⟩

/-- If a command cannot be run, the processor check reports it and stops the program. -/
theorem runs_cpuNumCheck_of_none (hnone : ∃ command ∈ numCommands, host.output command = none) :
    ∃ left, host.console.Runs cpuNumCheck [] (.error ⟨-1⟩) left [.notRun] :=
  runs_withStreams_of_none (serves host) checkStreams numFailed (fun streams =>
    (runs_printf host streams .notRun).bind (host.console.runs_exit (-1) streams)) hnone

/-- None of the lines of the two looks is the last line of the program. -/
theorem clear_not_mem_looks (line : Option (List Char)) (buffer : List Char) :
    CpuLine.clear ∉ memoryLines .memoryOkay line ∧
      CpuLine.clear ∉ processorLines .processors .processorAlright buffer := by
  constructor
  · cases line with
    | none => exact List.not_mem_nil
    | some buffer =>
      rw [memoryLines]
      split <;> simp
  · rw [processorLines]
    split <;> simp

/-- The processor check stops the program in the cases named, with a report, and else goes on. -/
theorem runs_cpuNumCheck :
    NumStops host ∧ (∃ left lines, CpuLine.clear ∉ lines ∧ (∃ line ∈ failures, line ∈ lines) ∧
        host.console.Runs cpuNumCheck [] (.error ⟨-1⟩) left lines) ∨
      ¬NumStops host ∧ ∃ left lines, CpuLine.clear ∉ lines ∧ host.console.Runs cpuNumCheck [] (.ok ()) left lines := by
  by_cases hnone : ∃ command ∈ numCommands, host.output command = none
  · obtain ⟨left, hruns⟩ := runs_cpuNumCheck_of_none host hnone
    exact .inl ⟨.inl hnone, left, [.notRun], by simp, ⟨.notRun, by simp [failures], by simp⟩, hruns⟩
  · obtain ⟨cpuinfo, modelname, lscpu, lsmem, hcpuinfo, hmodelname, hlscpu, hlsmem⟩ := exists_outputs hnone
    unfold NumStops
    rw [firstLine_eq host hcpuinfo, or_iff_right hnone]
    cases hline : lineOf BUFFER_SIZE cpuinfo with
    | none =>
      obtain ⟨left, hcheck⟩ := runs_checkStreams_of_none host hline modelname lscpu lsmem
      obtain ⟨hclear, -⟩ := clear_not_mem_looks (lineOf BUFFER_SIZE lsmem) []
      refine .inl ⟨rfl, left, _, ?_, ⟨.readFailed, by simp [failures], by simp⟩,
        runs_withStreams_of_some (serves host) checkStreams numFailed hcpuinfo hmodelname hlscpu hlsmem hcheck⟩
      simpa using hclear
    | some buffer =>
      obtain ⟨left, hcheck⟩ := runs_checkStreams_of_some host hline modelname lscpu lsmem
      obtain ⟨hmemory, hprocessors⟩ := clear_not_mem_looks (lineOf BUFFER_SIZE lsmem) buffer
      refine .inr ⟨by simp, left, _, ?_,
        runs_withStreams_of_some (serves host) checkStreams numFailed hcpuinfo hmodelname hlscpu hlsmem hcheck⟩
      rw [List.mem_append]
      exact not_or.mpr ⟨hmemory, hprocessors⟩

/-- The performance check stops the program if `sysbench` cannot be run, and else prints what it
shows and goes on. -/
theorem runs_cpuPerformCheck (fuel : ℕ) (streams : List (List Char))
    (hfuel : ∀ text, host.output sysbenchCommand = some text → text.length < fuel) :
    host.output sysbenchCommand = none ∧
        host.console.Runs (cpuPerformCheck fuel) streams (.error ⟨-1⟩) streams [.functionFailed] ∨
      ∃ text left, host.output sysbenchCommand = some text ∧
        host.console.Runs (cpuPerformCheck fuel) streams (.ok (some ())) left
          (printedEvents none (lines BUFFER_SIZE text)) := by
  cases htext : host.output sysbenchCommand with
  | none =>
    refine .inl ⟨rfl, ((serves host).open_none htext "r" streams).bind_silent ?_⟩
    exact (runs_printf host streams .functionFailed).bind (host.console.runs_exit (-1) streams)
  | some text =>
    have hstream : (streams ++ [text])[streams.length]? = some text := List.getElem?_concat_length
    obtain ⟨left, hloop⟩ := runs_readEvents host streams.length fuel text (hfuel text htext) none _ hstream
    refine .inr ⟨text, left, rfl, ((serves host).open_some htext "r" streams).bind_silent ?_⟩
    exact hloop.bind_silent_right ((runs_pclose host left _).bind_silent (host.console.runs_ret (some ()) left))

/-- The program before its timed checks. -/
def firstChecks (fuel : ℕ) : CpuProg Exit (Option Unit) := do
  printf .processorCheck
  cpuNumCheck
  printf .performanceCheck
  cpuPerformCheck fuel

/-- The timed checks follow the others. -/
theorem main_eq (fuel : ℕ) : main fuel = firstChecks fuel >>= afterChecks := by
  simp only [main, firstChecks, bind_assoc]

/-- The first checks stop the program early, with a report, in the cases named. -/
theorem runs_firstChecks (fuel : ℕ)
    (hfuel : ∀ text, host.output sysbenchCommand = some text → text.length < fuel) :
    Stops host ∧ (∃ left lines, CpuLine.clear ∉ lines ∧ (∃ line ∈ failures, line ∈ lines) ∧
        host.console.Runs (firstChecks fuel) [] (.error ⟨-1⟩) left lines) ∨
      ¬Stops host ∧ ∃ left lines, host.console.Runs (firstChecks fuel) [] (.ok (some ())) left lines := by
  have hstart := runs_printf (ε := Exit) host [] .processorCheck
  unfold Stops
  rcases runs_cpuNumCheck host with
    ⟨hstops, left, lines, hclear, ⟨line, hline, hmem⟩, hruns⟩ | ⟨hgoes, left, lines, hclear, hruns⟩
  · refine .inl ⟨.inl hstops, left, _, ?_, ⟨line, hline, ?_⟩, hstart.bind hruns.bind_error⟩
    · simpa using hclear
    · exact List.mem_append_right _ hmem
  · rw [or_iff_right hgoes]
    have hnext := runs_printf (ε := Exit) host left .performanceCheck
    rcases runs_cpuPerformCheck host fuel left hfuel with ⟨hnone, hstop⟩ | ⟨text, left', htext, hgo⟩
    · refine .inl ⟨hnone, left, _, ?_, ⟨.functionFailed, by simp [failures], ?_⟩,
        hstart.bind (hruns.bind (hnext.bind hstop))⟩
      · simpa using hclear
      · simp
    · exact .inr ⟨fun hnone => Option.some_ne_none text (htext.symm.trans hnone), left', _,
        hstart.bind (hruns.bind (hnext.bind hgo))⟩

/-- The program ends early, with a report, in the cases named, and else prints its last line. -/
theorem outcome_cases (fuel : ℕ) (hfuel : ∀ text, host.output sysbenchCommand = some text → text.length < fuel) :
    Stops host ∧ .clear ∉ (host.outcome fuel).2.printed ∧ (host.outcome fuel).1 = .error ⟨-1⟩ ∧
        (∃ line ∈ failures, line ∈ (host.outcome fuel).2.printed) ∨
      ¬Stops host ∧ .clear ∈ (host.outcome fuel).2.printed := by
  rw [Host.outcome, main_eq]
  rcases runs_firstChecks host fuel hfuel with
    ⟨hstops, left, lines, hclear, ⟨line, hline, hmem⟩, hruns⟩ | ⟨hgoes, left, lines, hruns⟩
  · obtain ⟨after, hrun, -, hprinted⟩ := hruns opening rfl
    change (firstChecks fuel).run host.handler opening = _ at hrun
    change after.printed = [] ++ lines at hprinted
    rw [Prog.run_bind_of_error _ _ hrun, hprinted]
    exact .inl ⟨hstops, hclear, rfl, line, hline, hmem⟩
  · obtain ⟨after, hrun, -, -⟩ := hruns opening rfl
    change (firstChecks fuel).run host.handler opening = _ at hrun
    rw [Prog.run_bind_of_ok _ _ hrun]
    exact .inr ⟨hgoes, List.mem_append_right _ (List.mem_singleton_self _)⟩

/-- For every output of the commands: the last line and the reports are right if and only if all
checks are passed or the program is stopped before its end. -/
theorem verdict_right_iff (fuel : ℕ)
    (hfuel : ∀ text, host.output sysbenchCommand = some text → text.length < fuel) :
    VerdictRight host fuel ↔ AllGood host ∨ Stops host := by
  rcases outcome_cases host fuel hfuel with ⟨hstops, hclear, herror, hreport⟩ | ⟨hgoes, hclear⟩
  · exact iff_of_true ⟨fun h => absurd h hclear, fun _ => ⟨herror, hreport⟩⟩ (.inr hstops)
  · rw [or_iff_left hgoes]
    exact ⟨fun hright => hright.clear hclear, fun hgood => ⟨fun _ => hgood, fun h => absurd hgood h⟩⟩

end Verdict

/-- A board with memory and four processors, for which `sysbench` shows one line. -/
def fourProcessors : Host where
  output command := some (
    if command = cpuinfoCommand then "4\n".toList
    else if command = lsmemCommand then "1024\n".toList
    else "    events per second:  1512.07\n".toList)
  time _ := epoch

/-- On the board with four processors the last line is right. -/
theorem verdict_right_fourProcessors : VerdictRight fourProcessors 33 := by
  have hfuel : ∀ text, fourProcessors.output sysbenchCommand = some text → text.length < 33 := by
    intro text htext
    cases htext
    decide
  refine (verdict_right_iff fourProcessors 33 hfuel).mpr (.inl ⟨?_, ?_, ?_⟩)
  · refine ⟨"1024\n".toList, ?_, by decide⟩
    unfold Host.firstLine BUFFER_SIZE
    decide
  · refine ⟨"4\n".toList, ?_, by decide⟩
    unfold Host.firstLine BUFFER_SIZE
    decide
  · refine ⟨"    events per second:  1512.07\n".toList, rfl, "    events per second:  1512.07\n".toList, ?_, ?_⟩
    · unfold BUFFER_SIZE
      decide
    · decide +kernel

/-- A board with two processors and no output of any other command. -/
def twoProcessors : Host where
  output command := some (if command = cpuinfoCommand then "2\n".toList else [])
  time _ := epoch

/-- On the board with two processors the last line is printed as well. -/
theorem clear_on_two_processors :
    ¬∀ (host : Host) (fuel : ℕ), (∀ text, host.output sysbenchCommand = some text → text.length < fuel) →
      VerdictRight host fuel := by
  intro hall
  have hfuel : ∀ text, twoProcessors.output sysbenchCommand = some text → text.length < 1 := by
    intro text htext
    cases htext
    decide
  have hline : twoProcessors.firstLine cpuinfoCommand = some "2\n".toList := by
    unfold Host.firstLine BUFFER_SIZE
    decide
  rcases outcome_cases twoProcessors 1 hfuel with ⟨hstops, -⟩ | ⟨-, hclear⟩
  · rcases hstops with (⟨command, -, hnone⟩ | hnone) | hnone
    · cases hnone
    · cases hline.symm.trans hnone
    · cases hnone
  · obtain ⟨buffer, hbuffer, hfour⟩ := ((hall twoProcessors 1 hfuel).clear hclear).2.1
    cases hline.symm.trans hbuffer
    revert hfour
    decide

end Maestro.Cpu
