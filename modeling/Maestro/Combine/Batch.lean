import Maestro.Combine.BatchTests
import Maestro.Combine.MenuSummary
import Maestro.Effect.Family

/-!
# A batch with its tests

The menu calls the tests as requests; here the five tests of a batch carry these requests
out. Every test keeps its own external calls, and the menu keeps the console. The main result
says for which outcomes of the external calls a batch reaches its summary and counts every
failed test as a fail.
-/

namespace Maestro.Combine

open Effect

/-- The tests of a batch. -/
inductive Active where
  | GpioTest
  | PWMTest
  | SPITest_0
  | SPITest_1
  | i2cTest
deriving DecidableEq

/-- The row of a test in the summary. -/
def Active.test : Active → Test
  | GpioTest => .GpioTest
  | PWMTest => .PWMTest
  | SPITest_0 => .SPITest_0
  | SPITest_1 => .SPITest_1
  | i2cTest => .i2cTest

/-- The external calls of a test. -/
abbrev Active.Calls : Active → Interface
  | GpioTest => PinCalls GpioLine
  | PWMTest => Pwm.PwmCalls
  | SPITest_0 => Spi.SpiCalls
  | SPITest_1 => Spi.SpiCalls
  | i2cTest => I2c.I2cCalls

/-- The test itself. -/
def Active.program : (active : Active) → Prog active.Calls Exit ℤ
  | GpioTest => Maestro.Combine.GpioTest
  | PWMTest => Pwm.PWMTest
  | SPITest_0 => Spi.SPITest_0
  | SPITest_1 => Spi.SPITest_1
  | i2cTest => I2c.i2cTest

/-- The calls of the menu, and those of each test. -/
abbrev PartCalls : Option Active → Interface
  | none => MenuCalls
  | some active => active.Calls

/-- The calls of a batch. -/
abbrev BatchCalls : Interface := Interface.family PartCalls

/-- A program over these calls. -/
abbrev BatchProg (α : Type) := Prog BatchCalls Exit α

/-- The verdict in a value that is 0 or 1. -/
def verdictOf (value : ℤ) : Fin 2 := ⟨if value = 0 then 0 else 1, by split <;> decide⟩

/-- Run a test. -/
def Active.run (active : Active) : BatchProg ℤ := active.program.embed (I := PartCalls) (some active)

/-- Run a test for its verdict. -/
def runActive (active : Active) : BatchProg (Fin 2) := do
  let value ← active.run
  return verdictOf value

/-- A request of the menu that no test carries out. -/
def askMenu (request : MenuCall) : BatchProg (MenuCalls.Reply request) :=
  Prog.perform (I := BatchCalls) ⟨none, request⟩

/-- How the requests of the menu are carried out; the tests that the source leaves out of the
batch, like the console, stay requests. -/
def implement : (request : MenuCall) → BatchProg (MenuCalls.Reply request)
  | .runTest .GpioTest => runActive .GpioTest
  | .runTest .PWMTest => runActive .PWMTest
  | .runTest .SPITest_0 => runActive .SPITest_0
  | .runTest .SPITest_1 => runActive .SPITest_1
  | .runTest .i2cTest => runActive .i2cTest
  | .runTest .wifiTest => askMenu (.runTest .wifiTest)
  | .runTest .EthernetTest => askMenu (.runTest .EthernetTest)
  | .runTest .bluetoothTest => askMenu (.runTest .bluetoothTest)
  | .printf line => askMenu (.printf line)
  | .scanf => askMenu .scanf
  | MenuCall.resetGPIO => askMenu MenuCall.resetGPIO

/-- An iteration of the menu with the tests carried out. -/
def menuRound (globals : Globals) : BatchProg Globals := (menuBody globals).expand implement

/-- A printed line of the menu. -/
def printed (line : MenuLine) : Exchange BatchCalls := ⟨⟨none, .printf line⟩, ()⟩

/-- The lines of the summary. -/
def summaryLog (counts : Counts) : List (Exchange BatchCalls) := (summaryLines counts).map printed

/-- The failures of a test: of its hardware or of its setup. -/
def Active.Faulty : (active : Active) → List (Exchange active.Calls) → Prop
  | GpioTest => GpioFaulty
  | PWMTest => Pwm.PwmFaulty
  | SPITest_0 => Spi.SpiFaulty
  | SPITest_1 => Spi.SpiFaulty
  | i2cTest => I2c.I2cFaulty

/-- The counters after a round with the given values of the tests. -/
def Counts.after (counts : Counts) (values : Active → ℤ) : Counts :=
  { counts with
    GpioCount := counts.GpioCount + (verdictOf (values .GpioTest)).val
    PwmCount := counts.PwmCount + (verdictOf (values .PWMTest)).val
    SPICount0 := counts.SPICount0 + (verdictOf (values .SPITest_0)).val
    SPICount1 := counts.SPICount1 + (verdictOf (values .SPITest_1)).val
    i2cCount := counts.i2cCount + (verdictOf (values .i2cTest)).val }

/-- The values of the tests in a round, by name. -/
def valuesOf (gpio pwm spi0 spi1 i2c : ℤ) : Active → ℤ
  | .GpioTest => gpio
  | .PWMTest => pwm
  | .SPITest_0 => spi0
  | .SPITest_1 => spi1
  | .i2cTest => i2c

/-- Every counter goes up by the verdict of its test. -/
theorem after_of (counts : Counts) (values : Active → ℤ) (active : Active) :
    (counts.after values).of active.test = counts.of active.test + (verdictOf (values active)).val := by
  cases active <;> rfl

/-- Running a test for its verdict is running it. -/
theorem runActive_bind {α : Type} (active : Active) (next : Fin 2 → BatchProg α) :
    (runActive active >>= next) =
      active.run >>= fun value => next (verdictOf value) := by
  rw [runActive, bind_assoc]
  rfl

/-- A round runs the five tests, one after the other. -/
theorem expand_round (counts : Counts) :
    (round counts).expand implement = (do
      let gpio ← Active.GpioTest.run
      askMenu MenuCall.resetGPIO
      let pwm ← Active.PWMTest.run
      let spi0 ← Active.SPITest_0.run
      let spi1 ← Active.SPITest_1.run
      let i2c ← Active.i2cTest.run
      return counts.after (valuesOf gpio pwm spi0 spi1 i2c)) := by
  have hrun (active : Active) (test : Test) (hrequest : implement (.runTest test) = runActive active) :
      (runTest test).expand implement = runActive active := by
    rw [runTest, Prog.expand_perform, hrequest]
  have hreset : (Maestro.Combine.resetGPIO).expand implement = askMenu MenuCall.resetGPIO :=
    Prog.expand_perform _ _
  simp only [round, Prog.expand_bind, hrun .GpioTest .GpioTest rfl, hrun .PWMTest .PWMTest rfl,
    hrun .SPITest_0 .SPITest_0 rfl, hrun .SPITest_1 .SPITest_1 rfl, hrun .i2cTest .i2cTest rfl, hreset,
    runActive_bind]
  rfl

/-- An iteration of the menu when 0 is selected: the tests, and then the summary. -/
theorem menuRound_eq (globals : Globals) :
    menuRound globals = (do
      askMenu (.printf .prompt)
      let scan ← askMenu .scanf
      if Scan.assign scan globals.m = 0 then do
        let counts ← (round globals.counts).expand implement
        (putSummary counts).expand implement
        return ⟨counts, Scan.assign scan globals.m⟩
      else return ⟨globals.counts, Scan.assign scan globals.m⟩) := by
  have hprompt : (putLine .prompt).expand implement = askMenu (.printf .prompt) := Prog.expand_perform _ _
  have hscan : scanf.expand implement = askMenu .scanf := Prog.expand_perform _ _
  have hbatch : batch globals.counts = round globals.counts := bind_pure _
  rw [menuRound, menuBody, Prog.expand_bind, hprompt, Prog.expand_bind, hscan]
  refine congrArg (askMenu _ >>= ·) (funext fun _ => congrArg (askMenu _ >>= ·) (funext fun scan => ?_))
  by_cases hm : Scan.assign scan globals.m = 0
  · rw [if_pos hm, if_pos hm, Prog.expand_bind, hbatch]
    simp only [Prog.expand_bind]
    rfl
  · rw [if_neg hm, if_neg hm]
    rfl

/-- The summary prints its lines, and does not fail. -/
theorem course_putSummary {counts : Counts} {log : List (Exchange BatchCalls)} {result : Except Exit Unit}
    (hcourse : ((putSummary counts).expand implement).Course log result) :
    log = summaryLog counts ∧ result = .ok () := by
  obtain ⟨_, _, rfl, _, _, rfl, _, _, rfl, _, _, rfl, _, _, rfl, _, _, rfl, _, _, rfl, _, _, rfl, _, _, rfl,
    _, _, rfl, _, _, rfl, _, _, rfl, rfl, rfl⟩ := hcourse
  exact ⟨rfl, rfl⟩

/-- The calls that a test made. -/
def Active.own (active : Active) (log : List (Exchange BatchCalls)) : List (Exchange active.Calls) :=
  ownLog (I := PartCalls) (some active) log

/-- The globals that some iterations of the menu leave, with any outcomes of the external calls. -/
inductive Reached : Globals → Prop where
  | start : Reached initial
  | round {globals left : Globals} {log : List (Exchange BatchCalls)} :
      Reached globals → (menuRound globals).Course log (.ok left) → Reached left

/-- An iteration of the menu in which 0 is selected, with any outcomes of the external calls. -/
structure Selected (globals : Globals) where
  reached : Reached globals
  scan : Scan
  zero : scan.assign globals.m = 0
  log : List (Exchange BatchCalls)
  result : Except Exit Globals
  course : (menuRound globals).Course (printed .prompt :: ⟨⟨none, .scanf⟩, scan⟩ :: log) result

/-- What is scanned in an iteration of the menu on an environment. -/
def scanned {σ : Type} (h : Handler BatchCalls σ) (s : σ) : Scan :=
  (h.answer ⟨none, .scanf⟩ (h.answer ⟨none, .printf .prompt⟩ s).2).1

/-- On any environment, an iteration in which 0 is selected has its exchanges and its result among
the selected ones. -/
theorem exists_selected_of_run {σ : Type} (h : Handler BatchCalls σ) {globals : Globals} (hreached : Reached globals)
    (s : σ) (hzero : (scanned h s).assign globals.m = 0) :
    ∃ selected : Selected globals, selected.result = ((menuRound globals).run h s).1 ∧
      ((menuRound globals).trace h s).map Step.exchange =
        printed .prompt :: ⟨⟨none, .scanf⟩, selected.scan⟩ :: selected.log := by
  have hlog : ∃ log, ((menuRound globals).trace h s).map Step.exchange =
      printed .prompt :: ⟨⟨none, .scanf⟩, scanned h s⟩ :: log := by
    rw [menuRound_eq]
    exact ⟨_, rfl⟩
  obtain ⟨log, hlog⟩ := hlog
  have hcourse := Prog.course_of_run h (menuRound globals) s
  rw [hlog] at hcourse
  exact ⟨⟨hreached, scanned h s, hzero, log, _, hcourse⟩, rfl, hlog⟩

/-- All tests run, the summary is printed last, and the row of every failed test shows a fail. -/
structure BatchRight {globals : Globals} (selected : Selected globals) (counts : Counts) : Prop where
  returns : selected.result = .ok ⟨counts, 0⟩
  summary : summaryLog counts <:+ selected.log
  executed : ∀ active : Active, ∃ value : ℤ, active.program.Course (active.own selected.log) (.ok value)
  fails : ∀ active : Active, active.Faulty (active.own selected.log) → ∀ pass fail : ℤ,
    printed (.row active.test pass fail) ∈ selected.log → 0 < fail

/-- The test has passed in an earlier batch: its counter is 0 at the start and goes up by one when
it passes. -/
def PassedBefore (globals : Globals) (active : Active) : Prop := 0 < globals.counts.of active.test

/-- `GpioTest` could not set up wiringPi. -/
def GpioSetupFailed (log : List (Exchange BatchCalls)) : Prop :=
  (⟨.wiringPiSetup, (-1 : ℤ)⟩ : Exchange (PinCalls GpioLine)) ∈ Active.GpioTest.own log

/-- `PWMTest` could not set up wiringPi. -/
def PwmSetupFailed (log : List (Exchange BatchCalls)) : Prop :=
  (⟨.wiringPiSetup, (-1 : ℤ)⟩ : Exchange Pwm.PwmCalls) ∈ Active.PWMTest.own log

/-- `i2cTest` could not open the device. -/
def I2cOpenFailed (log : List (Exchange BatchCalls)) : Prop := I2c.OpenFailed (Active.i2cTest.own log)

/-- The calls of a test as calls of the batch. -/
def Active.sent (active : Active) (own : List (Exchange active.Calls)) : List (Exchange BatchCalls) :=
  own.map (Exchange.tag (I := PartCalls) (some active))

section Own

variable (active other : Active)

/-- A test has nothing in the empty log. -/
@[simp] theorem own_nil : active.own [] = [] := rfl

/-- What a test has in two logs, one after the other. -/
@[simp] theorem own_append (first last : List (Exchange BatchCalls)) :
    active.own (first ++ last) = active.own first ++ active.own last :=
  ownLog_append ..

/-- A request of the menu is no test's. -/
@[simp] theorem own_cons_menu (request : MenuCall) (reply : MenuCalls.Reply request)
    (rest : List (Exchange BatchCalls)) :
    active.own (⟨⟨none, request⟩, reply⟩ :: rest) = active.own rest := by
  rw [Active.own, ownLog, List.filterMap_cons_none (dif_neg (Option.some_ne_none active).symm)]
  rfl

/-- A test has its own exchanges. -/
@[simp] theorem own_sent (log : List (Exchange active.Calls)) : active.own (active.sent log) = log :=
  ownLog_tag_self ..

/-- A test has no exchanges of the other tests. -/
@[simp] theorem own_sent_of_ne (hne : other ≠ active) (log : List (Exchange other.Calls)) :
    active.own (other.sent log) = [] :=
  ownLog_tag_of_ne (I := PartCalls) (fun h => hne (Option.some.inj h)) log

/-- A test prints nothing of the menu's. -/
theorem printed_not_mem_sent (line : MenuLine) (log : List (Exchange active.Calls)) :
    printed line ∉ active.sent log := by
  intro hmem
  obtain ⟨exchange, -, heq⟩ := List.mem_map.mp hmem
  cases congrArg (fun exchange : Exchange BatchCalls => exchange.request.1) heq

end Own

/-- A test stops the round, or goes through and leaves the rest. -/
theorem course_run_bind {α : Type} {active : Active} {next : ℤ → BatchProg α}
    {log : List (Exchange BatchCalls)} {result : Except Exit α}
    (hcourse : (active.run >>= next).Course log result) :
    (∃ reason own, log = active.sent own ∧ result = .error reason ∧
        active.program.Course own (.error reason)) ∨
      ∃ value own rest, log = active.sent own ++ rest ∧ active.program.Course own (.ok value) ∧
        (next value).Course rest result := by
  exact Prog.course_embed_bind.mp hcourse

/-- The SPI tests return. -/
theorem spi_ne_error {channel : ℕ} {own : List (Exchange Spi.SpiCalls)} {reason : Exit} :
    ¬(Spi.SPITest channel).Course own (.error reason) := by
  intro hcourse
  obtain ⟨value, hresult, -⟩ := Spi.course_SPITest hcourse
  cases hresult

/-- A round ends early in `PWMTest` or in `i2cTest`, or it runs all the tests and prints nothing. -/
theorem course_round {counts : Counts} {log : List (Exchange BatchCalls)} {result : Except Exit Counts}
    (hcourse : ((round counts).expand implement).Course log result) :
    (∃ reason, result = .error reason ∧ (PwmSetupFailed log ∨ I2cOpenFailed log)) ∨
      ∃ values : Active → ℤ, result = .ok (counts.after values) ∧ (∀ line, printed line ∉ log) ∧
        ∀ active : Active, active.program.Course (active.own log) (.ok (values active)) := by
  rw [expand_round] at hcourse
  rcases course_run_bind hcourse with ⟨reason, gpioLog, -, -, hgpio⟩ |
    ⟨gpio, gpioLog, log, rfl, hgpio, ⟨reply, log, rfl, hafterGpio⟩⟩
  · obtain ⟨value, hresult, -⟩ := course_GpioTest hgpio
    cases hresult
  rcases course_run_bind hafterGpio with ⟨reason, pwmLog, rfl, hresult, hpwm⟩ |
    ⟨pwm, pwmLog, log, rfl, hpwm, hafterPwm⟩
  · refine .inl ⟨reason, hresult, .inl ?_⟩
    rcases Pwm.course_PWMTest hpwm with ⟨hmem, -⟩ | ⟨-, hvalue⟩
    · simpa [PwmSetupFailed] using hmem
    · cases hvalue
  rcases course_run_bind hafterPwm with ⟨reason, spi0Log, -, -, hspi0⟩ |
    ⟨spi0, spi0Log, log, rfl, hspi0, hafterSpi0⟩
  · exact absurd hspi0 spi_ne_error
  rcases course_run_bind hafterSpi0 with ⟨reason, spi1Log, -, -, hspi1⟩ |
    ⟨spi1, spi1Log, log, rfl, hspi1, hafterSpi1⟩
  · exact absurd hspi1 spi_ne_error
  rcases course_run_bind hafterSpi1 with ⟨reason, i2cLog, rfl, hresult, hi2c⟩ |
    ⟨i2c, i2cLog, log, rfl, hi2c, rfl, rfl⟩
  · refine .inl ⟨reason, hresult, .inr ?_⟩
    rcases I2c.course_i2cTest_faulty hi2c with ⟨hfailed, -⟩ | ⟨-, value, hvalue, -⟩
    · simpa [I2cOpenFailed] using hfailed
    · cases hvalue
  have hreset (line : MenuLine) : printed line ≠ ⟨⟨none, MenuCall.resetGPIO⟩, reply⟩ := by
    intro heq
    cases congrArg Exchange.request heq
  refine .inr ⟨valuesOf gpio pwm spi0 spi1 i2c, rfl, fun line => ?_, fun active => ?_⟩
  · simp [printed_not_mem_sent, hreset]
  cases active
  · simpa [valuesOf] using hgpio
  · simpa [valuesOf] using hpwm
  · simpa [valuesOf] using hspi0
  · simpa [valuesOf] using hspi1
  · simpa [valuesOf] using hi2c

/-- The summary is the menu's. -/
theorem own_printed (active : Active) (lines : List MenuLine) : active.own (lines.map printed) = [] := by
  induction lines with
  | nil => rfl
  | cons line lines ih =>
    rw [List.map_cons, printed, own_cons_menu]
    exact ih

/-- A selected batch does a round and prints the summary, unless the round ends early. -/
theorem course_selected {globals : Globals} {scan : Scan} (hzero : scan.assign globals.m = 0)
    {log : List (Exchange BatchCalls)} {result : Except Exit Globals}
    (hcourse : (menuRound globals).Course (printed .prompt :: ⟨⟨none, .scanf⟩, scan⟩ :: log) result) :
    (∃ reason, result = .error reason ∧ (PwmSetupFailed log ∨ I2cOpenFailed log)) ∨
      ∃ values : Active → ℤ, result = .ok ⟨globals.counts.after values, 0⟩ ∧
        (∃ tests, log = tests ++ summaryLog (globals.counts.after values) ∧ ∀ line, printed line ∉ tests) ∧
        ∀ active : Active, active.program.Course (active.own log) (.ok (values active)) := by
  rw [menuRound_eq] at hcourse
  obtain ⟨_, _, hlog, scan', _, hlog', hcourse⟩ := hcourse
  cases hlog
  cases hlog'
  change (if scan.assign globals.m = 0 then _ else _ : BatchProg Globals).Course log result at hcourse
  rw [if_pos hzero, hzero, Prog.course_bind] at hcourse
  rcases hcourse with ⟨reason, rfl, hround⟩ | ⟨counts, first, rest, rfl, hround, hcourse⟩
  · rcases course_round hround with ⟨reason, -, hlost⟩ | ⟨values, hresult, -⟩
    · exact .inl ⟨_, rfl, hlost⟩
    · cases hresult
  · rcases course_round hround with ⟨reason, hresult, -⟩ | ⟨values, hresult, hquiet, hvalues⟩
    · cases hresult
    · cases hresult
      rw [Prog.course_bind] at hcourse
      rcases hcourse with ⟨reason, -, hsummary⟩ | ⟨_, lines, last, rfl, hsummary, rfl, rfl⟩
      · cases (course_putSummary hsummary).2
      · obtain ⟨rfl, -⟩ := course_putSummary hsummary
        refine .inr ⟨values, rfl, ⟨first, by rw [List.append_nil], hquiet⟩, fun active => ?_⟩
        · rw [List.append_nil, own_append, summaryLog, own_printed, List.append_nil]
          exact hvalues active

/-- A failed test returns 0 if the setup of `GpioTest` did not fail. -/
theorem value_of_faulty {log : List (Exchange BatchCalls)} (hsetup : ¬GpioSetupFailed log) {active : Active}
    {value : ℤ} (hcourse : active.program.Course (active.own log) (.ok value))
    (hfaulty : active.Faulty (active.own log)) : value = 0 := by
  cases active with
  | GpioTest =>
    obtain ⟨value', hresult, -, hvalue⟩ := course_GpioTest hcourse
    cases hresult
    exact hvalue hsetup hfaulty
  | PWMTest =>
    rcases Pwm.course_PWMTest hcourse with ⟨-, hresult⟩ | ⟨hnot, hresult⟩
    · cases hresult
    · obtain ⟨k, hk, hout⟩ := Or.resolve_left hfaulty hnot
      cases hresult
      exact if_neg fun hall => hout (hall k hk)
  | SPITest_0 =>
    obtain ⟨value', hresult, hvalue⟩ := Spi.course_SPITest hcourse
    cases hresult
    exact hvalue hfaulty
  | SPITest_1 =>
    obtain ⟨value', hresult, hvalue⟩ := Spi.course_SPITest hcourse
    cases hresult
    exact hvalue hfaulty
  | i2cTest =>
    rcases I2c.course_i2cTest_faulty hcourse with ⟨-, hresult⟩ | ⟨-, value', hresult, hvalue⟩
    · cases hresult
    · cases hresult
      exact hvalue hfaulty

/-- Tests that all returned have set up the PWM channels and opened the I2C device. -/
theorem opened_of_values {log : List (Exchange BatchCalls)} {values : Active → ℤ}
    (hvalues : ∀ active : Active, active.program.Course (active.own log) (.ok (values active))) :
    ¬PwmSetupFailed log ∧ ¬I2cOpenFailed log := by
  constructor
  · rcases Pwm.course_PWMTest (hvalues .PWMTest) with ⟨-, hresult⟩ | ⟨hnot, -⟩
    · cases hresult
    · exact hnot
  · rcases I2c.course_i2cTest_faulty (hvalues .i2cTest) with ⟨-, hresult⟩ | ⟨hnot, -⟩
    · cases hresult
    · exact hnot

/-- No counter is ever below 0. -/
theorem Reached.of_nonneg {globals : Globals} (hreached : Reached globals) (active : Active) :
    0 ≤ globals.counts.of active.test := by
  induction hreached with
  | start => cases active <;> exact le_rfl
  | @round globals left log _ hcourse ih =>
    rw [menuRound_eq] at hcourse
    obtain ⟨_, _, rfl, scan, _, rfl, hcourse⟩ := hcourse
    change (if scan.assign globals.m = 0 then _ else _ : BatchProg Globals).Course _ (.ok left) at hcourse
    split at hcourse
    · obtain ⟨counts, first, rest, rfl, hround, hrest⟩ := Prog.course_bind_ok.mp hcourse
      obtain ⟨_, _, _, rfl, -, hleft⟩ := Prog.course_bind_ok.mp hrest
      rcases course_round hround with ⟨reason, hresult, -⟩ | ⟨values, hresult, -, -⟩
      · cases hresult
      · cases hleft.2
        cases hresult
        rw [after_of]
        exact Int.add_nonneg ih (Int.natCast_nonneg _)
    · cases hcourse.2
      exact ih

/-- The row of a test shows a fail exactly if its counter is still 0. -/
theorem row_fails_iff {counts : Counts} {tests log : List (Exchange BatchCalls)}
    (hlog : log = tests ++ summaryLog counts) (hquiet : ∀ line, printed line ∉ tests) (test : Test) :
    (∀ pass fail : ℤ, printed (.row test pass fail) ∈ log → 0 < fail) ↔ counts.of test < 1 := by
  have hmem (line : MenuLine) : printed line ∈ log ↔ line ∈ summaryLines counts := by
    rw [hlog, List.mem_append, or_iff_right (hquiet line), summaryLog, List.mem_map]
    constructor
    · intro h
      obtain ⟨other, hother, heq⟩ := h
      cases heq
      exact hother
    · exact fun h => ⟨line, h, rfl⟩
  simp only [hmem, row_mem_summaryLines, n]
  constructor
  · intro h
    have := h _ _ ⟨rfl, rfl⟩
    omega
  · rintro hless _ _ ⟨rfl, rfl⟩
    omega

/-- A batch comes to its summary with every failure counted exactly when wiringPi could be set up
in `GpioTest` and in `PWMTest`, the device could be opened in `i2cTest`, and no test that failed
has passed in an earlier batch. -/
theorem batch_right_iff {globals : Globals} (selected : Selected globals) :
    (∃ counts, BatchRight selected counts) ↔
      ¬GpioSetupFailed selected.log ∧ ¬PwmSetupFailed selected.log ∧ ¬I2cOpenFailed selected.log ∧
        ∀ active : Active, active.Faulty (active.own selected.log) → ¬PassedBefore globals active := by
  rcases course_selected selected.zero selected.course with ⟨reason, herror, hlost⟩ |
    ⟨values, hok, ⟨tests, hlog, hquiet⟩, hvalues⟩
  · constructor
    · intro hbatch
      obtain ⟨counts, hright⟩ := hbatch
      cases herror.symm.trans hright.returns
    · intro hcond
      rcases hlost with hpwm | hi2c
      · exact absurd hpwm hcond.2.1
      · exact absurd hi2c hcond.2.2.1
  · obtain ⟨hpwm, hi2c⟩ := opened_of_values hvalues
    constructor
    · intro hbatch
      obtain ⟨counts, hright⟩ := hbatch
      cases hok.symm.trans hright.returns
      -- the counter of a failed test, before the batch and with its verdict
      have hcount (active : Active) (hfaulty : active.Faulty (active.own selected.log)) :
          globals.counts.of active.test + ((verdictOf (values active)).val : ℤ) < 1 := by
        rw [← after_of]
        exact (row_fails_iff hlog hquiet active.test).mp (hright.fails active hfaulty)
      refine ⟨fun hgpio => ?_, hpwm, hi2c, fun active hfaulty hpassed => ?_⟩
      · obtain ⟨value, hvalue, hone, -⟩ := course_GpioTest (hvalues .GpioTest)
        have hless := hcount .GpioTest (.inl hgpio)
        have hstart := selected.reached.of_nonneg .GpioTest
        have hpass : ((verdictOf 1).val : ℤ) = 1 := rfl
        rw [Except.ok.inj hvalue, hone hgpio, hpass] at hless
        omega
      · have hless := hcount active hfaulty
        rw [PassedBefore] at hpassed
        omega
    · intro hcond
      refine ⟨_, hok, hlog ▸ List.suffix_append _ _, fun active => ⟨_, hvalues active⟩, fun active hfaulty => ?_⟩
      refine (row_fails_iff hlog hquiet active.test).mpr ?_
      rw [after_of, value_of_faulty hcond.1 (hvalues active) hfaulty]
      have hbefore := hcond.2.2.2 active hfaulty
      have hfail : ((verdictOf 0).val : ℤ) = 0 := rfl
      rw [PassedBefore] at hbefore
      rw [hfail]
      omega

/-- A board on which wiringPi cannot be set up. -/
def setupFails : Selected initial where
  reached := .start
  scan := .stored 0
  zero := rfl
  log := Active.GpioTest.sent [⟨.wiringPiSetup, (-1 : ℤ)⟩, ⟨.printf .setupFailed, ()⟩] ++
    ⟨⟨none, MenuCall.resetGPIO⟩, ()⟩ :: Active.PWMTest.sent [⟨.wiringPiSetup, (-1 : ℤ)⟩, ⟨.printf .setupFailed, ()⟩]
  result := .error ⟨1⟩
  course :=
    ⟨(), _, rfl, .stored 0, _, rfl, (-1 : ℤ), _, rfl, (), _, rfl, (), _, rfl, (-1 : ℤ), _, rfl, (), _, rfl,
      rfl, rfl⟩

/-- The batch ends in `PWMTest`, before the SPI tests, the I2C test and the summary. -/
theorem batch_ends_in_PWMTest : ¬∃ counts, BatchRight setupFails counts := by
  intro hbatch
  obtain ⟨counts, hright⟩ := hbatch
  cases hright.returns

end Maestro.Combine
