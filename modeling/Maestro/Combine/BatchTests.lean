import Maestro.Combine.GpioTest
import Maestro.Combine.I2cTest
import Maestro.Combine.PwmTest
import Maestro.Combine.SpiTest
import Maestro.Effect.Course

/-!
# The outcomes of the batch's tests

For each of the five tests of a batch: which outcomes of its external calls mean that its
hardware or its setup failed, and what the test makes of them. Every failure is answered with
the verdict 0, but for a failed setup in three tests: `GpioTest` returns 1, and `PWMTest` and
`i2cTest` end the program.
-/

namespace Maestro.Combine

open Effect

/-- The setup of wiringPi failed, or a pin driven high read low. -/
def GpioFaulty (log : List (Exchange (PinCalls GpioLine))) : Prop :=
  (⟨.wiringPiSetup, (-1 : ℤ)⟩ : Exchange (PinCalls GpioLine)) ∈ log ∨
    ∃ pin, (⟨.digitalRead pin, LOW⟩ : Exchange (PinCalls GpioLine)) ∈ log

/-- The courses of the test of one pin. -/
theorem course_testPin {check : ℤ} {pin : ℕ} {log : List (Exchange (PinCalls GpioLine))}
    {result : Except Exit ℤ} (hcourse : (testPin check pin).Course log result) :
    ∃ level : ℤ, result = .ok (if level = LOW then 0 else check) ∧
      (∀ other, (⟨.digitalRead other, LOW⟩ : Exchange (PinCalls GpioLine)) ∈ log → level = LOW) ∧
      ∀ value, (⟨.wiringPiSetup, value⟩ : Exchange (PinCalls GpioLine)) ∉ log := by
  obtain ⟨_, log, rfl, _, log, rfl, _, log, rfl, level, log, rfl, hcourse⟩ := hcourse
  change ℤ at level
  refine ⟨level, ?_⟩
  change ((if level = LOW then _ else _ : GpioProg Exit ℤ) >>= fun check => _).Course log _ at hcourse
  by_cases hlow : level = LOW
  · rw [if_pos hlow] at hcourse
    obtain ⟨_, log, rfl, _, log, rfl, _, log, rfl, rfl, rfl⟩ := hcourse
    rw [if_pos hlow]
    exact ⟨rfl, fun _ _ => hlow, by simp⟩
  · rw [if_neg hlow] at hcourse
    obtain ⟨_, log, rfl, _, log, rfl, rfl, rfl⟩ := hcourse
    rw [if_neg hlow]
    refine ⟨rfl, fun other hmem => ?_, by simp⟩
    simp at hmem
    exact hmem.2.symm

/-- The loop over the pins goes on to the end, and finds every pin that reads low. -/
theorem course_testPins (pins : List ℕ) {check : ℤ} {log : List (Exchange (PinCalls GpioLine))}
    {result : Except Exit ℤ} (hcourse : (pins.foldlM testPin check).Course log result) :
    ∃ check' : ℤ, result = .ok check' ∧
      (check = 0 ∨ (∃ pin, (⟨.digitalRead pin, LOW⟩ : Exchange (PinCalls GpioLine)) ∈ log) → check' = 0) ∧
      ∀ value, (⟨.wiringPiSetup, value⟩ : Exchange (PinCalls GpioLine)) ∉ log := by
  induction pins generalizing check log with
  | nil =>
    obtain ⟨rfl, rfl⟩ := hcourse
    exact ⟨check, rfl, by simp, by simp⟩
  | cons pin rest ih =>
    rw [List.foldlM_cons, Prog.course_bind] at hcourse
    rcases hcourse with ⟨reason, -, hfirst⟩ | ⟨next, first, last, rfl, hfirst, hlast⟩
    · obtain ⟨level, hresult, -, -⟩ := course_testPin hfirst
      cases hresult
    · obtain ⟨level, hresult, hlow, hnoSetup⟩ := course_testPin hfirst
      cases hresult
      obtain ⟨check', rfl, hcheck, hnoSetup'⟩ := ih hlast
      refine ⟨check', rfl, fun h => hcheck ?_, fun value hmem => ?_⟩
      · rcases h with rfl | ⟨other, hmem⟩
        · exact .inl (ite_self 0)
        · rcases List.mem_append.mp hmem with hmem | hmem
          · exact .inl (if_pos (hlow other hmem))
          · exact .inr ⟨other, hmem⟩
      · rcases List.mem_append.mp hmem with hmem | hmem
        · exact hnoSetup value hmem
        · exact hnoSetup' value hmem

/-- `GpioTest` returns; with a failed setup it returns 1, with any other failure 0. -/
theorem course_GpioTest {log : List (Exchange (PinCalls GpioLine))} {result : Except Exit ℤ}
    (hcourse : GpioTest.Course log result) :
    ∃ value : ℤ, result = .ok value ∧
      ((⟨.wiringPiSetup, (-1 : ℤ)⟩ : Exchange (PinCalls GpioLine)) ∈ log → value = 1) ∧
      ((⟨.wiringPiSetup, (-1 : ℤ)⟩ : Exchange (PinCalls GpioLine)) ∉ log → GpioFaulty log → value = 0) := by
  obtain ⟨setup, log, rfl, hcourse⟩ := hcourse
  change ℤ at setup
  change (if setup = -1 then _ else _ : GpioProg Exit ℤ).Course log _ at hcourse
  by_cases hsetup : setup = -1
  · rw [if_pos hsetup] at hcourse
    obtain ⟨_, log, rfl, rfl, rfl⟩ := hcourse
    rw [hsetup]
    exact ⟨1, rfl, fun _ => rfl, fun hnot => absurd List.mem_cons_self hnot⟩
  · rw [if_neg hsetup, Prog.course_bind] at hcourse
    rcases hcourse with ⟨reason, -, hloop⟩ | ⟨check, first, last, rfl, hloop, hlast⟩
    · obtain ⟨check, hresult, -⟩ := course_testPins pins hloop
      cases hresult
    · obtain ⟨check', hresult, hcheck, hnoSetup⟩ := course_testPins pins hloop
      cases hresult
      obtain ⟨_, last, rfl, hlast⟩ := hlast
      obtain ⟨rfl, rfl⟩ := Prog.course_ite_ret.mp hlast
      refine ⟨_, rfl, fun hmem => ?_, fun _ hfaulty => ?_⟩
      · rcases List.mem_cons.mp hmem with heq | hmem
        · cases heq
          exact absurd rfl hsetup
        · rcases List.mem_append.mp hmem with hmem | hmem
          · exact absurd hmem (hnoSetup _)
          · simp at hmem
      · rcases hfaulty with hmem | ⟨pin, hmem⟩
        · contradiction
        · have hlater := Exchange.mem_of_request_ne (by simp) hmem
          rcases List.mem_append.mp hlater with hmem | hmem
          · rw [hcheck (.inr ⟨pin, hmem⟩)]
            rfl
          · simp at hmem

namespace Pwm

/-- What the reads of the input pin returned, in order. -/
def samples (log : List (Exchange PwmCalls)) : List ℤ :=
  log.filterMap fun exchange =>
    match exchange with
    | ⟨.digitalRead _, value⟩ => some value
    | _ => none

/-- The samples of two logs, one after the other. -/
theorem samples_append (first last : List (Exchange PwmCalls)) :
    samples (first ++ last) = samples first ++ samples last :=
  List.filterMap_append

/-- Exchanges that read nothing add no samples. -/
theorem samples_append_of_nil {last : List (Exchange PwmCalls)} (first : List (Exchange PwmCalls))
    (hlast : samples last = []) : samples (first ++ last) = samples first := by
  rw [samples_append, hlast, List.append_nil]

/-- The number of high samples in window number `k`. -/
def windowHighs (values : List ℤ) (k : ℕ) : ℕ :=
  ((values.drop (totalCount * k)).take totalCount).count HIGH

/-- The setup of wiringPi failed, or a window has too many or too few high samples. -/
def PwmFaulty (log : List (Exchange PwmCalls)) : Prop :=
  (⟨.wiringPiSetup, (-1 : ℤ)⟩ : Exchange PwmCalls) ∈ log ∨
    ∃ k < channels.length, ¬InTolerance (windowHighs (samples log) k)

/-- The loop of a window counts the samples that it takes. -/
theorem course_samples (n : ℕ) {log : List (Exchange PwmCalls)} {result : Except Exit Tally}
    (hcourse : ((List.range n).foldlM (fun tally _ => logSample tally) ⟨0, 0⟩).Course log result) :
    (samples log).length = n ∧
      result = .ok ⟨(samples log).count HIGH, n - (samples log).count HIGH⟩ := by
  induction n generalizing log result with
  | zero =>
    obtain ⟨rfl, rfl⟩ := hcourse
    exact ⟨rfl, rfl⟩
  | succ n ih =>
    rw [List.range_succ, List.foldlM_append, Prog.course_bind] at hcourse
    rcases hcourse with ⟨reason, -, hfirst⟩ | ⟨tally, first, last, rfl, hfirst, hlast⟩
    · cases (ih hfirst).2
    · obtain ⟨hlength, htally⟩ := ih hfirst
      cases htally
      obtain ⟨value, last, rfl, _, last, rfl, rfl, rfl⟩ := hlast
      change ℤ at value
      have hsamples : samples (first ++ [⟨.digitalRead INPUT_PIN, value⟩, ⟨.delayMicroseconds 100, ()⟩]) =
          samples first ++ [value] := samples_append _ _
      rw [hsamples, List.length_append, hlength, List.count_append, List.count_singleton, Tally.add]
      refine ⟨rfl, ?_⟩
      by_cases hhigh : value = HIGH
      · simp only [hhigh, if_true, beq_self_eq_true]
        push_cast
        rw [add_sub_add_right_eq_sub]
      · simp only [hhigh, if_false, beq_iff_eq]
        push_cast
        rw [add_zero, add_sub_right_comm]

/-- `logPWMInput` returns the percentage of high samples in its window. -/
theorem course_logPWMInput {log : List (Exchange PwmCalls)} {result : Except Exit ℚ}
    (hcourse : logPWMInput.Course log result) :
    (samples log).length = totalCount ∧ result = .ok (percentage ((samples log).count HIGH)) := by
  rw [logPWMInput, Prog.course_bind] at hcourse
  rcases hcourse with ⟨reason, -, hloop⟩ | ⟨tally, first, last, rfl, hloop, hlast⟩
  · cases (course_samples totalCount hloop).2
  · obtain ⟨hlength, htally⟩ := course_samples totalCount hloop
    cases htally
    obtain ⟨_, last, rfl, _, last, rfl, rfl, rfl⟩ := hlast
    rw [samples_append_of_nil first rfl]
    exact ⟨hlength, rfl⟩

/-- The setup is not repeated. -/
def NoSetup (call : PwmCall) : Prop := call ≠ .wiringPiSetup

/-- The test of a channel does not repeat the setup. -/
theorem noSetup_testChannel (gpio pin : ℕ) (check : ℤ) :
    (testChannel gpio pin check : PwmProg Exit ℤ).AllCalls NoSetup := by
  have hlog : (logPWMInput : PwmProg Exit ℚ).AllCalls NoSetup := by
    unfold logPWMInput
    apply Prog.AllCalls.bind
    · apply Prog.AllCalls.foldlM
      intro tally _
      exact ⟨by simp [NoSetup], fun _ => ⟨by simp [NoSetup], fun _ => trivial⟩⟩
    · intro tally
      exact ⟨by simp [NoSetup], fun _ => ⟨by simp [NoSetup], fun _ => trivial⟩⟩
  have hjudge (n : ℚ) : (judge n check : PwmProg Exit ℤ).AllCalls NoSetup := by
    rw [judge]
    split
    · exact ⟨by simp [NoSetup], fun _ => trivial⟩
    · exact ⟨by simp [NoSetup], fun _ => trivial⟩
  refine ⟨by simp [NoSetup], fun _ => ⟨by simp [NoSetup], fun _ => ⟨by simp [NoSetup], fun _ => ?_⟩⟩⟩
  exact hlog.bind fun n => (hjudge n).bind fun _ => ⟨by simp [NoSetup], fun _ => trivial⟩

/-- The test of one channel is its opening lines, a window, and the verdict on the window. -/
theorem course_testChannel_window {gpio pin : ℕ} {check : ℤ} {log : List (Exchange PwmCalls)}
    {result : Except Exit ℤ} (hcourse : (testChannel gpio pin check).Course log result) :
    ∃ window, logPWMInput.Course window (.ok (percentage ((samples window).count HIGH)) : Except Exit ℚ) ∧
      log = ⟨.printf (.title gpio), ()⟩ :: ⟨.pwmWrite pin 512, ()⟩ :: ⟨.printf (.inputValue 512), ()⟩ ::
        (window ++ [⟨.printf (if InTolerance ((samples window).count HIGH) then .success else .failed), ()⟩,
          ⟨.sleep 1, ()⟩]) ∧
      result = .ok (if InTolerance ((samples window).count HIGH) then check else 1) := by
  obtain ⟨_, log, rfl, _, log, rfl, _, log, rfl, hcourse⟩ := hcourse
  change (logPWMInput >>= fun n => judge n check >>= fun check => sleep 1 >>= fun _ => .ret check :
    PwmProg Exit ℤ).Course log result at hcourse
  rw [Prog.course_bind] at hcourse
  rcases hcourse with ⟨reason, -, hfirst⟩ | ⟨n, window, last, rfl, hfirst, hlast⟩
  · cases (course_logPWMInput hfirst).2
  · cases (course_logPWMInput hfirst).2
    refine ⟨window, hfirst, ?_⟩
    have hiff := percentage_mem_iff ((samples window).count HIGH)
    rw [judge] at hlast
    by_cases hpass : InTolerance ((samples window).count HIGH)
    · rw [if_pos (hiff.mpr hpass)] at hlast
      obtain ⟨_, last, rfl, _, last, rfl, rfl, rfl⟩ := hlast
      rw [if_pos hpass, if_pos hpass]
      exact ⟨rfl, rfl⟩
    · rw [if_neg fun h => hpass (hiff.mp h)] at hlast
      obtain ⟨_, last, rfl, _, last, rfl, rfl, rfl⟩ := hlast
      rw [if_neg hpass, if_neg hpass]
      exact ⟨rfl, rfl⟩

/-- The test of one channel takes one window of samples and judges it. -/
theorem course_testChannel {gpio pin : ℕ} {check : ℤ} {log : List (Exchange PwmCalls)}
    {result : Except Exit ℤ} (hcourse : (testChannel gpio pin check).Course log result) :
    (samples log).length = totalCount ∧
      result = .ok (if InTolerance ((samples log).count HIGH) then check else 1) := by
  obtain ⟨window, hwindow, rfl, hresult⟩ := course_testChannel_window hcourse
  change (samples (window ++ _)).length = totalCount ∧
    result = .ok (if InTolerance ((samples (window ++ _)).count HIGH) then check else 1)
  rw [samples_append_of_nil window rfl]
  exact ⟨(course_logPWMInput hwindow).1, hresult⟩

/-- The first window of two parts is the first part. -/
theorem windowHighs_append_zero {first last : List ℤ} (hlength : first.length = totalCount) :
    windowHighs (first ++ last) 0 = first.count HIGH := by
  rw [windowHighs, Nat.mul_zero, List.drop_zero, ← hlength, List.take_left]

/-- The later windows are those of the second part. -/
theorem windowHighs_append_succ {first last : List ℤ} (hlength : first.length = totalCount) (k : ℕ) :
    windowHighs (first ++ last) (k + 1) = windowHighs last k := by
  rw [windowHighs, windowHighs, ← hlength, Nat.mul_succ, Nat.add_comm, ← List.drop_drop, List.drop_left]

/-- Every channel takes one window of samples, and the loop remembers a window that fails. -/
theorem course_testChannels (tested : List Channel) {check : ℤ} {log : List (Exchange PwmCalls)}
    {result : Except Exit ℤ}
    (hcourse : (tested.foldlM testEach check).Course log result) :
    result = .ok (if ∀ k < tested.length, InTolerance (windowHighs (samples log) k) then check else 1) := by
  induction tested generalizing check log with
  | nil =>
    obtain ⟨rfl, rfl⟩ := hcourse
    exact congrArg Except.ok (if_pos nofun).symm
  | cons channel rest ih =>
    rw [List.foldlM_cons, Prog.course_bind] at hcourse
    rcases hcourse with ⟨reason, -, hfirst⟩ | ⟨next, first, last, rfl, hfirst, hlast⟩
    · cases (course_testChannel hfirst).2
    · obtain ⟨hlength, hnext⟩ := course_testChannel hfirst
      cases hnext
      rw [ih hlast, samples_append]
      have hsplit : (∀ k < (channel :: rest).length,
          InTolerance (windowHighs (samples first ++ samples last) k)) ↔
          InTolerance ((samples first).count HIGH) ∧
            ∀ k < rest.length, InTolerance (windowHighs (samples last) k) := by
        rw [List.length_cons, Nat.forall_lt_succ_left, windowHighs_append_zero hlength]
        simp only [windowHighs_append_succ hlength]
      simp only [hsplit]
      by_cases hpass : InTolerance ((samples first).count HIGH)
      · simp only [hpass, if_true, true_and]
      · simp only [hpass, if_false, false_and, ite_self]

/-- The calls of a setup that does not fail. -/
def setupCalls (status : ℤ) : List (Exchange PwmCalls) :=
  [⟨.wiringPiSetup, status⟩, ⟨.pinMode PWM_PIN18 .PWM_OUTPUT, ()⟩, ⟨.pinMode PWM_PIN12 .PWM_OUTPUT, ()⟩,
    ⟨.pinMode PWM_PIN13 .PWM_OUTPUT, ()⟩, ⟨.pinMode PWM_PIN19 .PWM_OUTPUT, ()⟩, ⟨.pinMode INPUT_PIN .INPUT, ()⟩,
    ⟨.pwmSetMode PWM_MODE_MS, ()⟩, ⟨.pwmSetRange 1024, ()⟩, ⟨.pwmSetClock 32, ()⟩]

/-- A setup that fails ends the program; otherwise its calls come before what follows. -/
theorem course_setup_bind {α : Type} {next : Unit → PwmProg Exit α} {log : List (Exchange PwmCalls)}
    {result : Except Exit α} (hcourse : (setup >>= next).Course log result) :
    ((⟨.wiringPiSetup, (-1 : ℤ)⟩ : Exchange PwmCalls) ∈ log ∧ result = .error ⟨1⟩) ∨
      ∃ status rest, status ≠ -1 ∧ log = setupCalls status ++ rest ∧ (next ()).Course rest result := by
  obtain ⟨status, log, rfl, hcourse⟩ := hcourse
  change ℤ at status
  change ((if status = -1 then _ else _ : PwmProg Exit Unit) >>= next).Course log result at hcourse
  by_cases hsetup : status = -1
  · rw [if_pos hsetup] at hcourse
    obtain ⟨_, log, rfl, -, rfl⟩ := hcourse
    rw [hsetup]
    exact .inl ⟨List.mem_cons_self, rfl⟩
  · rw [if_neg hsetup] at hcourse
    obtain ⟨_, log, rfl, _, log, rfl, _, log, rfl, _, log, rfl, _, log, rfl, _, log, rfl, _, log, rfl,
      _, log, rfl, hcourse⟩ := hcourse
    exact .inr ⟨status, log, hsetup, rfl, hcourse⟩

/-- `PWMTest` ends the program if the setup fails; otherwise the loop over the channels gives the
verdict. -/
theorem course_PWMTest_loop {log : List (Exchange PwmCalls)} {result : Except Exit ℤ}
    (hcourse : PWMTest.Course log result) :
    ((⟨.wiringPiSetup, (-1 : ℤ)⟩ : Exchange PwmCalls) ∈ log ∧ result = .error ⟨1⟩) ∨
      ∃ status loop check, status ≠ -1 ∧ log = setupCalls status ++ loop ∧
        (channels.foldlM testEach 0 : PwmProg Exit ℤ).Course loop (.ok check) ∧
        result = .ok (if check = 1 then 0 else 1) := by
  rw [PWMTest_eq] at hcourse
  rcases course_setup_bind hcourse with hfailed | ⟨status, rest, hstatus, rfl, hrest⟩
  · exact .inl hfailed
  · rw [Prog.course_bind] at hrest
    rcases hrest with ⟨reason, -, hloop⟩ | ⟨check, loop, last, rfl, hloop, hlast⟩
    · cases course_testChannels channels hloop
    · obtain ⟨rfl, hresult⟩ := Prog.course_ite_ret.mp hlast
      rw [List.append_nil]
      exact .inr ⟨status, loop, check, hstatus, rfl, hloop, hresult⟩

/-- `PWMTest` ends the program if the setup fails; otherwise it returns 1 for four windows that
pass and 0 for any others. -/
theorem course_PWMTest {log : List (Exchange PwmCalls)} {result : Except Exit ℤ}
    (hcourse : PWMTest.Course log result) :
    ((⟨.wiringPiSetup, (-1 : ℤ)⟩ : Exchange PwmCalls) ∈ log ∧ result = .error ⟨1⟩) ∨
      (⟨.wiringPiSetup, (-1 : ℤ)⟩ : Exchange PwmCalls) ∉ log ∧
        result = .ok (if ∀ k < channels.length, InTolerance (windowHighs (samples log) k) then 1 else 0) := by
  rcases course_PWMTest_loop hcourse with hfailed | ⟨status, loop, check, hstatus, rfl, hloop, rfl⟩
  · exact .inl hfailed
  · have hnoSetup : (channels.foldlM testEach 0 : PwmProg Exit ℤ).AllCalls NoSetup :=
      Prog.AllCalls.foldlM testEach (fun check channel => noSetup_testChannel _ _ check) channels 0
    have hmem := hnoSetup.of_mem_course hloop
    have hcheck := course_testChannels channels hloop
    refine .inr ⟨fun hfailed => ?_, ?_⟩
    · rcases List.mem_append.mp hfailed with hfailed | hfailed
      · simp only [setupCalls, List.mem_cons, Exchange.mk.injEq, reduceCtorEq, false_and, List.not_mem_nil,
          or_false] at hfailed
        exact hstatus (eq_of_heq hfailed.2).symm
      · exact hmem _ hfailed rfl
    · cases hcheck
      change Except.ok _ = Except.ok (if ∀ k < channels.length, InTolerance (windowHighs (samples loop) k)
        then 1 else 0)
      by_cases hall : ∀ k < channels.length, InTolerance (windowHighs (samples loop) k)
      · rw [if_pos hall, if_pos hall]
        rfl
      · rw [if_neg hall, if_neg hall]
        rfl

end Pwm

namespace Spi

/-- The result of a call shows a failure: a setup or a transfer fails, or a transfer brings back
something other than the test data. -/
def ShowsFault : Exchange SpiCalls → Prop
  | ⟨.wiringPiSetup, result⟩ => result = (-1 : ℤ)
  | ⟨.wiringPiSPISetup _ _, result⟩ => result = (-1 : ℤ)
  | ⟨.wiringPiSPIDataRW _ _, transferred⟩ =>
    transferred.1 = -1 ∨ strncmp DATA_LENGTH transferred.2.toList hello.toList ≠ 0
  | ⟨.printf _, _⟩ => False

/-- Some call shows a failure. -/
def SpiFaulty (log : List (Exchange SpiCalls)) : Prop := ∃ exchange ∈ log, ShowsFault exchange

/-- A call that shows no failure leaves the question to the others. -/
theorem spiFaulty_cons {exchange : Exchange SpiCalls} {log : List (Exchange SpiCalls)}
    (hfine : ¬ShowsFault exchange) : SpiFaulty (exchange :: log) ↔ SpiFaulty log := by
  unfold SpiFaulty
  rw [List.exists_mem_cons_iff, or_iff_right hfine]

/-- So does a printed line. -/
theorem spiFaulty_printf_cons (line : SpiLine) (log : List (Exchange SpiCalls)) :
    SpiFaulty (⟨.printf line, ()⟩ :: log) ↔ SpiFaulty log :=
  spiFaulty_cons id

/-- So do several calls that show no failure. -/
theorem spiFaulty_append {first last : List (Exchange SpiCalls)} (hfine : ∀ exchange ∈ first, ¬ShowsFault exchange) :
    SpiFaulty (first ++ last) ↔ SpiFaulty last := by
  induction first with
  | nil => rfl
  | cons exchange first ih =>
    obtain ⟨hexchange, hfirst⟩ := List.forall_mem_cons.mp hfine
    rw [List.cons_append, spiFaulty_cons hexchange, ih hfirst]

/-- Printing the bytes of a buffer shows no failure. -/
theorem course_printBytes {data : Data} {log : List (Exchange SpiCalls)} {result : Except Exit Unit}
    (hcourse : (printBytes data).Course log result) : result = .ok () ∧ ∀ exchange ∈ log, ¬ShowsFault exchange := by
  rw [printBytes] at hcourse
  generalize data.toList = values at hcourse
  induction values generalizing log with
  | nil =>
    obtain ⟨rfl, rfl⟩ := hcourse
    exact ⟨rfl, nofun⟩
  | cons value rest ih =>
    rw [List.forM_cons] at hcourse
    obtain ⟨_, log, rfl, hcourse⟩ := hcourse
    obtain ⟨hresult, hsilent⟩ := ih hcourse
    exact ⟨hresult, List.forall_mem_cons.mpr ⟨id, hsilent⟩⟩

/-- What follows the printed bytes decides the result and whether a failure is shown. -/
theorem course_printBytes_bind {data : Data} {next : SpiProg Exit ℤ} {log : List (Exchange SpiCalls)}
    {result : Except Exit ℤ} (hcourse : (printBytes data >>= fun _ => next).Course log result) :
    ∃ rest, next.Course rest result ∧ (SpiFaulty log ↔ SpiFaulty rest) := by
  rw [Prog.course_bind] at hcourse
  rcases hcourse with ⟨reason, -, hbytes⟩ | ⟨_, bytes, rest, rfl, hbytes, hnext⟩
  · cases (course_printBytes hbytes).1
  · exact ⟨rest, hnext, spiFaulty_append (course_printBytes hbytes).2⟩

/-- The loop test returns, with 0 if a call shows a failure. -/
theorem course_spi_loopback_test {channel : ℕ} {log : List (Exchange SpiCalls)} {result : Except Exit ℤ}
    (hcourse : (spi_loopback_test channel).Course log result) :
    ∃ value : ℤ, result = .ok value ∧ (SpiFaulty log → value = 0) := by
  obtain ⟨_, log, rfl, _, log, rfl, hcourse⟩ := hcourse
  obtain ⟨log', hcourse, hsent⟩ := course_printBytes_bind hcourse
  rw [spiFaulty_printf_cons, spiFaulty_printf_cons, hsent]
  obtain ⟨_, log', rfl, transferred, log', rfl, hcourse⟩ := hcourse
  change ℤ × Data at transferred
  change (if transferred.1 = -1 then _ else _ : SpiProg Exit ℤ).Course log' result at hcourse
  by_cases hfailed : transferred.1 = -1
  · rw [if_pos hfailed] at hcourse
    obtain ⟨_, _, rfl, rfl, rfl⟩ := hcourse
    exact ⟨0, rfl, fun _ => rfl⟩
  · rw [if_neg hfailed] at hcourse
    obtain ⟨_, log', rfl, hcourse⟩ := hcourse
    obtain ⟨rest, hcourse, hreceived⟩ := course_printBytes_bind hcourse
    obtain ⟨_, rest, rfl, hcourse⟩ := hcourse
    change (if strncmp DATA_LENGTH transferred.2.toList hello.toList = 0 then _ else _ :
      SpiProg Exit ℤ).Course rest result at hcourse
    by_cases hecho : strncmp DATA_LENGTH transferred.2.toList hello.toList = 0
    · rw [if_pos hecho] at hcourse
      obtain ⟨_, rest, rfl, rfl, rfl⟩ := hcourse
      refine ⟨1, rfl, fun hfaulty => ?_⟩
      have hfine : ¬ShowsFault (⟨.wiringPiSPIDataRW channel hello, transferred⟩ : Exchange SpiCalls) :=
        not_or.mpr ⟨hfailed, not_not.mpr hecho⟩
      rw [spiFaulty_printf_cons, spiFaulty_cons hfine, spiFaulty_printf_cons, hreceived,
        spiFaulty_printf_cons, spiFaulty_printf_cons] at hfaulty
      obtain ⟨exchange, hmem, -⟩ := hfaulty
      cases hmem
    · rw [if_neg hecho] at hcourse
      obtain ⟨_, rest, rfl, rfl, rfl⟩ := hcourse
      exact ⟨0, rfl, fun _ => rfl⟩

/-- The SPI tests return, with 0 if a call shows a failure. -/
theorem course_SPITest {channel : ℕ} {log : List (Exchange SpiCalls)} {result : Except Exit ℤ}
    (hcourse : (SPITest channel).Course log result) :
    ∃ value : ℤ, result = .ok value ∧ (SpiFaulty log → value = 0) := by
  obtain ⟨setup, log, rfl, hcourse⟩ := hcourse
  change ℤ at setup
  change (if setup = -1 then _ else _ : SpiProg Exit ℤ).Course log result at hcourse
  by_cases hsetup : setup = -1
  · rw [if_pos hsetup] at hcourse
    obtain ⟨_, log, rfl, rfl, rfl⟩ := hcourse
    exact ⟨0, rfl, fun _ => rfl⟩
  · rw [if_neg hsetup] at hcourse
    obtain ⟨zero, log, rfl, hcourse⟩ := hcourse
    change ℤ at zero
    change (if zero = -1 then _ else _ : SpiProg Exit ℤ).Course log result at hcourse
    have hfine : ¬ShowsFault (⟨.wiringPiSetup, setup⟩ : Exchange SpiCalls) := hsetup
    rw [spiFaulty_cons hfine]
    by_cases hzero : zero = -1
    · rw [if_pos hzero] at hcourse
      obtain ⟨_, log, rfl, rfl, rfl⟩ := hcourse
      exact ⟨0, rfl, fun _ => rfl⟩
    · rw [if_neg hzero] at hcourse
      obtain ⟨one, log, rfl, hcourse⟩ := hcourse
      change ℤ at one
      change (if one = -1 then _ else _ : SpiProg Exit ℤ).Course log result at hcourse
      have hfine : ¬ShowsFault (⟨.wiringPiSPISetup SPI_CHANNEL_0 SPI_SPEED, zero⟩ : Exchange SpiCalls) := hzero
      rw [spiFaulty_cons hfine]
      by_cases hone : one = -1
      · rw [if_pos hone] at hcourse
        obtain ⟨_, log, rfl, rfl, rfl⟩ := hcourse
        exact ⟨0, rfl, fun _ => rfl⟩
      · rw [if_neg hone] at hcourse
        have hfine : ¬ShowsFault (⟨.wiringPiSPISetup SPI_CHANNEL_1 SPI_SPEED, one⟩ : Exchange SpiCalls) := hone
        rw [spiFaulty_cons hfine]
        exact course_spi_loopback_test hcourse

end Spi

namespace I2c

/-- The device could not be opened. -/
def OpenFailed (log : List (Exchange I2cCalls)) : Prop :=
  ∃ fd : ℤ, fd < 0 ∧ (⟨openCall, fd⟩ : Exchange I2cCalls) ∈ log

/-- The device could not be opened, or not be read. -/
def I2cFaulty (log : List (Exchange I2cCalls)) : Prop :=
  OpenFailed log ∨ ∃ fd value : ℤ, value < 0 ∧ (⟨.wiringPiI2CRead fd, value⟩ : Exchange I2cCalls) ∈ log

/-- `i2cTest` ends the program if the device cannot be opened; otherwise it returns, with 0 if it
cannot be read. -/
theorem course_i2cTest_faulty {log : List (Exchange I2cCalls)} {result : Except Exit ℤ}
    (hcourse : i2cTest.Course log result) :
    (OpenFailed log ∧ result = .error ⟨1⟩) ∨
      ¬OpenFailed log ∧ ∃ value : ℤ, result = .ok value ∧ (I2cFaulty log → value = 0) := by
  rcases course_i2cTest hcourse with ⟨fd, hfd, rfl, hresult⟩ | ⟨fd, hfd, readValue, hread⟩
  · exact .inl ⟨⟨fd, hfd, List.mem_cons_self⟩, hresult⟩
  · have hopened : ∀ rest, (∀ fd', (⟨openCall, fd'⟩ : Exchange I2cCalls) ∉ rest) →
        ¬OpenFailed (⟨openCall, fd⟩ :: rest) := by
      intro rest hrest hfailed
      obtain ⟨fd', hneg, hmem⟩ := hfailed
      rcases List.mem_cons.mp hmem with heq | hmem
      · cases heq
        omega
      · exact hrest fd' hmem
    rcases hread with ⟨hnegative, rfl, rfl⟩ | ⟨hnonneg, rfl, rfl⟩
    · exact .inr ⟨hopened _ (by simp), 0, rfl, fun _ => rfl⟩
    · refine .inr ⟨hopened _ (by simp), 1, rfl, fun hfaulty => ?_⟩
      rcases hfaulty with hfailed | ⟨fd', value, hneg, hmem⟩
      · exact absurd hfailed (hopened _ (by simp))
      · have hlater := Exchange.mem_of_request_ne (by simp [openCall]) hmem
        rcases List.mem_cons.mp hlater with heq | hmem
        · cases heq
          omega
        · simp at hmem

end I2c

end Maestro.Combine
