import Maestro.Combine.PwmTest

/-!
# Dead PWM channels

The four PWM outputs are wired together to the input pin, which reads high while any of them
is high. A channel keeps its waveform from the `pwmWrite` that starts it on, so every window
after the first sees the channels of the earlier windows as well. The main result says when a
dead channel is reported, and when a verdict is about its own channel only.
-/

namespace Maestro.Combine.Pwm

open Effect

/-- What the setup returns, which channels are healthy, and the level that a healthy channel
gives at each sample for the value written to it. A dead channel is always low. -/
structure Wiring where
  setup : ℤ
  healthy : ℕ → Bool
  waveform : ℕ → ℤ → ℕ → Bool

/-- The value last written to each channel, 0 for one that does not run, and the number of samples
taken so far. -/
structure Outputs where
  value : ℕ → ℤ
  time : ℕ

/-- A channel gives a high level. -/
def Wiring.drives (wiring : Wiring) (outputs : Outputs) (pin : ℕ) : Bool :=
  wiring.healthy pin && outputs.value pin != 0 &&
    wiring.waveform pin (outputs.value pin) outputs.time

/-- The pins of the channels. -/
def pwmPins : List ℕ := channels.map Channel.pin

/-- The level of the input pin. -/
def Wiring.level (wiring : Wiring) (outputs : Outputs) (pin : ℕ) : ℤ :=
  if pin = INPUT_PIN ∧ pwmPins.any (wiring.drives outputs) then HIGH else LOW

/-- wiringPi on this wiring. -/
def Wiring.handler (wiring : Wiring) : Handler PwmCalls Outputs where
  answer
    | .wiringPiSetup, outputs => (wiring.setup, outputs)
    | .pinMode _ _, outputs => ((), outputs)
    | .pwmSetMode _, outputs => ((), outputs)
    | .pwmSetRange _, outputs => ((), outputs)
    | .pwmSetClock _, outputs => ((), outputs)
    | .pwmWrite pin value, outputs =>
      ((), { outputs with value := Function.update outputs.value pin value })
    | .digitalRead pin, outputs =>
      (wiring.level outputs pin, { outputs with time := outputs.time + 1 })
    | .delayMicroseconds _, outputs => ((), outputs)
    | .sleep _, outputs => ((), outputs)
    | .printf _, outputs => ((), outputs)

/-- The printed verdicts, in order. -/
def verdicts {σ : Type} (steps : List (Step PwmCalls σ)) : List Bool :=
  steps.filterMap fun step =>
    match step.request with
    | .printf .success => some true
    | .printf .failed => some false
    | _ => none

/-- The verdicts of two traces, one after the other. -/
theorem verdicts_append {σ : Type} (left right : List (Step PwmCalls σ)) :
    verdicts (left ++ right) = verdicts left ++ verdicts right :=
  List.filterMap_append

/-- The outputs some samples later. -/
def Outputs.elapse (outputs : Outputs) (samples : ℕ) : Outputs :=
  { outputs with time := outputs.time + samples }

/-- The outputs once a channel is started. -/
def Outputs.start (outputs : Outputs) (pin : ℕ) : Outputs :=
  { outputs with value := Function.update outputs.value pin 512 }

/-- The outputs once a channel is started and its window is over. -/
def Outputs.measured (outputs : Outputs) (channel : Channel) : Outputs :=
  (outputs.start channel.pin).elapse totalCount

/-- The number of samples of the window that starts now in which one of the pins gives a high
level. -/
def Wiring.highs (wiring : Wiring) (pins : List ℕ) (outputs : Outputs) : ℕ :=
  (List.range totalCount).countP fun i => pins.any (wiring.drives (outputs.elapse i))

/-- The verdicts on some channels, tested one after the other. -/
def Wiring.outcomes (wiring : Wiring) : Outputs → List Channel → List Bool
  | _, [] => []
  | outputs, channel :: rest =>
    decide (InTolerance (wiring.highs pwmPins (outputs.start channel.pin))) ::
      wiring.outcomes (outputs.measured channel) rest

section Run

variable {ε : Type} (wiring : Wiring)

/-- The samples of one window are counted. -/
theorem run_samples (outputs : Outputs) (n : ℕ) :
    ((List.range n).foldlM (fun tally _ => logSample tally) ⟨0, 0⟩ : PwmProg ε Tally).run
        wiring.handler outputs =
      (.ok ⟨(List.range n).countP fun i => pwmPins.any (wiring.drives (outputs.elapse i)),
          n - (List.range n).countP fun i => pwmPins.any (wiring.drives (outputs.elapse i))⟩,
        outputs.elapse n) := by
  refine run_window wiring.handler outputs.elapse (fun i => pwmPins.any (wiring.drives (outputs.elapse i)))
    (fun tally i => ?_) n
  have hlevel : wiring.level (outputs.elapse i) INPUT_PIN =
      if pwmPins.any (wiring.drives (outputs.elapse i)) = true then HIGH else LOW :=
    if_congr (and_iff_right rfl) rfl rfl
  rw [← hlevel]
  rfl

/-- `logPWMInput` returns the percentage of high samples in its window. -/
theorem run_logPWMInput (outputs : Outputs) :
    (logPWMInput : PwmProg ε ℚ).run wiring.handler outputs =
      (.ok (percentage (wiring.highs pwmPins outputs)), outputs.elapse totalCount) := by
  rw [logPWMInput, Prog.run_bind_of_ok _ _ (run_samples wiring outputs totalCount)]
  rfl

/-- A request that prints no verdict. -/
def NoVerdict (call : PwmCall) : Prop := call ≠ .printf .success ∧ call ≠ .printf .failed

/-- Without a request that prints one there is no verdict. -/
theorem verdicts_eq_nil {α : Type} {program : PwmProg ε α} (hnone : program.AllCalls NoVerdict)
    (outputs : Outputs) : verdicts (program.trace wiring.handler outputs) = [] := by
  refine List.filterMap_eq_nil_iff.mpr fun step hstep => ?_
  obtain ⟨hsuccess, hfailed⟩ := hnone.of_mem_trace wiring.handler outputs step hstep
  split
  · contradiction
  · contradiction
  · rfl

/-- `logPWMInput` prints no verdict. -/
theorem noVerdict_logPWMInput : (logPWMInput : PwmProg ε ℚ).AllCalls NoVerdict := by
  unfold logPWMInput
  apply Prog.AllCalls.bind
  · apply Prog.AllCalls.foldlM
    intro tally _
    exact ⟨⟨nofun, nofun⟩, fun _ => ⟨⟨nofun, nofun⟩, fun _ => trivial⟩⟩
  · intro tally
    exact ⟨⟨nofun, nofun⟩, fun _ => ⟨⟨nofun, nofun⟩, fun _ => trivial⟩⟩

/-- The verdict on one channel is printed. -/
theorem verdicts_judge (count : ℕ) (check : ℤ) (outputs : Outputs) :
    verdicts ((judge (percentage count) check : PwmProg ε ℤ).trace wiring.handler outputs) =
      [decide (InTolerance count)] := by
  have hiff := percentage_mem_iff count
  by_cases hpass : InTolerance count
  · rw [judge, if_pos (hiff.mpr hpass), decide_eq_true hpass]
    rfl
  · rw [judge, if_neg fun h => hpass (hiff.mp h), decide_eq_false hpass]
    rfl

/-- The test of one channel starts it, and judges the window that follows. -/
theorem run_testEach (channel : Channel) (check : ℤ) (outputs : Outputs) :
    (testEach check channel : PwmProg ε ℤ).run wiring.handler outputs =
        (.ok (if InTolerance (wiring.highs pwmPins (outputs.start channel.pin)) then check else 1),
          outputs.measured channel) ∧
      verdicts ((testEach check channel : PwmProg ε ℤ).trace wiring.handler outputs) =
        [decide (InTolerance (wiring.highs pwmPins (outputs.start channel.pin)))] := by
  have hlog := run_logPWMInput (ε := ε) wiring (outputs.start channel.pin)
  have hrun := run_judge (ε := ε) wiring.handler (fun _ _ => rfl)
    (wiring.highs pwmPins (outputs.start channel.pin)) check ((outputs.start channel.pin).elapse totalCount)
  constructor
  · rw [testEach, testChannel_eq, Prog.run_call, Prog.run_call, Prog.run_call]
    change Prog.run wiring.handler _ (outputs.start channel.pin) = _
    rw [Prog.run_bind_of_ok _ _ hlog, Prog.run_bind_of_ok _ _ hrun]
    rfl
  · rw [testEach, testChannel_eq, Prog.trace_call, Prog.trace_call, Prog.trace_call]
    change verdicts (Prog.trace wiring.handler _ (outputs.start channel.pin)) = _
    rw [Prog.trace_bind_of_ok _ _ hlog, verdicts_append, verdicts_eq_nil wiring noVerdict_logPWMInput,
      List.nil_append, Prog.trace_bind_of_ok _ _ hrun, verdicts_append, verdicts_judge]
    rfl

/-- The tests of several channels give their outcomes in order. -/
theorem run_testChannels (tested : List Channel) (check : ℤ) (outputs : Outputs) :
    (tested.foldlM testEach check : PwmProg ε ℤ).run wiring.handler outputs =
        (.ok (if ∀ verdict ∈ wiring.outcomes outputs tested, verdict = true then check else 1),
          tested.foldl Outputs.measured outputs) ∧
      verdicts ((tested.foldlM testEach check : PwmProg ε ℤ).trace wiring.handler outputs) =
        wiring.outcomes outputs tested := by
  induction tested generalizing check outputs with
  | nil => exact ⟨rfl, rfl⟩
  | cons channel rest ih =>
    obtain ⟨hrun, hverdict⟩ := run_testEach (ε := ε) wiring channel check outputs
    obtain ⟨hrest, hrestVerdicts⟩ := ih
      (if InTolerance (wiring.highs pwmPins (outputs.start channel.pin)) then check else 1)
      (outputs.measured channel)
    rw [List.foldlM_cons, Prog.run_bind_of_ok _ _ hrun, Prog.trace_bind_of_ok _ _ hrun,
      verdicts_append, hrest, hrestVerdicts, hverdict]
    refine ⟨?_, rfl⟩
    rw [Wiring.outcomes, List.foldl_cons]
    simp only [List.forall_mem_cons, decide_eq_true_eq]
    by_cases hpass : InTolerance (wiring.highs pwmPins (outputs.start channel.pin))
    · simp only [hpass, if_true, true_and]
    · simp only [hpass, if_false, false_and, ite_self]

/-- The outputs in the window of channel number `k`. -/
def Outputs.atWindow (outputs : Outputs) (tested : List Channel) (k : ℕ) (channel : Channel) : Outputs :=
  ((tested.take k).foldl Outputs.measured outputs).start channel.pin

/-- Each outcome is about the window of its channel. -/
theorem getElem?_outcomes (tested : List Channel) (outputs : Outputs) (k : ℕ) (channel : Channel)
    (hk : tested[k]? = some channel) :
    (wiring.outcomes outputs tested)[k]? =
      some (decide (InTolerance (wiring.highs pwmPins (outputs.atWindow tested k channel)))) := by
  induction tested generalizing outputs k with
  | nil => cases hk
  | cons first rest ih =>
    cases k with
    | zero =>
      cases hk
      rfl
    | succ k => exact ih (outputs.measured first) k hk

end Run

section Test

variable (wiring : Wiring) (outputs : Outputs)

/-- The setup changes no output; it may end the program. -/
theorem run_setup :
    setup.run wiring.handler outputs = (if wiring.setup = -1 then .error ⟨1⟩ else .ok (), outputs) := by
  change (if wiring.setup = -1 then _ else _ : PwmProg Exit Unit).run _ outputs = _
  by_cases hsetup : wiring.setup = -1
  · rw [if_pos hsetup, if_pos hsetup]
    rfl
  · rw [if_neg hsetup, if_neg hsetup]
    rfl

/-- The setup prints no verdict. -/
theorem verdicts_setup : verdicts (setup.trace wiring.handler outputs) = [] := by
  change verdicts (⟨outputs, .wiringPiSetup, wiring.setup⟩ ::
    (if wiring.setup = -1 then _ else _ : PwmProg Exit Unit).trace _ outputs) = _
  by_cases hsetup : wiring.setup = -1
  · rw [if_pos hsetup]
    rfl
  · rw [if_neg hsetup]
    rfl

/-- A failed setup ends the program with status 1, and no verdict is printed. -/
theorem run_PWMTest_of_eq (hsetup : wiring.setup = -1) :
    (PWMTest.run wiring.handler outputs).1 = .error ⟨1⟩ ∧
      verdicts (PWMTest.trace wiring.handler outputs) = [] := by
  have hrun := run_setup wiring outputs
  rw [if_pos hsetup] at hrun
  rw [PWMTest_eq, Prog.run_bind_of_error _ _ hrun, Prog.trace_bind_of_error _ _ hrun]
  exact ⟨rfl, verdicts_setup wiring outputs⟩

/-- After a successful setup `PWMTest` prints the four outcomes, and returns 1 if all are good. -/
theorem run_PWMTest_of_ne (hsetup : wiring.setup ≠ -1) :
    (PWMTest.run wiring.handler outputs).1 =
        .ok (if ∀ verdict ∈ wiring.outcomes outputs channels, verdict = true then 1 else 0) ∧
      verdicts (PWMTest.trace wiring.handler outputs) = wiring.outcomes outputs channels := by
  have hrun := run_setup wiring outputs
  rw [if_neg hsetup] at hrun
  obtain ⟨hloop, hverdicts⟩ := run_testChannels (ε := Exit) wiring channels 0 outputs
  rw [PWMTest_eq, Prog.run_bind_of_ok _ _ hrun, Prog.trace_bind_of_ok _ _ hrun, verdicts_append,
    verdicts_setup, List.nil_append, Prog.run_bind_of_ok _ _ hloop, Prog.trace_bind_of_ok _ _ hloop,
    verdicts_append, hverdicts]
  by_cases hall : ∀ verdict ∈ wiring.outcomes outputs channels, verdict = true
  · rw [if_pos hall, if_pos hall]
    exact ⟨rfl, List.append_nil _⟩
  · rw [if_neg hall, if_neg hall]
    exact ⟨rfl, List.append_nil _⟩

/-- Every dead channel is reported as failed, and the test fails if there is one. -/
structure ReportsDead : Prop where
  reported : ∀ (k : ℕ) (channel : Channel), channels[k]? = some channel → wiring.healthy channel.pin = false →
    (verdicts (PWMTest.trace wiring.handler outputs))[k]? = some false
  fails : (∃ channel ∈ channels, wiring.healthy channel.pin = false) →
    (PWMTest.run wiring.handler outputs).1 = .ok 0

/-- The same wiring with all channels dead but one. -/
def Wiring.alone (pin : ℕ) : Wiring :=
  { wiring with healthy := fun other => other == pin && wiring.healthy pin }

/-- The other channels that run in the window of a channel together look like a healthy one. -/
def Masked (k : ℕ) (channel : Channel) : Prop :=
  InTolerance (wiring.highs (pwmPins.erase channel.pin) (outputs.atWindow channels k channel))

instance (k : ℕ) (channel : Channel) : Decidable (Masked wiring outputs k channel) :=
  inferInstanceAs (Decidable (InTolerance _))

/-- A dead channel gives no high samples of its own. -/
theorem highs_erase (pins : List ℕ) {pin : ℕ} (hdead : wiring.healthy pin = false) :
    wiring.highs (pins.erase pin) outputs = wiring.highs pins outputs := by
  have hlow (i : ℕ) : wiring.drives (outputs.elapse i) pin = false := by
    rw [Wiring.drives, hdead]
    rfl
  refine List.countP_congr fun i _ => ?_
  simp only [List.any_eq_true]
  constructor
  · intro hsome
    obtain ⟨other, hother, hdrives⟩ := hsome
    exact ⟨other, List.mem_of_mem_erase hother, hdrives⟩
  · intro hsome
    obtain ⟨other, hother, hdrives⟩ := hsome
    have hne : other ≠ pin := fun heq => by
      rw [heq, hlow] at hdrives
      cases hdrives
    exact ⟨other, (List.mem_erase_of_ne hne).mpr hother, hdrives⟩

/-- With all other channels dead, the high samples are those of the channel itself. -/
theorem highs_alone {pins : List ℕ} {pin : ℕ} (hpin : pin ∈ pins) :
    (wiring.alone pin).highs pins outputs = wiring.highs [pin] outputs := by
  refine List.countP_congr fun i _ => ?_
  simp only [List.any_eq_true, List.mem_singleton, exists_eq_left]
  constructor
  · intro hsome
    obtain ⟨other, -, hdrives⟩ := hsome
    simp only [Wiring.drives, Wiring.alone, Bool.and_eq_true, beq_iff_eq] at hdrives
    obtain ⟨⟨⟨rfl, hhealthy⟩, hvalue⟩, hwave⟩ := hdrives
    simp only [Wiring.drives, Bool.and_eq_true]
    exact ⟨⟨hhealthy, hvalue⟩, hwave⟩
  · intro hdrives
    simp only [Wiring.drives, Bool.and_eq_true] at hdrives
    refine ⟨pin, hpin, ?_⟩
    simp only [Wiring.drives, Wiring.alone, Bool.and_eq_true, beq_self_eq_true, true_and]
    exact hdrives

/-- The verdict on a channel, once the setup has succeeded. -/
theorem getElem?_verdicts (hsetup : wiring.setup ≠ -1) (k : ℕ) (channel : Channel)
    (hk : channels[k]? = some channel) :
    (verdicts (PWMTest.trace wiring.handler outputs))[k]? =
      some (decide (InTolerance (wiring.highs pwmPins (outputs.atWindow channels k channel)))) := by
  rw [(run_PWMTest_of_ne wiring outputs hsetup).2, getElem?_outcomes wiring channels outputs k channel hk]

/-- A dead channel is reported exactly if the setup succeeds and no others stand in for it. -/
theorem reported_iff (k : ℕ) (channel : Channel) (hk : channels[k]? = some channel)
    (hdead : wiring.healthy channel.pin = false) :
    (verdicts (PWMTest.trace wiring.handler outputs))[k]? = some false ↔
      wiring.setup ≠ -1 ∧ ¬Masked wiring outputs k channel := by
  by_cases hsetup : wiring.setup = -1
  · rw [(run_PWMTest_of_eq wiring outputs hsetup).2]
    simp [hsetup]
  · rw [getElem?_verdicts wiring outputs hsetup k channel hk, Option.some.injEq, decide_eq_false_iff_not,
      Masked, highs_erase wiring _ _ hdead, and_iff_right hsetup]

/-- A channel reported as failed makes the test fail. -/
theorem fails_of_reported (k : ℕ)
    (hfalse : (verdicts (PWMTest.trace wiring.handler outputs))[k]? = some false) :
    (PWMTest.run wiring.handler outputs).1 = .ok 0 := by
  by_cases hsetup : wiring.setup = -1
  · rw [(run_PWMTest_of_eq wiring outputs hsetup).2] at hfalse
    cases hfalse
  · obtain ⟨hrun, hverdicts⟩ := run_PWMTest_of_ne wiring outputs hsetup
    rw [hverdicts] at hfalse
    rw [hrun, if_neg fun hall => Bool.false_ne_true (hall false (List.mem_of_getElem? hfalse))]

/-- `PWMTest` reports every dead channel, and fails if there is one, if and only if no channel is
dead, or the setup succeeds and no dead channel is masked. -/
theorem reportsDead_iff :
    ReportsDead wiring outputs ↔
      (∀ channel ∈ channels, wiring.healthy channel.pin = true) ∨
        wiring.setup ≠ -1 ∧ ∀ (k : ℕ) (channel : Channel), channels[k]? = some channel →
          wiring.healthy channel.pin = false → ¬Masked wiring outputs k channel := by
  constructor
  · intro hreports
    by_cases hall : ∀ channel ∈ channels, wiring.healthy channel.pin = true
    · exact .inl hall
    · push Not at hall
      obtain ⟨dead, hmem, hdead⟩ := hall
      have hdead := Bool.eq_false_of_not_eq_true hdead
      obtain ⟨i, hi⟩ := List.mem_iff_getElem?.mp hmem
      have hsetup := ((reported_iff wiring outputs i dead hi hdead).mp
        (hreports.reported i dead hi hdead)).1
      refine .inr ⟨hsetup, fun k channel hk hchannel => ?_⟩
      exact ((reported_iff wiring outputs k channel hk hchannel).mp
        (hreports.reported k channel hk hchannel)).2
  · intro hcondition
    have hreported : ∀ (k : ℕ) (channel : Channel), channels[k]? = some channel →
        wiring.healthy channel.pin = false →
        (verdicts (PWMTest.trace wiring.handler outputs))[k]? = some false := by
      intro k channel hk hdead
      rw [reported_iff wiring outputs k channel hk hdead]
      rcases hcondition with hall | ⟨hsetup, hclear⟩
      · rw [hall channel (List.mem_of_getElem? hk)] at hdead
        cases hdead
      · exact ⟨hsetup, hclear k channel hk hdead⟩
    refine ⟨hreported, fun hsome => ?_⟩
    obtain ⟨dead, hmem, hdead⟩ := hsome
    obtain ⟨k, hk⟩ := List.mem_iff_getElem?.mp hmem
    exact fails_of_reported wiring outputs k (hreported k dead hk hdead)

/-- The verdict on a channel is the one it gets with all others dead if and only if the setup
fails or the others do not change whether its window passes. -/
theorem verdict_alone_iff (k : ℕ) (channel : Channel) (hk : channels[k]? = some channel) :
    (verdicts (PWMTest.trace wiring.handler outputs))[k]? =
        (verdicts (PWMTest.trace (wiring.alone channel.pin).handler outputs))[k]? ↔
      wiring.setup = -1 ∨
        (InTolerance (wiring.highs pwmPins (outputs.atWindow channels k channel)) ↔
          InTolerance (wiring.highs [channel.pin] (outputs.atWindow channels k channel))) := by
  have hpin : channel.pin ∈ pwmPins := List.mem_map_of_mem (List.mem_of_getElem? hk)
  by_cases hsetup : wiring.setup = -1
  · rw [(run_PWMTest_of_eq wiring outputs hsetup).2,
      (run_PWMTest_of_eq (wiring.alone channel.pin) outputs hsetup).2]
    exact iff_of_true rfl (.inl hsetup)
  · rw [getElem?_verdicts wiring outputs hsetup k channel hk,
      getElem?_verdicts (wiring.alone channel.pin) outputs hsetup k channel hk,
      highs_alone wiring _ hpin, Option.some.injEq, decide_eq_decide, or_iff_right hsetup]

/-- For every wiring and every state of the outputs at the start: `PWMTest` reports every dead
channel, and fails if there is one, if and only if no channel is dead, or the setup succeeds and
no dead channel is masked by others. The verdict on a channel is the one it would get with all
others dead if and only if the setup fails or the others do not change whether its window
passes. -/
theorem dead_channels_reported_iff :
    (ReportsDead wiring outputs ↔
      (∀ channel ∈ channels, wiring.healthy channel.pin = true) ∨
        wiring.setup ≠ -1 ∧ ∀ (k : ℕ) (channel : Channel), channels[k]? = some channel →
          wiring.healthy channel.pin = false → ¬Masked wiring outputs k channel) ∧
    ∀ (k : ℕ) (channel : Channel), channels[k]? = some channel →
      ((verdicts (PWMTest.trace wiring.handler outputs))[k]? =
          (verdicts (PWMTest.trace (wiring.alone channel.pin).handler outputs))[k]? ↔
        wiring.setup = -1 ∨
          (InTolerance (wiring.highs pwmPins (outputs.atWindow channels k channel)) ↔
            InTolerance (wiring.highs [channel.pin] (outputs.atWindow channels k channel)))) :=
  ⟨reportsDead_iff wiring outputs, verdict_alone_iff wiring outputs⟩

end Test

/-- With a healthy channel on GPIO 12 at half duty and all others dead, the dead channel on GPIO
13 is not reported. -/
theorem dead_channel_masked :
    ¬∀ (wiring : Wiring) (outputs : Outputs), ReportsDead wiring outputs := by
  intro hall
  have hreports := hall ⟨0, fun pin => pin == PWM_PIN12, fun _ _ time => time % 2 == 0⟩ ⟨fun _ => 0, 0⟩
  have hreported := (reported_iff _ _ 1 ⟨13, PWM_PIN13⟩ rfl rfl).mp (hreports.reported 1 ⟨13, PWM_PIN13⟩ rfl rfl)
  revert hreported
  decide +kernel

end Maestro.Combine.Pwm
