import Maestro.Combine.GpioTest

/-!
# The GPIO test on a board with shorts

Pins that are connected share a net. When outputs of one net disagree, the low level wins on some nets
and the high level on others. `GpioTest` drives one pin high at a time and leaves the pins before it low,
so it notices a short only on a net where the low level wins, and only at the later one of two pins.
-/

namespace Maestro.Combine.Shorts

open Effect

/-- The number of pins of wiringPi. -/
def pinCount : ℕ := 64

/-- The status of the setup, the net of each pin, the level that wins on it, and the level of a net that
no output drives. -/
structure Wiring where
  status : ℤ
  net : ℕ → ℕ
  lowWins : ℕ → Bool
  applied : ℕ → ℤ

variable (wiring : Wiring) (bench : Bench)

/-- Some output on the net of a pin has a level. -/
def Wiring.Driven (pin : ℕ) (level : ℤ) : Prop :=
  ∃ other < pinCount, wiring.net other = wiring.net pin ∧ bench.mode other = .OUTPUT ∧ bench.latch other = level

instance (pin : ℕ) (level : ℤ) : Decidable (wiring.Driven bench pin level) := by
  unfold Wiring.Driven
  infer_instance

/-- The level that a pin reads. -/
def Wiring.level (pin : ℕ) : ℤ :=
  if wiring.Driven bench pin LOW ∧ (wiring.lowWins (wiring.net pin) ∨ ¬wiring.Driven bench pin HIGH) then LOW
  else if wiring.Driven bench pin HIGH then HIGH
  else wiring.applied (wiring.net pin)

/-- wiringPi on a board with shorts: any value but `LOW` writes a high level. -/
def Wiring.handler (Line : Type) : Handler (PinCalls Line) Bench where
  answer
    | .wiringPiSetup, bench => (wiring.status, bench)
    | .pinMode pin mode, bench => ((), { bench with mode := Function.update bench.mode pin mode })
    | .digitalWrite pin value, bench =>
      ((), { bench with latch := Function.update bench.latch pin (if value = LOW then LOW else HIGH) })
    | .digitalRead pin, bench => (wiring.level bench pin, bench)
    | .usleep _, bench => ((), bench)
    | .printf _, bench => ((), bench)

/-- The pins in the lines that report a failure. -/
def reported (steps : List (Step (PinCalls GpioLine) Bench)) : List ℕ :=
  steps.filterMap fun step =>
    match step.request with
    | .printf (.failed pin) => some pin
    | _ => none

/-- The pins after the tests of some: these are low outputs. -/
def tested (earlier : List ℕ) : Bench where
  mode pin := if pin ∈ earlier then .OUTPUT else bench.mode pin
  latch pin := if pin ∈ earlier then LOW else bench.latch pin

/-- A pin is pulled low by another one: one that was tested before, or that was a low output from the
start. -/
def PulledLow (earlier : List ℕ) (pin : ℕ) : Prop :=
  wiring.lowWins (wiring.net pin) ∧ ∃ other < pinCount, other ≠ pin ∧ wiring.net other = wiring.net pin ∧
    (other ∈ earlier ∨ bench.mode other = .OUTPUT ∧ bench.latch other = LOW)

instance (earlier : List ℕ) (pin : ℕ) : Decidable (PulledLow wiring bench earlier pin) := by
  unfold PulledLow
  infer_instance

/-- The pins that are pulled low when their turn comes. -/
def pulledLow (earlier : List ℕ) : List ℕ → List ℕ
  | [] => []
  | pin :: rest =>
    (if PulledLow wiring bench earlier pin then [pin] else []) ++ pulledLow (earlier ++ [pin]) rest

section Tests

/-- The pins while one of them is driven high. -/
def driving (earlier : List ℕ) (pin : ℕ) : Bench where
  mode := Function.update (tested bench earlier).mode pin .OUTPUT
  latch := Function.update (tested bench earlier).latch pin HIGH

/-- The pin under test is an output. -/
@[simp] theorem driving_mode_self (earlier : List ℕ) (pin : ℕ) : (driving bench earlier pin).mode pin = .OUTPUT :=
  Function.update_self ..

/-- It is driven high. -/
@[simp] theorem driving_latch_self (earlier : List ℕ) (pin : ℕ) : (driving bench earlier pin).latch pin = HIGH :=
  Function.update_self ..

/-- The other pins are as the tests before left them. -/
theorem driving_of_ne (earlier : List ℕ) {pin other : ℕ} (hne : other ≠ pin) :
    (driving bench earlier pin).mode other = (tested bench earlier).mode other ∧
      (driving bench earlier pin).latch other = (tested bench earlier).latch other :=
  ⟨Function.update_of_ne hne .., Function.update_of_ne hne ..⟩

/-- A pin is a low output if it was tested before, or from the start. -/
theorem tested_low_iff (earlier : List ℕ) (other : ℕ) :
    (tested bench earlier).mode other = .OUTPUT ∧ (tested bench earlier).latch other = LOW ↔
      other ∈ earlier ∨ bench.mode other = .OUTPUT ∧ bench.latch other = LOW := by
  rw [tested]
  by_cases hmem : other ∈ earlier <;> simp [hmem]

/-- A pin that is driven high reads low if another one pulls it low. -/
theorem level_driving_eq_low_iff (earlier : List ℕ) {pin : ℕ} (hpin : pin < pinCount) :
    wiring.level (driving bench earlier pin) pin = LOW ↔ PulledLow wiring bench earlier pin := by
  have hhigh : wiring.Driven (driving bench earlier pin) pin HIGH :=
    ⟨pin, hpin, rfl, driving_mode_self .., driving_latch_self ..⟩
  have hlow : wiring.Driven (driving bench earlier pin) pin LOW ↔ ∃ other < pinCount, other ≠ pin ∧
      wiring.net other = wiring.net pin ∧ (other ∈ earlier ∨ bench.mode other = .OUTPUT ∧ bench.latch other = LOW) := by
    refine exists_congr fun other => and_congr_right fun _ => ?_
    by_cases heq : other = pin
    · subst heq
      rw [driving_latch_self]
      exact iff_of_false (fun h => absurd h.2.2 (by decide)) fun h => h.1 rfl
    · obtain ⟨hmode, hlatch⟩ := driving_of_ne bench earlier heq
      rw [hmode, hlatch, tested_low_iff, and_iff_right heq]
  rw [Wiring.level, PulledLow, ← hlow]
  by_cases hwins : wiring.lowWins (wiring.net pin) = true
  · by_cases hdriven : wiring.Driven (driving bench earlier pin) pin LOW
    · rw [if_pos ⟨hdriven, .inl hwins⟩]
      exact iff_of_true rfl ⟨hwins, hdriven⟩
    · rw [if_neg fun h => hdriven h.1, if_pos hhigh]
      exact iff_of_false (by decide) fun h => hdriven h.2
  · rw [if_neg fun h => h.2.elim hwins fun hnot => hnot hhigh, if_pos hhigh]
    exact iff_of_false (by decide) fun h => hwins h.1

/-- A pin is left as a low output. -/
theorem tested_append (earlier : List ℕ) (pin : ℕ) :
    tested bench (earlier ++ [pin]) =
      ⟨(driving bench earlier pin).mode, Function.update (driving bench earlier pin).latch pin LOW⟩ := by
  rw [driving, Function.update_idem, tested, tested, Bench.mk.injEq]
  constructor <;> funext other <;> by_cases heq : other = pin <;> simp [heq]

/-- The test of a pin reports it if it is pulled low, and leaves it as a low output. -/
theorem testPin_run (earlier : List ℕ) (check : ℤ) {pin : ℕ} (hpin : pin < pinCount) :
    (testPin check pin : GpioProg Empty ℤ).run (wiring.handler GpioLine) (tested bench earlier) =
        (.ok (if PulledLow wiring bench earlier pin then 0 else check), tested bench (earlier ++ [pin])) ∧
      reported ((testPin check pin : GpioProg Empty ℤ).trace (wiring.handler GpioLine) (tested bench earlier)) =
        if PulledLow wiring bench earlier pin then [pin] else [] := by
  have hlow := level_driving_eq_low_iff wiring bench earlier hpin
  rw [tested_append]
  change ((reportLow (wiring.level (driving bench earlier pin) pin) check pin >>= fun check => _ :
      GpioProg Empty ℤ).run _ _) = _ ∧
    reported (_ :: _ :: _ :: _ :: (reportLow (wiring.level (driving bench earlier pin) pin) check pin >>=
      fun check => _ : GpioProg Empty ℤ).trace _ _) = _
  rw [reportLow]
  by_cases hpulled : PulledLow wiring bench earlier pin
  · rw [if_pos (hlow.mpr hpulled), if_pos hpulled, if_pos hpulled]
    exact ⟨rfl, rfl⟩
  · rw [if_neg fun h => hpulled (hlow.mp h), if_neg hpulled, if_neg hpulled]
    exact ⟨rfl, rfl⟩

/-- The lines of a sequence. -/
theorem reported_append (first last : List (Step (PinCalls GpioLine) Bench)) :
    reported (first ++ last) = reported first ++ reported last :=
  List.filterMap_append

/-- The loop reports the pins that are pulled low when their turn comes. -/
theorem testPins_run (values earlier : List ℕ) (check : ℤ) (hvalues : ∀ pin ∈ values, pin < pinCount) :
    (values.foldlM testPin check : GpioProg Empty ℤ).run (wiring.handler GpioLine) (tested bench earlier) =
        (.ok (if pulledLow wiring bench earlier values = [] then check else 0), tested bench (earlier ++ values)) ∧
      reported ((values.foldlM testPin check : GpioProg Empty ℤ).trace (wiring.handler GpioLine)
        (tested bench earlier)) = pulledLow wiring bench earlier values := by
  induction values generalizing earlier check with
  | nil =>
    rw [List.append_nil]
    exact ⟨rfl, rfl⟩
  | cons pin rest ih =>
    obtain ⟨hrun, hreported⟩ := testPin_run wiring bench earlier check (hvalues pin List.mem_cons_self)
    obtain ⟨hloop, hrest⟩ := ih (earlier ++ [pin]) (if PulledLow wiring bench earlier pin then 0 else check)
      fun other hmem => hvalues other (List.mem_cons_of_mem pin hmem)
    rw [List.foldlM_cons, Prog.run_bind_of_ok _ _ hrun, Prog.trace_bind_of_ok _ _ hrun, reported_append, hreported,
      hloop, hrest, pulledLow, List.append_assoc, List.singleton_append]
    refine ⟨?_, rfl⟩
    by_cases hpulled : PulledLow wiring bench earlier pin
    · rw [if_pos hpulled, if_pos hpulled, ite_self, List.singleton_append, if_neg (List.cons_ne_nil _ _)]
    · rw [if_neg hpulled, if_neg hpulled]
      rfl

/-- A reported pin is pulled low by a pin before it, or by one that was a low output from the start. -/
theorem mem_pulledLow_iff (values earlier : List ℕ) (pin : ℕ) :
    pin ∈ pulledLow wiring bench earlier values ↔
      ∃ before after, values = before ++ pin :: after ∧ PulledLow wiring bench (earlier ++ before) pin := by
  induction values generalizing earlier with
  | nil => simp [pulledLow]
  | cons first rest ih =>
    rw [pulledLow, List.mem_append, ih]
    constructor
    · intro hmem
      rcases hmem with hmem | ⟨before, after, rfl, hpulled⟩
      · split at hmem
        case isTrue hpulled =>
          cases List.mem_singleton.mp hmem
          rw [← List.append_nil earlier] at hpulled
          exact ⟨[], rest, rfl, hpulled⟩
        case isFalse => cases hmem
      · rw [List.append_assoc] at hpulled
        exact ⟨first :: before, after, rfl, hpulled⟩
    · intro hmem
      obtain ⟨before, after, hsplit, hpulled⟩ := hmem
      cases before with
      | nil =>
        cases hsplit
        rw [List.append_nil] at hpulled
        rw [if_pos hpulled]
        exact .inl List.mem_cons_self
      | cons other before =>
        cases hsplit
        rw [List.append_cons] at hpulled
        exact .inr ⟨before, after, rfl, hpulled⟩

/-- After a failed setup no pin is tested. -/
theorem GpioTest_run_of_failed (hstatus : wiring.status = -1) :
    ((GpioTest : GpioProg Empty ℤ).run (wiring.handler GpioLine) bench).1 = .ok 1 ∧
      reported ((GpioTest : GpioProg Empty ℤ).trace (wiring.handler GpioLine) bench) = [] := by
  change ((if wiring.status = -1 then _ else _ : GpioProg Empty ℤ).run (wiring.handler GpioLine) bench).1 = _ ∧
    reported (_ :: (if wiring.status = -1 then _ else _ : GpioProg Empty ℤ).trace (wiring.handler GpioLine) bench) = _
  rw [if_pos hstatus]
  exact ⟨rfl, rfl⟩

/-- The test of the board reports the pins that are pulled low, and fails if there are any. -/
theorem GpioTest_run (hstatus : wiring.status ≠ -1) :
    ((GpioTest : GpioProg Empty ℤ).run (wiring.handler GpioLine) bench).1 =
        .ok (if pulledLow wiring bench [] pins = [] then 1 else 0) ∧
      reported ((GpioTest : GpioProg Empty ℤ).trace (wiring.handler GpioLine) bench) =
        pulledLow wiring bench [] pins := by
  have hpins : ∀ pin ∈ pins, pin < pinCount := by decide
  have hstart : tested bench [] = bench := rfl
  obtain ⟨hrun, hreported⟩ := testPins_run wiring bench pins [] 1 hpins
  rw [hstart] at hrun hreported
  change ((if wiring.status = -1 then _ else _ : GpioProg Empty ℤ).run (wiring.handler GpioLine) bench).1 = _ ∧
    reported (_ :: (if wiring.status = -1 then _ else _ : GpioProg Empty ℤ).trace (wiring.handler GpioLine) bench) = _
  rw [if_neg hstatus]
  change ((pins.foldlM testPin 1 >>= fun check => _ : GpioProg Empty ℤ).run (wiring.handler GpioLine) bench).1 = _ ∧
    reported ((pins.foldlM testPin 1 >>= fun check => _ : GpioProg Empty ℤ).trace (wiring.handler GpioLine) bench) = _
  rw [Prog.run_bind_of_ok _ _ hrun, Prog.trace_bind_of_ok _ _ hrun, reported_append, hreported]
  constructor
  · by_cases hnone : pulledLow wiring bench [] pins = []
    · rw [if_pos hnone]
      rfl
    · rw [if_neg hnone]
      rfl
  · split <;> exact List.append_nil _

end Tests

/-- No pin of an idle board is an output. -/
def idle (latch : ℕ → ℤ) : Bench := ⟨fun _ => .INPUT, latch⟩

/-- Of two pins in a list one comes before the other. -/
theorem split_of_mem {values : List ℕ} {first last : ℕ} (hne : first ≠ last) (hfirst : first ∈ values)
    (hlast : last ∈ values) :
    (∃ before after, values = before ++ last :: after ∧ first ∈ before) ∨
      ∃ before after, values = before ++ first :: after ∧ last ∈ before := by
  obtain ⟨before, after, rfl⟩ := List.append_of_mem hlast
  rcases List.mem_append.mp hfirst with hmem | hmem
  · exact .inl ⟨before, after, rfl, hmem⟩
  · have hafter := List.mem_of_ne_of_mem hne hmem
    obtain ⟨between, rest, rfl⟩ := List.append_of_mem hafter
    exact .inr ⟨before ++ last :: between, rest, by simp, by simp⟩

/-- The verdict on the pins that are pulled low. -/
theorem verdict_eq_zero_iff (names : List ℕ) :
    (Except.ok (if names = [] then 1 else 0) : Except Empty ℤ) = .ok 0 ↔ names ≠ [] := by
  by_cases hnone : names = []
  · rw [if_pos hnone]
    exact iff_of_false (by decide) (not_not.mpr hnone)
  · rw [if_neg hnone]
    exact iff_of_true rfl hnone

/-- Two pins under test that share a net are noticed on an idle board exactly when low wins on it. -/
theorem pulledLow_idle_iff (wiring : Wiring) (latch : ℕ → ℤ) :
    pulledLow wiring (idle latch) [] pins ≠ [] ↔
      ∃ first ∈ pins, ∃ last ∈ pins, first ≠ last ∧ wiring.net first = wiring.net last ∧
        wiring.lowWins (wiring.net last) := by
  rw [ne_eq, List.eq_nil_iff_forall_not_mem, not_forall]
  simp only [not_not, mem_pulledLow_iff]
  constructor
  · intro hshort
    obtain ⟨last, before, after, hsplit, hwins, first, -, hne, hnet, hearlier⟩ := hshort
    have hfirst : first ∈ before := hearlier.resolve_right fun h => nomatch h.1
    refine ⟨first, ?_, last, ?_, hne, hnet, hwins⟩
    · rw [hsplit]
      exact List.mem_append_left _ hfirst
    · rw [hsplit]
      exact List.mem_append_right _ List.mem_cons_self
  · intro hshort
    obtain ⟨first, hfirst, last, hlast, hne, hnet, hwins⟩ := hshort
    have hpins : ∀ pin ∈ pins, pin < pinCount := by decide
    rcases split_of_mem hne hfirst hlast with
      ⟨before, after, hsplit, hmem⟩ | ⟨before, after, hsplit, hmem⟩
    · exact ⟨last, before, after, hsplit, hwins, first, hpins first hfirst, hne, hnet, .inl hmem⟩
    · rw [← hnet] at hwins
      exact ⟨first, before, after, hsplit, hwins, last, hpins last hlast, hne.symm, hnet.symm, .inl hmem⟩

/-- For every wiring and every state of the pins. After a failed setup `GpioTest` reports no pin and
returns 1. After a successful one it reports exactly the pins on whose net low wins and on which a pin
tested before, or one that was a low output from the start, lies too, and it returns 0 if and only if it
reports one. On an idle board it then returns 0 if and only if two of its pins share a net on which low
wins: a short on which high wins, or with a pin that is not under test, passes. -/
theorem shorts_reported (wiring : Wiring) (bench : Bench) (latch : ℕ → ℤ) :
    (wiring.status = -1 →
      reported ((GpioTest : GpioProg Empty ℤ).trace (wiring.handler GpioLine) bench) = [] ∧
        ((GpioTest : GpioProg Empty ℤ).run (wiring.handler GpioLine) bench).1 = .ok 1) ∧
    (wiring.status ≠ -1 →
      (∀ pin, pin ∈ reported ((GpioTest : GpioProg Empty ℤ).trace (wiring.handler GpioLine) bench) ↔
          ∃ before after, pins = before ++ pin :: after ∧ PulledLow wiring bench before pin) ∧
        (((GpioTest : GpioProg Empty ℤ).run (wiring.handler GpioLine) bench).1 = .ok 0 ↔
          reported ((GpioTest : GpioProg Empty ℤ).trace (wiring.handler GpioLine) bench) ≠ []) ∧
        (((GpioTest : GpioProg Empty ℤ).run (wiring.handler GpioLine) (idle latch)).1 = .ok 0 ↔
          ∃ first ∈ pins, ∃ last ∈ pins, first ≠ last ∧ wiring.net first = wiring.net last ∧
            wiring.lowWins (wiring.net last))) := by
  constructor
  · intro hstatus
    exact (GpioTest_run_of_failed wiring bench hstatus).symm
  · intro hstatus
    obtain ⟨hrun, hreported⟩ := GpioTest_run wiring bench hstatus
    obtain ⟨hidle, -⟩ := GpioTest_run wiring (idle latch) hstatus
    rw [hreported, hrun, hidle, verdict_eq_zero_iff, verdict_eq_zero_iff, pulledLow_idle_iff]
    exact ⟨mem_pulledLow_iff wiring bench pins [], Iff.rfl, Iff.rfl⟩

end Maestro.Combine.Shorts
