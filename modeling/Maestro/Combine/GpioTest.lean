import Maestro.Combine.Pins
import Maestro.Effect.Loop
import Mathlib.Data.List.Induction

/-!
# The GPIO test of `CombineCode`

`GpioTest` drives 17 wiringPi pins high, one after the other, and reads each back once. The
main result says for which boards the verdict is right: a pin stuck at 1 is never noticed,
and a failed setup counts as a pass.
-/

namespace Maestro.Combine

open Effect

/-- What the GPIO test prints. -/
inductive GpioLine where
  | setupFailed
  | failed (pin : ℕ)
  | completed
deriving DecidableEq

/-- The printed text. -/
def GpioLine.text : GpioLine → String
  | setupFailed => "wiringPi setup failed!\n"
  | failed pin => "\x1b[31mGPIO " ++ toString pin ++ " failed\x1b[0m\n"
  | completed => "GPIO test completed.\n"

abbrev GpioProg (ε α : Type) := Prog (PinCalls GpioLine) ε α

/-- The wiringPi numbers of the pins under test. -/
def pins : List ℕ := [7, 0, 2, 3, 21, 22, 23, 25, 15, 16, 4, 5, 6, 31, 27, 28, 29]

/-- Print a pin that reads low, and clear `check`. -/
def reportLow {ε : Type} (level : ℤ) (check : ℤ) (pin : ℕ) : GpioProg ε ℤ :=
  if level = LOW then do
    printf (.failed pin)
    return 0
  else return check

/-- The loop body: only the high level is read back. -/
def testPin {ε : Type} (check : ℤ) (pin : ℕ) : GpioProg ε ℤ := do
  pinMode pin .OUTPUT
  digitalWrite pin HIGH
  usleep 300000
  let level ← digitalRead pin
  let check ← reportLow level check pin
  digitalWrite pin LOW
  usleep 300000
  return check

/-- The test; a failed setup returns 1 as well. -/
def GpioTest {ε : Type} : GpioProg ε ℤ := do
  let result ← wiringPiSetup
  if result = -1 then do
    printf .setupFailed
    return 1
  else do
    let check ← pins.foldlM testPin 1
    printf .completed
    if check = 1 then return 1 else return 0

section Verdict

variable {ε : Type} (board : Board) (bench : Bench)

/-- Reporting a level takes no reads or writes. -/
theorem run_reportLow (level check : ℤ) (pin : ℕ) :
    (reportLow level check pin : GpioProg ε ℤ).run (board.handler GpioLine) bench =
      (.ok (if level = LOW then 0 else check), bench) := by
  rw [reportLow]
  split <;> rfl

/-- A pin driven high reads low exactly when it is stuck at 0. -/
theorem level_driven_eq_low_iff (pin : ℕ) :
    board.level ⟨Function.update bench.mode pin .OUTPUT, Function.update bench.latch pin HIGH⟩ pin = LOW ↔
      board.pinState pin = .stuckAt0 := by
  rw [Board.level]
  cases board.pinState pin with
  | healthy => simp [HIGH, LOW]
  | stuckAt0 => simp
  | stuckAt1 => simp [HIGH, LOW]

/-- The test of a pin clears `check` exactly when the pin is stuck at 0. -/
theorem run_testPin (check : ℤ) (pin : ℕ) :
    ((testPin check pin : GpioProg ε ℤ).run (board.handler GpioLine) bench).1 =
      .ok (if board.pinState pin = .stuckAt0 then 0 else check) := by
  change ((reportLow (board.level _ pin) check pin >>= fun check => _ : GpioProg ε ℤ).run _ _).1 = _
  rw [Prog.run_bind_of_ok _ _ (run_reportLow board _ _ check pin)]
  change Except.ok (if board.level ⟨Function.update bench.mode pin .OUTPUT,
    Function.update bench.latch pin HIGH⟩ pin = LOW then 0 else check) = _
  simp only [level_driven_eq_low_iff]

/-- Clearing at every bad pin leaves 1 exactly when no pin is bad. -/
theorem foldl_clear (bad : ℕ → Prop) [DecidablePred bad] (values : List ℕ) :
    values.foldl (fun (check : ℤ) pin => if bad pin then 0 else check) 1 =
      if ∀ pin ∈ values, ¬bad pin then 1 else 0 := by
  induction values using List.reverseRecOn with
  | nil => simp
  | append_singleton values pin ih =>
    rw [List.foldl_append, List.foldl_cons, List.foldl_nil, ih]
    by_cases hbad : bad pin
    · have hlast : pin ∈ values ++ [pin] := List.mem_append_right values (List.mem_singleton_self pin)
      rw [if_pos hbad, if_neg fun h => h pin hlast hbad]
    · have hiff : (∀ other ∈ values ++ [pin], ¬bad other) ↔ ∀ other ∈ values, ¬bad other := by
        simp only [List.forall_mem_append, List.forall_mem_singleton, hbad, not_false_eq_true, and_true]
      rw [if_neg hbad]
      simp only [hiff]

/-- `GpioTest` returns 1 when the setup fails or no pin is stuck at 0, and 0 otherwise. -/
theorem run_GpioTest :
    ((GpioTest : GpioProg ε ℤ).run (board.handler GpioLine) bench).1 =
      .ok (if board.setup = -1 ∨ ∀ pin ∈ pins, board.pinState pin ≠ .stuckAt0 then 1 else 0) := by
  have hloop := Prog.run_foldlM_value (board.handler GpioLine) (testPin (ε := ε)) _
    (fun check pin bench => run_testPin board bench check pin) pins 1 bench
  rw [foldl_clear] at hloop
  change ((if board.setup = -1 then _ else _ : GpioProg ε ℤ).run (board.handler GpioLine) bench).1 = _
  by_cases hsetup : board.setup = -1
  · rw [if_pos hsetup, if_pos (.inl hsetup)]
    rfl
  · rw [if_neg hsetup, Prog.run_bind_of_ok _ _ (Prod.ext hloop rfl)]
    by_cases hlow : ∀ pin ∈ pins, board.pinState pin ≠ .stuckAt0
    · have hpass : board.setup = -1 ∨ ∀ pin ∈ pins, board.pinState pin ≠ .stuckAt0 := .inr hlow
      rw [if_pos hlow, if_pos hpass]
      rfl
    · have hfail : ¬(board.setup = -1 ∨ ∀ pin ∈ pins, board.pinState pin ≠ .stuckAt0) :=
        not_or.mpr ⟨hsetup, hlow⟩
      rw [if_neg hlow, if_neg hfail]
      rfl

/-- The verdict is 1 exactly for a board whose setup succeeded and whose pins are healthy. -/
def VerdictRight : Prop :=
  ((GpioTest : GpioProg Empty ℤ).run (board.handler GpioLine) bench).1 = .ok 1 ↔
    board.setup ≠ -1 ∧ ∀ pin ∈ pins, board.pinState pin = .healthy

/-- Pins that are not stuck at 0 are healthy when none is stuck at 1. -/
theorem forall_healthy_iff (hlow : ∀ pin ∈ pins, board.pinState pin ≠ .stuckAt0) :
    (∀ pin ∈ pins, board.pinState pin = .healthy) ↔ ∀ pin ∈ pins, board.pinState pin ≠ .stuckAt1 := by
  refine forall₂_congr fun pin hpin => ?_
  have hpin := hlow pin hpin
  cases hstate : board.pinState pin with
  | healthy => simp
  | stuckAt0 => exact absurd hstate hpin
  | stuckAt1 => simp

/-- The verdict is right exactly when the setup succeeded and a pin stuck at 1 does not stand
alone: some pin is stuck at 0, or none is stuck at 1. -/
theorem verdictRight_iff :
    VerdictRight board bench ↔
      board.setup ≠ -1 ∧
        ((∃ pin ∈ pins, board.pinState pin = .stuckAt0) ∨ ∀ pin ∈ pins, board.pinState pin ≠ .stuckAt1) := by
  rw [VerdictRight, run_GpioTest]
  by_cases hsetup : board.setup = -1
  · simp [hsetup]
  · by_cases hlow : ∀ pin ∈ pins, board.pinState pin ≠ .stuckAt0
    · have hnone : ¬∃ pin ∈ pins, board.pinState pin = .stuckAt0 := fun h => by
        obtain ⟨pin, hpin, hstuck⟩ := h
        exact hlow pin hpin hstuck
      rw [if_pos (.inr hlow), or_iff_right hnone, forall_healthy_iff board hlow, iff_true_left rfl]
    · have hsome : ∃ pin ∈ pins, board.pinState pin = .stuckAt0 := by
        push Not at hlow
        exact hlow
      obtain ⟨pin, hpin, hstuck⟩ := hsome
      have hfaulty : ¬∀ pin ∈ pins, board.pinState pin = .healthy := fun h => by
        rw [h pin hpin] at hstuck
        exact PinState.noConfusion hstuck
      rw [if_neg (not_or.mpr ⟨hsetup, hlow⟩)]
      exact iff_of_true (iff_of_false (by decide) fun h => hfaulty h.2)
        ⟨hsetup, .inl ⟨pin, hpin, hstuck⟩⟩

end Verdict

/-- A board with pin 7 stuck at 1 passes. -/
theorem stuck_pin_passes :
    ¬∀ (board : Board) (bench : Bench), VerdictRight board bench := by
  intro hall
  have hright := hall ⟨0, fun pin => if pin = 7 then .stuckAt1 else .healthy, fun _ => LOW⟩
    ⟨fun _ => .INPUT, fun _ => LOW⟩
  rw [VerdictRight, run_GpioTest] at hright
  revert hright
  decide

end Maestro.Combine
