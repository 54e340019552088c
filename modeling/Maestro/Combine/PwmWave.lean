import Maestro.Combine.PwmMasking
import Maestro.Word.Sampling
import Mathlib.Data.Nat.Prime.Basic

/-!
# The PWM test on a bench with ideal channels

In mark-space mode a channel is high for the first `value` of every `range` ticks of the PWM clock.
`PWMTest` writes 512 for a range of 1024 and takes as many samples as the range has ticks. Whatever the
tick of the first sample, exactly half of the samples are high, unless the samples are a multiple of the
period apart: then they all show the same tick. All channels count the same clock, so those that go on
from earlier windows do not disturb the one under test, but they stand in for one that is not wired.
-/

namespace Maestro.Combine.Pwm

open Effect Word

/-- The level of a channel at a tick. -/
def wave (range value tick : ℕ) : ℤ := if tick % range < value then HIGH else LOW

/-- The PWM unit and its clock: the modes of the pins, the mode and the range of the unit, the values
of the channels, the tick, and how often a value was written. -/
structure PwmUnit where
  pins : ℕ → PinMode
  mode : ℤ
  range : ℕ
  value : ℕ → ℕ
  tick : ℕ
  writes : ℕ

/-- A bench: what the setup returns, and which channels are wired to the input pin. At write number `k`
the clock is at tick `phase k`, and each wait after it takes `step k` ticks. The output of a channel
in the other mode of the unit is left open. -/
structure Bench where
  status : ℤ
  wired : ℕ → Bool
  phase : ℕ → ℕ
  step : ℕ → ℕ
  balanced : ℕ → ℕ → ℕ → ℤ

/-- The output of a pin: nothing, unless it is in PWM mode. -/
def Bench.output (bench : Bench) (unit : PwmUnit) (pin : ℕ) : ℤ :=
  if unit.pins pin = .PWM_OUTPUT then
    if unit.mode = PWM_MODE_MS then wave unit.range (unit.value pin) unit.tick
    else bench.balanced unit.range (unit.value pin) unit.tick
  else LOW

/-- The input pin is high while a channel that is wired to it is. -/
def Bench.level (bench : Bench) (unit : PwmUnit) (pin : ℕ) : ℤ :=
  if pin = INPUT_PIN ∧ ∃ channel ∈ pwmPins, bench.wired channel = true ∧ bench.output unit channel = HIGH then HIGH
  else LOW

/-- wiringPi on the bench. -/
def Bench.handler (bench : Bench) : Handler PwmCalls PwmUnit where
  answer
    | .wiringPiSetup, unit => (bench.status, unit)
    | .pinMode pin mode, unit => ((), { unit with pins := Function.update unit.pins pin mode })
    | .pwmSetMode mode, unit => ((), { unit with mode := mode })
    | .pwmSetRange range, unit => ((), { unit with range := range })
    | .pwmSetClock _, unit => ((), unit)
    | .pwmWrite pin value, unit =>
      ((), { unit with
        value := Function.update unit.value pin value.toNat
        tick := bench.phase unit.writes
        writes := unit.writes + 1 })
    | .digitalRead pin, unit => (bench.level unit pin, unit)
    | .delayMicroseconds _, unit => ((), { unit with tick := unit.tick + bench.step (unit.writes - 1) })
    | .sleep _, unit => ((), unit)
    | .printf _, unit => ((), unit)

/-- Some wired channel gives a wave: one that was started, or one that was left on. -/
def Bench.Hears (bench : Bench) (started : List ℕ) (value : ℕ → ℕ) : Prop :=
  ∃ pin ∈ pwmPins, bench.wired pin = true ∧ (pin ∈ started ∨ value pin = 512)

instance (bench : Bench) (started : List ℕ) (value : ℕ → ℕ) : Decidable (bench.Hears started value) :=
  List.decidableBEx _ _

section Wave

end Wave

/-- The unit is set up, and every channel is off or at half duty. -/
structure Ready (unit : PwmUnit) : Prop where
  pins : ∀ pin ∈ pwmPins, unit.pins pin = .PWM_OUTPUT
  mode : unit.mode = PWM_MODE_MS
  range : unit.range = 1024
  halves : ∀ pin, unit.value pin = 0 ∨ unit.value pin = 512

/-- The unit when a channel has been started. -/
def Bench.started (bench : Bench) (unit : PwmUnit) (pin : ℕ) : PwmUnit :=
  { unit with
    value := Function.update unit.value pin 512
    tick := bench.phase unit.writes
    writes := unit.writes + 1 }

/-- The unit after some samples of a window. -/
def Bench.sampled (bench : Bench) (unit : PwmUnit) (i : ℕ) : PwmUnit :=
  { unit with tick := unit.tick + i * bench.step (unit.writes - 1) }

section Windows

variable (bench : Bench) {unit : PwmUnit}

/-- A started channel is at half duty. -/
theorem Ready.started (hready : Ready unit) (pin : ℕ) : Ready (bench.started unit pin) := by
  refine ⟨hready.pins, hready.mode, hready.range, fun other => ?_⟩
  change Function.update unit.value pin 512 other = 0 ∨ Function.update unit.value pin 512 other = 512
  by_cases heq : other = pin
  · exact .inr (by rw [heq, Function.update_self])
  · rw [Function.update_of_ne heq]
    exact hready.halves other

/-- A sample is high in the first half of the period, if something is heard. -/
def Bench.high (bench : Bench) (unit : PwmUnit) (i : ℕ) : Bool :=
  decide (bench.Hears [] unit.value ∧ (unit.tick + i * bench.step (unit.writes - 1)) % 1024 < 512)

end Windows

end Maestro.Combine.Pwm
