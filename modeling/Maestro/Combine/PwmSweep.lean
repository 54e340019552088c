import Maestro.Combine.PwmWave
import Maestro.Combine.PwmWindows

/-!
# The PWM sweep

`PWMTest3.c` lets one channel go through all values of a range of 128, one after the other, and
samples the input pin 128 times at each. With the input pin wired to that channel the printed counts
follow the value up to the greatest common divisor of 128 and the distance of the samples, wherever in
the period a window starts. An odd distance gives the value itself.
-/

namespace Maestro.Combine.Pwm.Sweep

open Effect Word

/-- `setup` of the sweep; it ends the program when wiringPi cannot be set up. -/
def setup : PwmProg Exit Unit := do
  let result ← wiringPiSetup
  if result = -1 then do
    printf .setupFailed
    Prog.exit 1
  else do
    pinMode PWM_PIN18 .PWM_OUTPUT
    pinMode PWM_PIN12 .PWM_OUTPUT
    pinMode PWM_PIN13 .PWM_OUTPUT
    pinMode PWM_PIN19 .PWM_OUTPUT
    pinMode INPUT_PIN .INPUT
    pwmSetMode PWM_MODE_MS
    pwmSetRange 128
    pwmSetClock 32

/-- The number of samples of a window; irreducible, so that no comparison of programs samples one. -/
@[irreducible] def totalCount : ℕ := 128

/-- A window has as many samples as the range has steps. -/
theorem totalCount_eq : totalCount = 128 := by
  rw [totalCount]

/-- A count as a percentage of the samples. -/
def percentage (count : ℤ) : ℚ := count / totalCount * 100

/-- `logPWMInput` of the sweep, which returns nothing. -/
def logPWMInput : PwmProg Exit Unit := do
  let tally ← (List.range totalCount).foldlM (fun tally _ => logSample tally) ⟨0, 0⟩
  printf (.counts tally.highCount tally.lowCount)
  printf (.percentages (percentage tally.highCount) (percentage tally.lowCount))

/-- The body of the loop over the values. -/
def showValue (value : ℕ) : PwmProg Exit Unit := do
  pwmWrite PWM_PIN13 value
  printf (.inputValue value)
  logPWMInput
  sleep 1

/-- The main program. -/
def main : PwmProg Exit ℤ := do
  setup
  (List.range 128).foldlM (fun _ value => showValue value) ()
  return 0

/-- The channel of GPIO 13 and the clock: the range and the value of the channel, the tick, and how
often a value was written. -/
structure Generator where
  range : ℕ
  value : ℕ
  tick : ℕ
  writes : ℕ

/-- wiringPi with a given result of its setup, and the input pin wired to GPIO 13. After write number
`k` the channel is at tick `phase k`, and each wait after it takes `step k` ticks. -/
def generator (status : ℤ) (phase step : ℕ → ℕ) : Handler PwmCalls Generator where
  answer
    | .wiringPiSetup, g => (status, g)
    | .pinMode _ _, g => ((), g)
    | .pwmSetMode _, g => ((), g)
    | .pwmSetRange range, g => ((), { g with range := range })
    | .pwmSetClock _, g => ((), g)
    | .pwmWrite pin value, g =>
      ((), if pin = PWM_PIN13 then ⟨g.range, value.toNat, phase g.writes, g.writes + 1⟩ else g)
    | .digitalRead _, g => (wave g.range g.value g.tick, g)
    | .delayMicroseconds _, g => ((), { g with tick := g.tick + step (g.writes - 1) })
    | .sleep _, g => ((), g)
    | .printf _, g => ((), g)

/-- The lines of a run. -/
def lines {α : Type} (h : Handler PwmCalls Generator) (program : PwmProg Exit α) (g : Generator) : List PwmLine :=
  printedLines ((program.trace h g).map Step.exchange)

section Runs

variable (status : ℤ) (phase step : ℕ → ℕ)

/-- The channel after the first samples of a window. -/
def Generator.after (g : Generator) (n : ℕ) : Generator := { g with tick := g.tick + n * step (g.writes - 1) }

/-- A sample of a window is high. -/
def high (g : Generator) (i : ℕ) : Bool := decide ((g.tick + i * step (g.writes - 1)) % g.range < g.value)

/-- The high samples among the first ones of a window. -/
def highsBefore (g : Generator) (n : ℕ) : ℕ := (List.range n).countP (high step g)

/-- One sample is counted and takes its time. -/
theorem run_logSample (g : Generator) (tally : Tally) (i : ℕ) :
    (logSample tally : PwmProg Exit Tally).run (generator status phase step) (g.after step i) =
      (.ok (tally.add (if high step g i = true then HIGH else LOW)), g.after step (i + 1)) := by
  have hnext : g.tick + i * step (g.writes - 1) + step (g.writes - 1) = g.tick + (i + 1) * step (g.writes - 1) := by
    ring
  have hlevel : wave g.range g.value (g.tick + i * step (g.writes - 1)) =
      if high step g i = true then HIGH else LOW :=
    if_congr decide_eq_true_iff.symm rfl rfl
  rw [← hlevel, Generator.after, Generator.after, ← hnext]
  rfl

/-- The samples of a window are counted. -/
theorem run_samples (g : Generator) (n : ℕ) :
    ((List.range n).foldlM (fun tally _ => logSample tally) ⟨0, 0⟩ : PwmProg Exit Tally).run
        (generator status phase step) g = (.ok ⟨highsBefore step g n, n - highsBefore step g n⟩, g.after step n) := by
  have hrun := run_window (generator status phase step) (g.after step) (high step g)
    (fun tally i => run_logSample status phase step g tally i) n
  have hstart : g.after step 0 = g := by
    rw [Generator.after, Nat.zero_mul, Nat.add_zero]
  rw [hstart] at hrun
  exact hrun

/-- The channel after a value was shown. -/
def Generator.show (g : Generator) (value : ℕ) : Generator :=
  Generator.after step ⟨g.range, value, phase g.writes, g.writes + 1⟩ 128

end Runs

end Maestro.Combine.Pwm.Sweep
