import Maestro.Combine.Pins
import Maestro.Effect.Loop
import Mathlib.Algebra.Order.Field.Rat
import Mathlib.Tactic.Linarith
import Mathlib.Tactic.Ring

/-!
# The PWM test of `CombineCode`

`PWMTest` starts the PWM channels on GPIO 12, 13, 18 and 19 one after the other, samples the
one input pin 1024 times after each start, and asks for a share of high samples between 49
and 51 percent. A channel that was started keeps running. A failed setup ends the program.

The percentages are exact: the counts are small enough for the `float` arithmetic.
-/

namespace Maestro.Combine.Pwm

open Effect

/-- The modes that the pins are put in. -/
inductive PinMode where
  | INPUT
  | PWM_OUTPUT
deriving DecidableEq

def PWM_PIN18 : ℕ := 1
def INPUT_PIN : ℕ := 7
def PWM_PIN12 : ℕ := 26
def PWM_PIN13 : ℕ := 23
def PWM_PIN19 : ℕ := 24

/-- The mark-space mode of wiringPi. -/
def PWM_MODE_MS : ℤ := 0

/-- What the PWM test prints. -/
inductive PwmLine where
  | setupFailed
  | title (gpio : ℕ)
  | inputValue (value : ℤ)
  | counts (high low : ℤ)
  | percentages (high low : ℚ)
  | success
  | failed
deriving DecidableEq

/-- A percentage with two decimals, a tie going to the even digit. -/
def twoDecimals (value : ℚ) : String :=
  let hundredths := (value * 100).floor
  let rest := value * 100 - hundredths
  let rounded := if rest < 1 / 2 ∨ rest = 1 / 2 ∧ hundredths % 2 = 0 then hundredths else hundredths + 1
  toString (rounded / 100) ++ "." ++ toString (rounded / 10 % 10) ++ toString (rounded % 10)

/-- The printed text. -/
def PwmLine.text : PwmLine → String
  | setupFailed => "wiringPi 초기화 실패\n"
  | title gpio => "GPIO" ++ toString gpio ++ " PWM Test\n"
  | inputValue value => "input value : " ++ toString value ++ "\n"
  | counts high low => "HIGH Count: " ++ toString high ++ ", LOW Count: " ++ toString low ++ "\n"
  | percentages high low =>
    "HIGH Percentage: " ++ twoDecimals high ++ "%, LOW Percentage: " ++ twoDecimals low ++ "%\n"
  | success => "\x1b[32mPWM Success\x1b[0m\n"
  | failed => "\x1b[31mPWM Failed\x1b[0m\n"

/-- The calls of the PWM test. -/
inductive PwmCall where
  | wiringPiSetup
  | pinMode (pin : ℕ) (mode : PinMode)
  | pwmSetMode (mode : ℤ)
  | pwmSetRange (range : ℕ)
  | pwmSetClock (divisor : ℤ)
  | pwmWrite (pin : ℕ) (value : ℤ)
  | digitalRead (pin : ℕ)
  | delayMicroseconds (microseconds : ℕ)
  | sleep (seconds : ℕ)
  | printf (line : PwmLine)

/-- The setup and the reads are answered with an `int`. -/
abbrev PwmCalls : Interface where
  Call := PwmCall
  Reply
    | .wiringPiSetup => ℤ
    | .digitalRead _ => ℤ
    | _ => Unit

abbrev PwmProg (ε α : Type) := Prog PwmCalls ε α

section Calls

variable {ε : Type}

def wiringPiSetup : PwmProg ε ℤ := Prog.perform (I := PwmCalls) .wiringPiSetup

def pinMode (pin : ℕ) (mode : PinMode) : PwmProg ε Unit := Prog.perform (I := PwmCalls) (.pinMode pin mode)

def pwmSetMode (mode : ℤ) : PwmProg ε Unit := Prog.perform (I := PwmCalls) (.pwmSetMode mode)

def pwmSetRange (range : ℕ) : PwmProg ε Unit := Prog.perform (I := PwmCalls) (.pwmSetRange range)

def pwmSetClock (divisor : ℤ) : PwmProg ε Unit := Prog.perform (I := PwmCalls) (.pwmSetClock divisor)

def pwmWrite (pin : ℕ) (value : ℤ) : PwmProg ε Unit := Prog.perform (I := PwmCalls) (.pwmWrite pin value)

def digitalRead (pin : ℕ) : PwmProg ε ℤ := Prog.perform (I := PwmCalls) (.digitalRead pin)

def delayMicroseconds (microseconds : ℕ) : PwmProg ε Unit :=
  Prog.perform (I := PwmCalls) (.delayMicroseconds microseconds)

def sleep (seconds : ℕ) : PwmProg ε Unit := Prog.perform (I := PwmCalls) (.sleep seconds)

def printf (line : PwmLine) : PwmProg ε Unit := Prog.perform (I := PwmCalls) (.printf line)

end Calls

/-- `setup`; it ends the program when wiringPi cannot be set up. -/
def setup : PwmProg Exit Unit := do
  let result ← wiringPiSetup
  if result = -1 then do
    printf .setupFailed
    Prog.exit 1
  else do
    pinMode PWM_PIN18 .PWM_OUTPUT
    pinMode PWM_PIN12 .PWM_OUTPUT
    pinMode PWM_PIN13 .PWM_OUTPUT
    pinMode PWM_PIN19 .PWM_OUTPUT
    pinMode INPUT_PIN .INPUT
    pwmSetMode PWM_MODE_MS
    pwmSetRange 1024
    pwmSetClock 32

/-- The number of samples in a window; irreducible, so that no comparison of programs samples a
window. -/
@[irreducible] def totalCount : ℕ := 1024

/-- The samples counted so far. -/
structure Tally where
  highCount : ℤ
  lowCount : ℤ

/-- Count one sample. -/
def Tally.add (tally : Tally) (value : ℤ) : Tally :=
  if value = HIGH then { tally with highCount := tally.highCount + 1 }
  else { tally with lowCount := tally.lowCount + 1 }

/-- A count as a percentage of the samples. -/
def percentage (count : ℤ) : ℚ := count / totalCount * 100

section Program

variable {ε : Type}

/-- The loop body of `logPWMInput`. -/
def logSample (tally : Tally) : PwmProg ε Tally := do
  let value ← digitalRead INPUT_PIN
  delayMicroseconds 100
  return tally.add value

/-- `logPWMInput`: the percentage of high samples. -/
def logPWMInput : PwmProg ε ℚ := do
  let tally ← (List.range totalCount).foldlM (fun tally _ => logSample tally) ⟨0, 0⟩
  printf (.counts tally.highCount tally.lowCount)
  printf (.percentages (percentage tally.highCount) (percentage tally.lowCount))
  return percentage tally.highCount

/-- The verdict on one channel. -/
def judge (n : ℚ) (check : ℤ) : PwmProg ε ℤ :=
  if 49 ≤ n ∧ n ≤ 51 then do
    printf .success
    return check
  else do
    printf .failed
    return 1

/-- The test of one channel, the same for all four but for the title and the pin. -/
def testChannel (gpio pin : ℕ) (check : ℤ) : PwmProg ε ℤ := do
  printf (.title gpio)
  pwmWrite pin 512
  printf (.inputValue 512)
  let n ← logPWMInput
  let check ← judge n check
  sleep 1
  return check

end Program

/-- The test of the four channels. -/
def PWMTest : PwmProg Exit ℤ := do
  setup
  let check ← testChannel 12 PWM_PIN12 0
  let check ← testChannel 13 PWM_PIN13 check
  let check ← testChannel 18 PWM_PIN18 check
  let check ← testChannel 19 PWM_PIN19 check
  if check = 1 then return 0 else return 1

/-- A channel: its GPIO number and its wiringPi pin. -/
structure Channel where
  gpio : ℕ
  pin : ℕ
deriving DecidableEq

/-- The channels in the order of their tests. -/
def channels : List Channel := [⟨12, PWM_PIN12⟩, ⟨13, PWM_PIN13⟩, ⟨18, PWM_PIN18⟩, ⟨19, PWM_PIN19⟩]

/-- The test of one of the channels. -/
def testEach {ε : Type} (check : ℤ) (channel : Channel) : PwmProg ε ℤ :=
  testChannel channel.gpio channel.pin check

/-- The four tests are a loop over the channels. -/
theorem PWMTest_eq :
    PWMTest = (do
      setup
      let check ← channels.foldlM testEach 0
      if check = 1 then return 0 else return 1) := by
  unfold PWMTest channels testEach
  simp only [List.foldlM_cons, List.foldlM_nil, bind_assoc, Prog.pure_eq, Prog.ret_bind]

/-- The numbers of high samples that pass. -/
def InTolerance (count : ℕ) : Prop := 502 ≤ count ∧ count ≤ 522

instance : DecidablePred InTolerance := fun count => inferInstanceAs (Decidable (502 ≤ count ∧ count ≤ 522))

/-- A percentage passes for 502 to 522 high samples out of 1024. -/
theorem percentage_mem_iff (count : ℕ) :
    49 ≤ percentage count ∧ percentage count ≤ 51 ↔ InTolerance count := by
  have hpercentage : percentage count = count * (25 / 256) := by
    unfold percentage totalCount
    push_cast
    ring
  have hlow : (49 : ℚ) ≤ percentage count ↔ (12544 : ℚ) ≤ ((25 * count : ℕ) : ℚ) := by
    rw [hpercentage, Nat.cast_mul, Nat.cast_ofNat]
    constructor <;> intro h <;> linarith
  have hhigh : percentage count ≤ (51 : ℚ) ↔ ((25 * count : ℕ) : ℚ) ≤ (13056 : ℚ) := by
    rw [hpercentage, Nat.cast_mul, Nat.cast_ofNat]
    constructor <;> intro h <;> linarith
  rw [hlow, hhigh, InTolerance]
  norm_cast
  omega

section Windows

variable {σ ε : Type} (h : Handler PwmCalls σ)

/-- On an environment in which each sample reads high or low as a predicate says, the samples of a
window are counted. -/
theorem run_window (now : ℕ → σ) (high : ℕ → Bool)
    (hsample : ∀ (tally : Tally) (i : ℕ), (logSample tally : PwmProg ε Tally).run h (now i) =
      (.ok (tally.add (if high i = true then HIGH else LOW)), now (i + 1))) (n : ℕ) :
    ((List.range n).foldlM (fun tally _ => logSample tally) ⟨0, 0⟩ : PwmProg ε Tally).run h (now 0) =
      (.ok ⟨(List.range n).countP high, n - (List.range n).countP high⟩, now n) := by
  refine Prog.run_foldlM_range h (fun tally _ => logSample tally) n
    (fun k => ⟨(List.range k).countP high, k - (List.range k).countP high⟩) now fun k _ => ?_
  rw [hsample, List.range_succ, List.countP_append, List.countP_singleton, Tally.add]
  by_cases hhigh : high k = true
  · rw [if_pos hhigh, if_pos rfl, if_pos hhigh]
    push_cast
    rw [add_sub_add_right_eq_sub]
  · rw [if_neg hhigh, if_neg (by decide), if_neg hhigh]
    push_cast
    rw [add_zero, add_sub_right_comm]

/-- The verdict on one channel clears nothing but remembers a failure. -/
theorem run_judge (hprint : ∀ line s, (h.answer (.printf line) s).2 = s) (count : ℕ) (check : ℤ) (s : σ) :
    (judge (percentage count) check : PwmProg ε ℤ).run h s =
      (.ok (if InTolerance count then check else 1), s) := by
  have hiff := percentage_mem_iff count
  by_cases hpass : InTolerance count
  · rw [judge, if_pos (hiff.mpr hpass), if_pos hpass]
    exact congrArg (Prod.mk _) (hprint .success s)
  · rw [judge, if_neg fun hin => hpass (hiff.mp hin), if_neg hpass]
    exact congrArg (Prod.mk _) (hprint .failed s)

/-- What the test of a channel does once it is started. -/
theorem testChannel_eq (gpio pin : ℕ) (check : ℤ) :
    (testChannel gpio pin check : PwmProg ε ℤ) =
      .call (.printf (.title gpio)) fun _ => .call (.pwmWrite pin 512) fun _ =>
        .call (.printf (.inputValue 512)) fun _ => logPWMInput >>= fun n => judge n check >>= fun check =>
          sleep 1 >>= fun _ => .ret check := rfl

end Windows

end Maestro.Combine.Pwm
