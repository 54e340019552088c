import Maestro.Cpu.CpuTest
import Maestro.Effect.Total
import Mathlib.Tactic.FieldSimp

/-!
# The figures of the CPU test program

The two timed checks keep the times of day in a `clock_t`, which drops the fractions of a second,
and then divide the difference by the number of clock ticks in a second. `IPSsample.c` does the
same with the values of `clock`, which are ticks. The main result says for which instants the first
check shows what the sample shows, and that the second check never shows its figure.
-/

namespace Maestro.Cpu

open Effect Text

namespace IPSsample

/-- What the sample prints. -/
inductive SampleLine where
  | timeUsed (seconds : ℚ)
  | perSecond (result : Number)
deriving DecidableEq

/-- The printed text. -/
def SampleLine.text : SampleLine → String
  | timeUsed seconds => "Time used: " ++ (Number.finite seconds).fixed 6 ++ " seconds\n"
  | perSecond result => "Instructions Per Second: " ++ result.text ++ " GIPS\n"

/-- The calls of the sample. -/
inductive SampleCall where
  | clock
  | printf (line : SampleLine)

/-- `clock` is answered with a number of ticks. -/
abbrev SampleCalls : Interface where
  Call := SampleCall
  Reply
    | .clock => ℤ
    | .printf _ => Unit

abbrev SampleProg (α : Type) := Prog SampleCalls Empty α

def clock : SampleProg ℤ := Prog.perform (I := SampleCalls) .clock
def printf (line : SampleLine) : SampleProg Unit := Prog.perform (I := SampleCalls) (.printf line)

/-- The sample; the loop between the two times is empty. -/
def main : SampleProg ℤ := do
  let start ← clock
  let finish ← clock
  let cpu_time_used := (finish - start : ℤ) / CLOCKS_PER_SEC
  printf (.timeUsed cpu_time_used)
  printf (.perSecond ((Number.quotient instructions cpu_time_used).over (1000 * 1000 * 1000)))
  return 0

/-- A clock with two readings. -/
def readings (first second : ℤ) : Handler SampleCalls (ℕ × List SampleLine) where
  answer
    | .clock, (reads, printed) => (if reads = 0 then first else second, (reads + 1, printed))
    | .printf line, (reads, printed) => ((), (reads, printed ++ [line]))

/-- The sample when `clock` has these values, one after the other: what it prints. -/
def printedBy (first second : ℤ) : List SampleLine :=
  (main.eval (readings first second) (0, [])).2.2

end IPSsample

/-- An instant in microseconds. -/
def Timeval.micros (tp : Timeval) : ℤ := tp.tv_sec * 1000000 + tp.tv_usec.val

/-- An instant in seconds. -/
def Timeval.instant (tp : Timeval) : ℚ := tp.micros / 1000000

/-- Two instants, one later than the other. -/
structure Timing where
  start : Timeval
  finish : Timeval
  later : start.micros < finish.micros

/-- The time between the instants, in seconds. -/
def Timing.elapsed (timing : Timing) : ℚ := timing.finish.instant - timing.start.instant

/-- A host that shows the instants, one after the other. -/
def Timing.host (timing : Timing) : Host where
  output _ := none
  time
    | 0 => timing.start
    | _ + 1 => timing.finish

/-- The time that the checks compute. -/
def Timing.cpu_time (timing : Timing) : ℚ :=
  cpuTime (timing.start.tv_sec + timing.start.tv_usec.val * (1 / 1000000))
    (timing.finish.tv_sec + timing.finish.tv_usec.val * (1 / 1000000))

/-- What a check prints. -/
def Timing.printedBy (timing : Timing) (check : CpuProg Empty Unit) : List CpuLine :=
  (check.run timing.host.handler opening).2.printed

/-- The first check computes the elapsed time, which is no divisor of zero, and shows the rate of
instructions, as the sample does when its clock advances by the same time. -/
structure IpsRight (timing : Timing) : Prop where
  time : timing.cpu_time = timing.elapsed
  divisor : timing.cpu_time ≠ 0
  figure : timing.printedBy cpuIPSCheck = [.ips (.finite (instructions / timing.elapsed / 10 ^ 9))]
  sample : ∀ first second : ℤ, (second - first : ℤ) / CLOCKS_PER_SEC = timing.elapsed →
    IPSsample.printedBy first second =
      [.timeUsed timing.elapsed, .perSecond (.finite (instructions / timing.elapsed / 10 ^ 9))]

/-- The second check shows the rate of its loop in millions. -/
def FpRight (timing : Timing) : Prop :=
  timing.printedBy cpuFPCheck = [.flops (.finite (num / timing.elapsed / 10 ^ 6))]

/-- The instants are one microsecond apart, and the one farther from the epoch is a whole second. -/
def CrossesSecond (timing : Timing) : Prop :=
  timing.finish.micros = timing.start.micros + 1 ∧
    1000000 ∣ max |timing.start.micros| |timing.finish.micros|

/-- A quotient of a number that is not positive is cut off towards zero. -/
theorem tdiv_of_nonpos {k : ℤ} (hk : k ≤ 0) : k.tdiv 1000000 = -(-k / 1000000) := by
  rw [← Int.tdiv_eq_ediv_of_nonneg (by omega), Int.neg_tdiv, neg_neg]

/-- The conversion to a `clock_t` cuts the microseconds off. -/
theorem toClock_timeCheck (tp : Timeval) :
    toClock (tp.tv_sec + tp.tv_usec.val * (1 / 1000000)) = tp.micros.tdiv 1000000 := by
  have hvalue : (tp.tv_sec + tp.tv_usec.val * (1 / 1000000) : ℚ) = (tp.micros : ℚ) / (1000000 : ℕ) := by
    rw [Timeval.micros]
    push_cast
    ring
  rw [hvalue, toClock]
  by_cases hnonneg : 0 ≤ tp.micros
  · have hquotient : (0 : ℚ) ≤ tp.micros / (1000000 : ℕ) := by positivity
    rw [if_pos hquotient, Rat.floor_intCast_div_natCast, Int.tdiv_eq_ediv_of_nonneg hnonneg]
    rfl
  · have hneg : tp.micros < 0 := by omega
    have hquotient : ¬(0 : ℚ) ≤ tp.micros / (1000000 : ℕ) := by
      rw [not_le]
      exact div_neg_of_neg_of_pos (Int.cast_lt_zero.mpr hneg) (by norm_num)
    rw [if_neg hquotient, Rat.ceil_intCast_div_natCast, tdiv_of_nonpos hneg.le]
    rfl

/-- The cut seconds advance by the elapsed microseconds only in one case. -/
theorem tdiv_sub_tdiv_eq_iff {s e : ℤ} (h : s < e) :
    e.tdiv 1000000 - s.tdiv 1000000 = e - s ↔ e = s + 1 ∧ 1000000 ∣ max |s| |e| := by
  rcases le_or_gt 0 s with hs | hs
  · have he : 0 ≤ e := by omega
    rw [Int.tdiv_eq_ediv_of_nonneg he, Int.tdiv_eq_ediv_of_nonneg hs, abs_of_nonneg hs, abs_of_nonneg he,
      max_eq_right h.le]
    omega
  · rcases le_or_gt e 0 with he | he
    · rw [abs_of_neg hs, abs_of_nonpos he, max_eq_left (by omega), tdiv_of_nonpos hs.le, tdiv_of_nonpos he]
      omega
    · rw [Int.tdiv_eq_ediv_of_nonneg he.le, tdiv_of_nonpos hs.le]
      omega

/-- The cut seconds advance by less than a thousand times the elapsed microseconds. -/
theorem tdiv_sub_tdiv_lt {s e : ℤ} (h : s < e) : e.tdiv 1000000 - s.tdiv 1000000 < 1000 * (e - s) := by
  rcases le_or_gt 0 s with hs | hs
  · have he : 0 ≤ e := by omega
    rw [Int.tdiv_eq_ediv_of_nonneg he, Int.tdiv_eq_ediv_of_nonneg hs]
    omega
  · rcases le_or_gt e 0 with he | he
    · rw [tdiv_of_nonpos hs.le, tdiv_of_nonpos he]
      omega
    · rw [Int.tdiv_eq_ediv_of_nonneg he.le, tdiv_of_nonpos hs.le]
      omega

section Figures

variable (timing : Timing)

/-- The computed time is that of the cut seconds, in microseconds. -/
theorem cpu_time_eq :
    timing.cpu_time =
      ((timing.finish.micros.tdiv 1000000 - timing.start.micros.tdiv 1000000 : ℤ) : ℚ) / 1000000 := by
  rw [Timing.cpu_time, cpuTime, toClock_timeCheck, toClock_timeCheck]
  rfl

/-- The elapsed time is that of the instants. -/
theorem elapsed_eq :
    timing.elapsed = ((timing.finish.micros - timing.start.micros : ℤ) : ℚ) / 1000000 := by
  rw [Timing.elapsed, Timeval.instant, Timeval.instant, ← sub_div]
  push_cast
  rfl

/-- Time passes between the two readings. -/
theorem elapsed_pos : 0 < timing.elapsed := by
  rw [elapsed_eq]
  have hlater := timing.later
  exact div_pos (Int.cast_pos.mpr (by omega)) (by norm_num)

/-- The computed time is the elapsed time only in the case named. -/
theorem cpu_time_eq_elapsed_iff : timing.cpu_time = timing.elapsed ↔ CrossesSecond timing := by
  rw [cpu_time_eq, elapsed_eq, div_left_inj' (by norm_num), Int.cast_inj, tdiv_sub_tdiv_eq_iff timing.later]
  rfl

/-- The computed time is less than a thousand times the elapsed time. -/
theorem cpu_time_lt : timing.cpu_time < 1000 * timing.elapsed := by
  rw [cpu_time_eq, elapsed_eq, ← mul_div_assoc]
  refine div_lt_div_of_pos_right ?_ (by norm_num)
  exact_mod_cast tdiv_sub_tdiv_lt timing.later

/-- The first check prints its figure. -/
theorem printedBy_cpuIPSCheck : timing.printedBy cpuIPSCheck = [.ips (ipsResult timing.cpu_time)] := rfl

/-- So does the second one. -/
theorem printedBy_cpuFPCheck : timing.printedBy cpuFPCheck = [.flops (flopsResult timing.cpu_time)] := rfl

/-- A quotient by another number than 0 is finite. -/
theorem quotient_of_ne {a b : ℚ} (hb : b ≠ 0) : Number.quotient a b = .finite (a / b) := if_pos hb

/-- What the sample prints. -/
theorem printedBy_sample (first second : ℤ) :
    IPSsample.printedBy first second =
      [.timeUsed ((second - first : ℤ) / CLOCKS_PER_SEC),
        .perSecond ((Number.quotient instructions ((second - first : ℤ) / CLOCKS_PER_SEC)).over
          (1000 * 1000 * 1000))] := rfl

/-- The first check is right exactly in the case named. -/
theorem ipsRight_iff : IpsRight timing ↔ CrossesSecond timing := by
  rw [← cpu_time_eq_elapsed_iff]
  constructor
  · intro hright
    exact hright.time
  · intro htime
    have hdivisor : timing.elapsed ≠ 0 := (elapsed_pos timing).ne'
    refine ⟨htime, ?_, ?_, fun first second hticks => ?_⟩
    · rw [htime]
      exact hdivisor
    · rw [printedBy_cpuIPSCheck, htime, ipsResult, quotient_of_ne hdivisor, Number.over]
      norm_num
    · rw [printedBy_sample, hticks, quotient_of_ne hdivisor, Number.over]
      norm_num

/-- The second check is wrong by a factor of at least a thousand, or by a division by zero. -/
theorem not_fpRight : ¬FpRight timing := by
  intro hright
  have helapsed := elapsed_pos timing
  rw [FpRight, printedBy_cpuFPCheck, List.singleton_inj, CpuLine.flops.injEq, flopsResult] at hright
  by_cases hzero : timing.cpu_time = 0
  · rw [hzero] at hright
    cases hright
  · rw [quotient_of_ne hzero, Number.over, Number.finite.injEq] at hright
    have hlt := cpu_time_lt timing
    have hequal : timing.cpu_time = 1000 * timing.elapsed := by
      rw [num] at hright
      field_simp at hright
      linarith
    exact hlt.ne hequal

/-- For every two instants: the first check shows the right figure if and only if the instants are
one microsecond apart and the one farther from the epoch is a whole second; the second check never
shows the right figure. -/
theorem figures_right_iff : (IpsRight timing ↔ CrossesSecond timing) ∧ ¬FpRight timing :=
  ⟨ipsRight_iff timing, not_fpRight timing⟩

end Figures

/-- Two seconds. -/
def twoSeconds : Timing where
  start := epoch
  finish := { epoch with tv_sec := 2 }
  later := by decide

/-- After two seconds the first check does not show its figure. -/
theorem figures_wrong : ¬∀ timing : Timing, IpsRight timing ∧ FpRight timing := by
  intro hall
  have htime := (hall twoSeconds).1.time
  rw [cpu_time_eq_elapsed_iff] at htime
  revert htime
  unfold CrossesSecond
  decide

end Maestro.Cpu
