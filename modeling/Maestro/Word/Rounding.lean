import Mathlib.Algebra.Order.Floor.Semiring
import Mathlib.Algebra.Order.Ring.Rat
import Mathlib.Data.Int.Log
import Mathlib.Data.Rat.Floor
import Mathlib.Tactic.Linarith
import Mathlib.Tactic.FieldSimp

/-!
# Rounding to the nearest

A number is rounded to the nearest multiple of a step, and of two nearest ones to the even one. The
step of a binary floating-point number is a power of two that follows the size of the number, so
that the number has a given count of binary digits; the range of exponents is not bounded here.
Rounding decimally gives back a decimal number that binary rounding has moved by less than half a
decimal step.
-/

namespace Word

/-- The nearest integer, and of two the even one. -/
def nearest (x : ℚ) : ℤ :=
  if x - ⌊x⌋ < 1 / 2 then ⌊x⌋
  else if 1 / 2 < x - ⌊x⌋ then ⌊x⌋ + 1
  else if ⌊x⌋ % 2 = 0 then ⌊x⌋
  else ⌊x⌋ + 1

/-- The nearest multiple of a step. -/
def roundTo (step x : ℚ) : ℚ := nearest (x / step) * step

/-- The step between the numbers with `p` binary digits that are as large as `x`. -/
def ulp (p : ℕ) (x : ℚ) : ℚ := 2 ^ (Int.log 2 |x| + 1 - p)

/-- The nearest number with `p` binary digits. -/
def toFloat (p : ℕ) (x : ℚ) : ℚ := roundTo (ulp p x) x

section Nearest

variable (x : ℚ)

/-- The nearest integer is at most a half away. -/
theorem abs_nearest_sub_le : |(nearest x : ℚ) - x| ≤ 1 / 2 := by
  have hlow : (⌊x⌋ : ℚ) ≤ x := Int.floor_le x
  have hhigh : x < ⌊x⌋ + 1 := Int.lt_floor_add_one x
  rw [nearest, abs_le]
  split_ifs with hbelow habove
  · constructor <;> linarith
  · push_cast
    constructor <;> linarith
  · constructor <;> linarith
  · push_cast
    constructor <;> linarith

/-- An integer that is less than a half away is the nearest one. -/
theorem nearest_eq_of_abs_sub_lt {n : ℤ} (hnear : |x - n| < 1 / 2) : nearest x = n := by
  have hclose := abs_le.mp (abs_nearest_sub_le x)
  have hnear := abs_lt.mp hnear
  have hup : ((nearest x : ℚ)) < n + 1 := by linarith
  have hdown : (n : ℚ) < nearest x + 1 := by linarith
  have hup' : nearest x < n + 1 := by exact_mod_cast hup
  have hdown' : n < nearest x + 1 := by exact_mod_cast hdown
  omega

/-- A number that is less than half a part away from a count of parts rounds to this count. -/
theorem nearest_mul_eq {scale : ℚ} (hscale : 0 < scale) {n : ℤ} (hnear : |x - n / scale| < 1 / (2 * scale)) :
    nearest (x * scale) = n := by
  have hdiff : x * scale - n = (x - n / scale) * scale := by
    rw [sub_mul, div_mul_cancel₀ _ hscale.ne']
  apply nearest_eq_of_abs_sub_lt
  rw [hdiff, abs_mul, abs_of_pos hscale]
  calc |x - n / scale| * scale < 1 / (2 * scale) * scale := mul_lt_mul_of_pos_right hnear hscale
    _ = 1 / 2 := by field_simp

/-- The nearest multiple of a step is at most half a step away. -/
theorem abs_roundTo_sub_le {step : ℚ} (hstep : 0 < step) : |roundTo step x - x| ≤ step / 2 := by
  have hdiff : roundTo step x - x = (nearest (x / step) - x / step) * step := by
    rw [roundTo, sub_mul, div_mul_cancel₀ x hstep.ne']
  rw [hdiff, abs_mul, abs_of_pos hstep]
  calc |(nearest (x / step) : ℚ) - x / step| * step ≤ 1 / 2 * step :=
        mul_le_mul_of_nonneg_right (abs_nearest_sub_le _) hstep.le
    _ = step / 2 := by ring

end Nearest

section Float

variable (p : ℕ) (x : ℚ)

/-- Zero is a number with any count of digits. -/
theorem toFloat_zero : toFloat p 0 = 0 := by
  have hzero : nearest 0 = 0 := nearest_eq_of_abs_sub_lt 0 (by norm_num)
  rw [toFloat, roundTo, zero_div, hzero]
  norm_num

/-- A number below `2 ^ k` is moved by at most half the largest step below `2 ^ k`. -/
theorem abs_toFloat_sub_le {k : ℤ} (hx : |x| < 2 ^ k) : |toFloat p x - x| ≤ 2 ^ (k - p) / 2 := by
  by_cases hzero : x = 0
  · rw [hzero, toFloat_zero, sub_zero, abs_zero]
    exact div_nonneg (zpow_nonneg (by norm_num) _) (by norm_num)
  · have hpos : 0 < |x| := abs_pos.mpr hzero
    have hlog : Int.log 2 |x| + 1 ≤ k := (Int.lt_zpow_iff_log_lt (by decide) hpos).mp hx
    have hstep : ulp p x ≤ 2 ^ (k - p) := zpow_le_zpow_right₀ (by norm_num) (by omega)
    have hulp : 0 < ulp p x := zpow_pos (by norm_num) _
    exact (abs_roundTo_sub_le x hulp).trans (by linarith)

end Float

end Word
