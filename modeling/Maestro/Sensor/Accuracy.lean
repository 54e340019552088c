import Maestro.Sensor.Exact
import Maestro.Word.FloorDiv
import Mathlib.Algebra.Order.Floor.Ring
import Mathlib.Data.Rat.Floor
import Mathlib.Tactic.LinearCombination
import Mathlib.Tactic.NormNum.Basic

/-!
# Accuracy and monotonicity of the compensation

The six right shifts round down, two of them before a multiplication. Together they cost less than
2.1 hundredths of a degree against the formula over the rationals. Where the coefficient of first
order outweighs the one of second order, a higher reading never gives a lower temperature: over a
span of readings both terms change by a bounded number of units for each step of the coarse reading.
-/

namespace Maestro.Sensor

open Word

/-- The compensation over the rationals, in hundredths of a degree. -/
def rationalTemperature (cal : Calibration) (adc_T : ℤ) : ℚ :=
  5 / 256 * (((adc_T : ℚ) / 8 - 2 * cal.dig_T1.toNat) * cal.dig_T2.toInt / 2048 +
    ((adc_T : ℚ) / 16 - cal.dig_T1.toNat) ^ 2 * cal.dig_T3.toInt / 2 ^ 26)

section Error

variable (cal : Calibration) (adc_T : ℤ)

/-- An error of `bound` before the multiplication by a `short`. -/
theorem abs_mul_short_le {error bound : ℚ} (herror : |error| ≤ bound) (word : BitVec 16) :
    |error * word.toInt| ≤ bound * 32768 := by
  have hword : |(word.toInt : ℚ)| ≤ 32768 := by
    rw [← Int.cast_abs]
    exact_mod_cast abs_toInt_le word
  rw [abs_mul]
  exact mul_le_mul herror hword (abs_nonneg _) (le_trans (abs_nonneg _) herror)

/-- The coarse difference over the rationals. -/
theorem cast_coarse : (coarse cal adc_T : ℚ) = (adc_T / 8 : ℤ) - 2 * cal.dig_T1.toNat := by
  rw [coarse]
  push_cast
  rfl

/-- The fine difference over the rationals. -/
theorem cast_fine : (fine cal adc_T : ℚ) = (adc_T / 16 : ℤ) - cal.dig_T1.toNat := by
  rw [fine]
  push_cast
  rfl

/-- The fine difference has 16 bits and a sign. -/
theorem abs_fine_le {adc_T : ℤ} (hadc : 0 ≤ adc_T ∧ adc_T < 2 ^ 20) : |fine cal adc_T| ≤ 65535 := by
  have hunsigned := cal.dig_T1.isLt
  rw [abs_le, fine]
  omega

/-- The two roundings in the term of first order. -/
theorem linearTerm_error :
    ∃ error : ℚ, -14 ≤ error ∧ error ≤ 15 ∧
      ((adc_T : ℚ) / 8 - 2 * cal.dig_T1.toNat) * cal.dig_T2.toInt / 2048 = linearTerm cal adc_T + error := by
  obtain ⟨first, hfirst, hfirst', hreading⟩ := exists_loss adc_T (d := 8) (by decide)
  obtain ⟨last, hlast, hlast', hproduct⟩ :=
    exists_loss (coarse cal adc_T * cal.dig_T2.toInt) (d := 2048) (by decide)
  push_cast at hfirst' hlast' hreading hproduct
  have hcarried := abs_mul_short_le (abs_le.mpr ⟨by linarith, by linarith⟩ : |first| ≤ 7 / 8) cal.dig_T2
  rw [abs_le] at hcarried
  refine ⟨first * cal.dig_T2.toInt / 2048 + last, by linarith, by linarith, ?_⟩
  rw [linearTerm, hreading]
  rw [cast_coarse] at hproduct
  linarith

/-- The four roundings in the term of second order. -/
theorem squareTerm_error (hadc : 0 ≤ adc_T ∧ adc_T < 2 ^ 20) :
    ∃ error : ℚ, -62 ≤ error ∧ error ≤ 63 ∧
      ((adc_T : ℚ) / 16 - cal.dig_T1.toNat) ^ 2 * cal.dig_T3.toInt / 2 ^ 26 = squareTerm cal adc_T + error := by
  obtain ⟨first, hfirst, hfirst', hreading⟩ := exists_loss adc_T (d := 16) (by decide)
  obtain ⟨middle, hmiddle, hmiddle', hsquare⟩ :=
    exists_loss (fine cal adc_T * fine cal adc_T) (d := 4096) (by decide)
  obtain ⟨last, hlast, hlast', hproduct⟩ :=
    exists_loss (fine cal adc_T * fine cal adc_T / 4096 * cal.dig_T3.toInt) (d := 16384) (by decide)
  push_cast at hfirst' hmiddle' hlast' hreading hsquare hproduct
  have hrange : |(fine cal adc_T : ℚ)| ≤ 65535 := by
    rw [← Int.cast_abs]
    exact_mod_cast abs_fine_le cal hadc
  have hsquared : |first * (2 * fine cal adc_T + first)| ≤ 15 / 16 * 131071 := by
    rw [abs_le] at hrange
    rw [abs_mul]
    exact mul_le_mul (abs_le.mpr ⟨by linarith, by linarith⟩) (abs_le.mpr ⟨by linarith, by linarith⟩)
      (abs_nonneg _) (by norm_num)
  rw [abs_le] at hsquared
  have hcarried := abs_mul_short_le (abs_le.mpr ⟨by linarith, by linarith⟩ :
    |middle + first * (2 * fine cal adc_T + first) / 4096| ≤ 31) cal.dig_T3
  rw [abs_le] at hcarried
  refine ⟨(middle + first * (2 * fine cal adc_T + first) / 4096) * cal.dig_T3.toInt / 16384 + last,
    by linarith, by linarith, ?_⟩
  have hdifference : (adc_T : ℚ) / 16 - cal.dig_T1.toNat = fine cal adc_T + first := by
    rw [cast_fine, hreading]
    ring
  rw [hdifference, squareTerm]
  linear_combination (hsquare * cal.dig_T3.toInt + 4096 * hproduct) / 2 ^ 26

end Error

/-- For every reading and every calibration for which no product leaves the range: the compensation has
a result, and it differs from the compensation over the rationals by less than 2.1 hundredths of a
degree. -/
theorem compensation_error (cal : Calibration) (adc_T : ℤ) (hadc : 0 ≤ adc_T ∧ adc_T < 2 ^ 20)
    (hfit : ProductsFit cal adc_T) :
    ∃ temp, compensate_temperature cal adc_T = .ok temp ∧ |(temp : ℚ) - rationalTemperature cal adc_T| < 21 / 10 := by
  obtain ⟨linear, hlinear, hlinear', hfirst⟩ := linearTerm_error cal adc_T
  obtain ⟨square, hsquare, hsquare', hsecond⟩ := squareTerm_error cal adc_T hadc
  obtain ⟨last, hlast, hlast', hrounded⟩ :=
    exists_loss ((linearTerm cal adc_T + squareTerm cal adc_T) * 5 + 128) (d := 256) (by decide)
  push_cast at hlast' hrounded
  have herror : (exactTemperature cal adc_T : ℚ) - rationalTemperature cal adc_T =
      1 / 2 - last - 5 / 256 * (linear + square) := by
    rw [rationalTemperature, hfirst, hsecond, exactTemperature]
    linarith
  refine ⟨exactTemperature cal adc_T, compensate_temperature_of_fit cal hadc hfit, ?_⟩
  rw [herror, abs_lt]
  constructor <;> linarith

/-- The bound at a reading near 25 degrees. -/
theorem compensation_error_of_sample :
    ∃ temp, compensate_temperature ⟨27504#16, 26435#16, BitVec.ofInt 16 (-1000)⟩ 519888 = .ok temp ∧
      |(temp : ℚ) - rationalTemperature ⟨27504#16, 26435#16, BitVec.ofInt 16 (-1000)⟩ 519888| < 21 / 10 :=
  compensation_error ⟨27504#16, 26435#16, BitVec.ofInt 16 (-1000)⟩ 519888 (by decide) (by decide)

section Monotone

variable (cal : Calibration) {a b : ℤ}

/-- The condition on the coefficients, without quotients of rationals. -/
theorem abs_dig_T3_le (hweight : ⌈(|cal.dig_T3.toInt| : ℚ) / 512⌉ ≤ ⌊(cal.dig_T2.toInt : ℚ) / 2048⌋) :
    |cal.dig_T3.toInt| ≤ cal.dig_T2.toInt / 2048 * 512 := by
  have hfloor : ⌊(cal.dig_T2.toInt : ℚ) / 2048⌋ = cal.dig_T2.toInt / 2048 := by
    exact_mod_cast Rat.floor_intCast_div_natCast cal.dig_T2.toInt 2048
  rw [hfloor, Int.ceil_le, div_le_iff₀ (by norm_num)] at hweight
  exact_mod_cast hweight

/-- The term of first order gains the rounded coefficient for each coarse step. -/
theorem linearTerm_gain (hab : a ≤ b) :
    linearTerm cal a + cal.dig_T2.toInt / 2048 * (b / 8 - a / 8) ≤ linearTerm cal b := by
  have hspan : 0 ≤ b / 8 - a / 8 := Int.sub_nonneg_of_le (Int.ediv_le_ediv (by decide) hab)
  have hcoefficient : cal.dig_T2.toInt / 2048 * 2048 ≤ cal.dig_T2.toInt := Int.ediv_mul_le _ (by decide)
  have hgain := mul_le_mul_of_nonneg_left hcoefficient hspan
  apply add_le_ediv (by decide)
  rw [coarse, coarse]
  linarith

/-- The rounded square changes by at most 32 for each coarse step. -/
theorem square_change (ha : 0 ≤ a) (hab : a ≤ b) (hb : b < 2 ^ 20) :
    |fine cal b * fine cal b / 4096 - fine cal a * fine cal a / 4096| ≤ 32 * (b / 8 - a / 8) := by
  apply abs_ediv_sub_ediv_le (by decide)
  have hspan : |fine cal b - fine cal a| ≤ b / 8 - a / 8 := by
    rw [abs_le, fine, fine]
    omega
  have hsum : |fine cal b + fine cal a| ≤ 32 * 4096 := by
    have hfirst := abs_fine_le cal ⟨ha, lt_of_le_of_lt hab hb⟩
    have hsecond := abs_fine_le cal ⟨le_trans ha hab, hb⟩
    exact le_trans (abs_add_le _ _) (le_trans (add_le_add hsecond hfirst) (by decide))
  calc |fine cal b * fine cal b - fine cal a * fine cal a|
      = |fine cal b - fine cal a| * |fine cal b + fine cal a| := by
        rw [← abs_mul]
        ring_nf
    _ ≤ (b / 8 - a / 8) * (32 * 4096) :=
        mul_le_mul hspan hsum (abs_nonneg _) (le_trans (abs_nonneg _) hspan)
    _ = 32 * (b / 8 - a / 8) * 4096 := by ring

/-- The term of second order loses at most the rounded coefficient of first order for each coarse
step. -/
theorem squareTerm_loss (ha : 0 ≤ a) (hab : a ≤ b) (hb : b < 2 ^ 20)
    (hweight : |cal.dig_T3.toInt| ≤ cal.dig_T2.toInt / 2048 * 512) :
    squareTerm cal a + -(cal.dig_T2.toInt / 2048 * (b / 8 - a / 8)) ≤ squareTerm cal b := by
  have hchange := square_change cal ha hab hb
  have hproduct : |(fine cal b * fine cal b / 4096 - fine cal a * fine cal a / 4096) * cal.dig_T3.toInt| ≤
      32 * (b / 8 - a / 8) * (cal.dig_T2.toInt / 2048 * 512) := by
    rw [abs_mul]
    exact mul_le_mul hchange hweight (abs_nonneg _) (le_trans (abs_nonneg _) hchange)
  rw [abs_le] at hproduct
  apply add_le_ediv (by decide)
  linarith

/-- The exact compensation is monotone when the coefficient of first order outweighs the other. -/
theorem exactTemperature_le (ha : 0 ≤ a) (hab : a ≤ b) (hb : b < 2 ^ 20)
    (hweight : |cal.dig_T3.toInt| ≤ cal.dig_T2.toInt / 2048 * 512) :
    exactTemperature cal a ≤ exactTemperature cal b := by
  have hgain := linearTerm_gain cal hab
  have hloss := squareTerm_loss cal ha hab hb hweight
  rw [exactTemperature, exactTemperature]
  apply Int.ediv_le_ediv (by decide)
  linarith

end Monotone

/-- For every calibration with `⌈|dig_T3| / 512⌉ ≤ ⌊dig_T2 / 2048⌋` (so that `dig_T2` is not negative)
and all readings for which no product leaves the range: the compensation has a result for both, and a
higher reading never gives a lower temperature. -/
theorem compensation_monotone (cal : Calibration)
    (hweight : ⌈(|cal.dig_T3.toInt| : ℚ) / 512⌉ ≤ ⌊(cal.dig_T2.toInt : ℚ) / 2048⌋) (a b : ℤ)
    (ha : 0 ≤ a) (hab : a ≤ b) (hb : b < 2 ^ 20) (hfitA : ProductsFit cal a) (hfitB : ProductsFit cal b) :
    ∃ tempA tempB, compensate_temperature cal a = .ok tempA ∧ compensate_temperature cal b = .ok tempB ∧
      tempA ≤ tempB :=
  ⟨exactTemperature cal a, exactTemperature cal b, compensate_temperature_of_fit cal ⟨ha, by omega⟩ hfitA,
    compensate_temperature_of_fit cal ⟨by omega, hb⟩ hfitB,
    exactTemperature_le cal ha hab hb (abs_dig_T3_le cal hweight)⟩

/-- Two readings of one sensor. -/
theorem compensation_monotone_of_samples :
    ∃ tempA tempB,
      compensate_temperature ⟨27504#16, 26435#16, BitVec.ofInt 16 (-1000)⟩ 519888 = .ok tempA ∧
        compensate_temperature ⟨27504#16, 26435#16, BitVec.ofInt 16 (-1000)⟩ 1048575 = .ok tempB ∧
        tempA ≤ tempB := by
  have hweight : ⌈(|(BitVec.ofInt 16 (-1000)).toInt| : ℚ) / 512⌉ ≤ ⌊((26435#16).toInt : ℚ) / 2048⌋ := by
    have hsecond : (26435#16).toInt = 26435 := by decide
    have hthird : (BitVec.ofInt 16 (-1000)).toInt = -1000 := by decide
    rw [hsecond, hthird]
    norm_num
  exact compensation_monotone ⟨27504#16, 26435#16, BitVec.ofInt 16 (-1000)⟩ hweight 519888 1048575
    (by decide) (by decide) (by decide) (by decide) (by decide)

end Maestro.Sensor
