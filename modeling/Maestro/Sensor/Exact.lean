import Maestro.Sensor.Compensate
import Mathlib.Algebra.Order.Ring.Abs
import Mathlib.Algebra.Order.Ring.Int

/-!
# When the compensation overflows

The same formula over unbounded integers, with quotients that round down for the right shifts.
Over all calibrations that the registers can deliver, only three intermediate values can leave
the range of an `int32_t`: the product with `dig_T2`, the square and the product with `dig_T3`.
While these fit, all others do, and the compensation is the exact one.
-/

namespace Maestro.Sensor

/-- The calibration put together from the replies of `wiringPiI2CReadReg16`, of which an `unsigned
short` and the `short`s keep the low half; a failed read is not looked at. -/
def read_calibration_data (wiringPiI2CReadReg16 : BitVec 8 → BitVec 32) : Calibration where
  dig_T1 := (wiringPiI2CReadReg16 0x88#8).setWidth 16
  dig_T2 := (wiringPiI2CReadReg16 0x8A#8).setWidth 16
  dig_T3 := (wiringPiI2CReadReg16 0x8C#8).setWidth 16

/-- The registers can deliver every calibration. -/
theorem read_calibration_data_surjective : Function.Surjective read_calibration_data := by
  intro cal
  refine ⟨fun reg => if reg = 0x88#8 then cal.dig_T1.setWidth 32 else
    if reg = 0x8A#8 then cal.dig_T2.setWidth 32 else cal.dig_T3.setWidth 32, ?_⟩
  have hback (word : BitVec 16) : (word.setWidth 32).setWidth 16 = word := by
    rw [BitVec.setWidth_setWidth_of_le word (by decide), BitVec.setWidth_eq]
  rw [read_calibration_data, if_pos rfl, if_neg (by decide), if_pos rfl, if_neg (by decide), if_neg (by decide),
    hback, hback, hback]

section Formula

variable (cal : Calibration) (adc_T : ℤ)

/-- The reading in eighths, less twice `dig_T1`. -/
def coarse : ℤ := adc_T / 8 - 2 * cal.dig_T1.toNat

/-- The reading in sixteenths, less `dig_T1`. -/
def fine : ℤ := adc_T / 16 - cal.dig_T1.toNat

/-- The term of first order. -/
def linearTerm : ℤ := coarse cal adc_T * cal.dig_T2.toInt / 2048

/-- The term of second order. -/
def squareTerm : ℤ := fine cal adc_T * fine cal adc_T / 4096 * cal.dig_T3.toInt / 16384

/-- The temperature in hundredths of a degree, in exact integer arithmetic. -/
def exactTemperature : ℤ := ((linearTerm cal adc_T + squareTerm cal adc_T) * 5 + 128) / 256

/-- The three products are values of an `int32_t`. -/
structure ProductsFit : Prop where
  linear : InInt32 (coarse cal adc_T * cal.dig_T2.toInt)
  square : InInt32 (fine cal adc_T * fine cal adc_T)
  weighted : InInt32 (fine cal adc_T * fine cal adc_T / 4096 * cal.dig_T3.toInt)

instance : Decidable (ProductsFit cal adc_T) :=
  decidable_of_iff (InInt32 (coarse cal adc_T * cal.dig_T2.toInt) ∧
    InInt32 (fine cal adc_T * fine cal adc_T) ∧
    InInt32 (fine cal adc_T * fine cal adc_T / 4096 * cal.dig_T3.toInt))
    ⟨fun h => ⟨h.1, h.2.1, h.2.2⟩, fun h => ⟨h.linear, h.square, h.weighted⟩⟩

end Formula

section Steps

variable {β : Type} {value : ℤ} (next : ℤ → Except Fault β)

/-- The computation goes on with a value that fits. -/
theorem int32_bind (hvalue : InInt32 value) : int32 value >>= next = next value := by
  rw [int32, if_pos hvalue]
  rfl

/-- The computation ends at a value that does not fit. -/
theorem int32_bind_overflow (hvalue : ¬InInt32 value) : int32 value >>= next = .error .overflow := by
  rw [int32, if_neg hvalue]
  rfl

end Steps

section Range

variable (cal : Calibration) {adc_T : ℤ}

/-- The doubled `dig_T1` and both differences fit for every reading. -/
theorem differences_fit (hadc : 0 ≤ adc_T ∧ adc_T < 2 ^ 20) :
    InInt32 ((cal.dig_T1.toNat : ℤ) * 2) ∧ InInt32 (coarse cal adc_T) ∧ InInt32 (fine cal adc_T) := by
  have hfirst := cal.dig_T1.isLt
  rw [InInt32, InInt32, InInt32, coarse, fine]
  omega

/-- The sum, its fivefold and the rounded value fit when the three products do. -/
theorem sum_fits (hfit : ProductsFit cal adc_T) :
    InInt32 (linearTerm cal adc_T + squareTerm cal adc_T) ∧
      InInt32 ((linearTerm cal adc_T + squareTerm cal adc_T) * 5) ∧
      InInt32 ((linearTerm cal adc_T + squareTerm cal adc_T) * 5 + 128) := by
  obtain ⟨hlinear, -, hweighted⟩ := hfit
  rw [InInt32] at hlinear hweighted
  rw [linearTerm, squareTerm, InInt32, InInt32, InInt32]
  omega

/-- The compensation once the differences are known to fit, with quotients for the shifts. -/
theorem compensate_temperature_steps (hadc : 0 ≤ adc_T ∧ adc_T < 2 ^ 20) :
    compensate_temperature cal adc_T = (do
      let scaled ← int32 (coarse cal adc_T * cal.dig_T2.toInt)
      let square ← int32 (fine cal adc_T * fine cal adc_T)
      let weighted ← int32 (square / 4096 * cal.dig_T3.toInt)
      let T ← int32 (scaled / 2048 + weighted / 16384)
      let fivefold ← int32 (T * 5)
      let rounded ← int32 (fivefold + 128)
      return rounded / 256) := by
  obtain ⟨hdoubled, hcoarse, hfine⟩ := differences_fit cal hadc
  have hshift (value : ℤ) (n : ℕ) : value >>> n = value / (2 ^ n : ℕ) := Int.shiftRight_eq_div_pow value n
  have hfirst : adc_T / (2 ^ 3 : ℕ) - (cal.dig_T1.toNat : ℤ) * 2 = coarse cal adc_T := by
    rw [coarse, Int.mul_comm 2]
    rfl
  rw [compensate_temperature, int32_bind _ hdoubled]
  simp only [hshift]
  rw [hfirst, int32_bind _ hcoarse]
  apply congrArg
  funext scaled
  exact int32_bind _ hfine

/-- The compensation is the exact one while the three products fit, and has no defined result otherwise. -/
theorem compensate_temperature_eq (hadc : 0 ≤ adc_T ∧ adc_T < 2 ^ 20) :
    compensate_temperature cal adc_T =
      if ProductsFit cal adc_T then .ok (exactTemperature cal adc_T) else .error .overflow := by
  rw [compensate_temperature_steps cal hadc]
  by_cases hlinear : InInt32 (coarse cal adc_T * cal.dig_T2.toInt)
  · rw [int32_bind _ hlinear]
    by_cases hsquare : InInt32 (fine cal adc_T * fine cal adc_T)
    · rw [int32_bind _ hsquare]
      by_cases hweighted : InInt32 (fine cal adc_T * fine cal adc_T / 4096 * cal.dig_T3.toInt)
      · have hfit : ProductsFit cal adc_T := ⟨hlinear, hsquare, hweighted⟩
        obtain ⟨hsum, hfivefold, hrounded⟩ := sum_fits cal hfit
        rw [linearTerm, squareTerm] at hsum hfivefold hrounded
        rw [int32_bind _ hweighted, int32_bind _ hsum, int32_bind _ hfivefold, int32_bind _ hrounded, if_pos hfit]
        rfl
      · rw [int32_bind_overflow _ hweighted, if_neg fun hfit => hweighted hfit.weighted]
    · rw [int32_bind_overflow _ hsquare, if_neg fun hfit => hsquare hfit.square]
  · rw [int32_bind_overflow _ hlinear, if_neg fun hfit => hlinear hfit.linear]

/-- Where the three products fit, the result is the exact one. -/
theorem compensate_temperature_of_fit (hadc : 0 ≤ adc_T ∧ adc_T < 2 ^ 20) (hfit : ProductsFit cal adc_T) :
    compensate_temperature cal adc_T = .ok (exactTemperature cal adc_T) := by
  rw [compensate_temperature_eq cal hadc, if_pos hfit]

/-- A `short` is at most `2 ^ 15` in absolute value. -/
theorem abs_toInt_le (word : BitVec 16) : |word.toInt| ≤ 32768 := by
  have hlow := BitVec.le_toInt word
  have hhigh := BitVec.toInt_lt (x := word)
  rw [abs_le]
  omega

/-- A factor below `2 ^ 16` keeps the product with a `short` in range. -/
theorem product_fits {factor : ℤ} (hfactor : |factor| < 65536) (word : BitVec 16) :
    InInt32 (factor * word.toInt) := by
  have hproduct : |factor * word.toInt| ≤ 65535 * 32768 := by
    rw [abs_mul]
    exact mul_le_mul (Int.le_sub_one_of_lt hfactor) (abs_toInt_le word) (abs_nonneg _) (by decide)
  rw [abs_le] at hproduct
  rw [InInt32]
  omega

/-- The three products fit for readings that lie within 16383 sixteenths of `dig_T1`. -/
theorem productsFit_of_near (hnear : |fine cal adc_T| ≤ 16383) : ProductsFit cal adc_T := by
  have hsquare : fine cal adc_T * fine cal adc_T ≤ 16383 * 16383 := by
    rw [← abs_mul_abs_self]
    exact mul_le_mul hnear hnear (abs_nonneg _) (by decide)
  have hpositive : 0 ≤ fine cal adc_T * fine cal adc_T := mul_self_nonneg _
  refine ⟨product_fits ?_ _, ?_, product_fits ?_ _⟩
  · rw [abs_le, fine] at hnear
    rw [abs_lt, coarse]
    omega
  · rw [InInt32]
    omega
  · rw [abs_lt]
    omega

end Range

/-- For every reading below `2 ^ 20` and every calibration: both differences fit; if the three
products fit, so do the sum and the rounded value, and the compensation is the exact one; otherwise it
has no defined result. -/
theorem compensation_defined (cal : Calibration) (adc_T : ℤ) (hadc : 0 ≤ adc_T ∧ adc_T < 2 ^ 20) :
    InInt32 (coarse cal adc_T) ∧ InInt32 (fine cal adc_T) ∧
      (ProductsFit cal adc_T →
        InInt32 (linearTerm cal adc_T + squareTerm cal adc_T) ∧
          InInt32 ((linearTerm cal adc_T + squareTerm cal adc_T) * 5 + 128) ∧
          compensate_temperature cal adc_T = .ok (exactTemperature cal adc_T)) ∧
      (¬ProductsFit cal adc_T → compensate_temperature cal adc_T = .error .overflow) := by
  obtain ⟨-, hcoarse, hfine⟩ := differences_fit cal hadc
  refine ⟨hcoarse, hfine, fun hfit => ?_, fun hfit => ?_⟩
  · obtain ⟨hsum, -, hrounded⟩ := sum_fits cal hfit
    exact ⟨hsum, hrounded, compensate_temperature_of_fit cal hadc hfit⟩
  · rw [compensate_temperature_eq cal hadc, if_neg hfit]

/-- A calibration from practice at the highest reading: everything fits. -/
theorem compensation_defined_of_highest :
    compensate_temperature ⟨27504#16, 26435#16, BitVec.ofInt 16 (-1000)⟩ 1048575 = .ok 18755 :=
  ((compensation_defined ⟨27504#16, 26435#16, BitVec.ofInt 16 (-1000)⟩ 1048575 (by decide)).2.2.1
    (by decide)).2.2

/-- With `dig_T1` zero the square leaves the range at the highest reading, whatever the other two. -/
theorem square_overflows :
    ¬∀ (cal : Calibration) (adc_T : ℤ), 0 ≤ adc_T ∧ adc_T < 2 ^ 20 →
      compensate_temperature cal adc_T = .ok (exactTemperature cal adc_T) := by
  intro hall
  have hexact := hall ⟨0#16, 0#16, 0#16⟩ 1048575 (by decide)
  exact absurd hexact (by decide)

end Maestro.Sensor
