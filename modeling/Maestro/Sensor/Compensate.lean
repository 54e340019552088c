import Mathlib.Data.BitVec

/-!
# Temperature compensation of `SPITest2.c`

The compensation works in `int32_t`. An intermediate value outside its range has no
defined result, so the computation ends with an overflow there. Right shifts of negative
values round down.
-/

namespace Maestro.Sensor

/-- The values of an `int32_t`. -/
def InInt32 (value : ℤ) : Prop := -2 ^ 31 ≤ value ∧ value < 2 ^ 31

instance : DecidablePred InInt32 :=
  fun value => inferInstanceAs (Decidable (-2 ^ 31 ≤ value ∧ value < 2 ^ 31))

/-- The reason why a computation has no defined result. -/
inductive Fault where
  | overflow
deriving DecidableEq

/-- An intermediate result, when it is an `int32_t`. -/
def int32 (value : ℤ) : Except Fault ℤ := if InInt32 value then .ok value else .error .overflow

/-- The calibration variables, an `unsigned short` and two `short`s. -/
structure Calibration where
  dig_T1 : BitVec 16
  dig_T2 : BitVec 16
  dig_T3 : BitVec 16

/-- The compensated temperature in hundredths of a degree. -/
def compensate_temperature (cal : Calibration) (adc_T : ℤ) : Except Fault ℤ := do
  let dig_T1 : ℤ := cal.dig_T1.toNat
  let doubled ← int32 (dig_T1 * 2)
  let coarse ← int32 ((adc_T >>> (3 : ℕ)) - doubled)
  let scaled ← int32 (coarse * cal.dig_T2.toInt)
  let var1 := scaled >>> (11 : ℕ)
  let fine ← int32 ((adc_T >>> (4 : ℕ)) - dig_T1)
  let square ← int32 (fine * fine)
  let weighted ← int32 ((square >>> (12 : ℕ)) * cal.dig_T3.toInt)
  let var2 := weighted >>> (14 : ℕ)
  let T ← int32 (var1 + var2)
  let fivefold ← int32 (T * 5)
  let rounded ← int32 (fivefold + 128)
  return rounded >>> (8 : ℕ)

end Maestro.Sensor
