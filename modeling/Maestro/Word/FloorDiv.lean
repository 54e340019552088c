import Mathlib.Algebra.Order.Ring.Rat
import Mathlib.Algebra.Order.Field.Basic
import Mathlib.Tactic.FieldSimp
import Mathlib.Tactic.Linarith

/-!
# Quotients that round down

An arithmetic right shift divides by a power of two and rounds down. The exact quotient lies above
the rounded one by less than one. A multiple of the divisor passes through the rounding unchanged,
so dividends that differ by at most `n * d` have quotients that differ by at most `n`.
-/

namespace Word

/-- What rounding down loses is at most `1 - 1 / d`. -/
theorem exists_loss (x : ℤ) {d : ℕ} (hd : 0 < d) :
    ∃ loss : ℚ, 0 ≤ loss ∧ loss ≤ 1 - 1 / d ∧ (x : ℚ) = d * ((x / d : ℤ) + loss) := by
  have hpos : (0 : ℚ) < d := Nat.cast_pos.mpr hd
  have hlow := Int.emod_nonneg x (Int.natCast_ne_zero.mpr hd.ne')
  have hhigh := Int.emod_lt_of_pos x (Int.natCast_pos.mpr hd)
  refine ⟨((x % d : ℤ) : ℚ) / d, ?_, ?_, ?_⟩
  · exact div_nonneg (by exact_mod_cast hlow) hpos.le
  · rw [one_sub_div hpos.ne', div_le_div_iff_of_pos_right hpos, le_sub_iff_add_le]
    exact_mod_cast hhigh
  · rw [mul_add, mul_div_cancel₀ _ hpos.ne']
    exact_mod_cast (Int.mul_ediv_add_emod x d).symm

section Differences

variable {a b d n : ℤ} (hd : 0 < d)

include hd

/-- A multiple of the divisor passes through the rounding. -/
theorem add_le_ediv (hab : a + n * d ≤ b) : a / d + n ≤ b / d := by
  rw [← Int.add_mul_ediv_right a n hd.ne']
  exact Int.ediv_le_ediv hd hab

/-- Dividends that differ by at most `n * d` have quotients that differ by at most `n`. -/
theorem abs_ediv_sub_ediv_le (hab : |a - b| ≤ n * d) : |a / d - b / d| ≤ n := by
  rw [abs_le] at hab
  have hdown := add_le_ediv (a := a) (b := b) (n := -n) hd (by linarith)
  have hup := add_le_ediv (a := b) (b := a) (n := -n) hd (by linarith)
  rw [abs_le]
  constructor <;> linarith

end Differences

end Word
