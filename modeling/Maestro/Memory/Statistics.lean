import Mathlib.Algebra.BigOperators.Group.List.Basic
import Mathlib.Algebra.Order.BigOperators.Group.List
import Mathlib.Algebra.Order.Field.Basic
import Mathlib.Order.Bounds.Basic

/-!
# Running statistics of a list of measurements

A single pass that replaces the least value so far by a smaller one, and the greatest by a
greater one, ends at the least and the greatest value. The mean lies between them.
-/

namespace Statistics

section Extremes

variable {α : Type*} [LinearOrder α]

/-- The least value so far and the next one. -/
def lesser (least value : α) : α := if least > value then value else least

/-- The greatest value so far and the next one. -/
def greater (greatest value : α) : α := if greatest < value then value else greatest

/-- The smaller of two values. -/
theorem lesser_eq_min (least value : α) : lesser least value = min least value := by
  rw [lesser, min_comm, min_def_lt]

/-- The pass for the least value, from any value on. -/
theorem isLeast_foldl_lesser (first : α) (values : List α) :
    IsLeast {value | value ∈ first :: values} (values.foldl lesser first) := by
  induction values generalizing first with
  | nil => exact ⟨List.mem_cons_self, fun value hvalue => (List.mem_singleton.mp hvalue).ge⟩
  | cons second values ih =>
    have hrest := ih (lesser first second)
    rw [lesser_eq_min] at hrest
    rw [List.foldl_cons, lesser_eq_min]
    constructor
    · rcases List.mem_cons.mp hrest.1 with hmin | hvalues
      · rcases min_choice first second with hfirst | hsecond
        · exact List.mem_cons.mpr (.inl (hmin.trans hfirst))
        · exact List.mem_cons_of_mem _ (List.mem_cons.mpr (.inl (hmin.trans hsecond)))
      · exact List.mem_cons_of_mem _ (List.mem_cons_of_mem _ hvalues)
    · intro value hvalue
      have hmin := hrest.2 (List.mem_cons_self (a := min first second))
      rcases List.mem_cons.mp hvalue with rfl | hothers
      · exact hmin.trans (min_le_left _ _)
      · rcases List.mem_cons.mp hothers with rfl | hvalues
        · exact hmin.trans (min_le_right _ _)
        · exact hrest.2 (List.mem_cons_of_mem _ hvalues)

/-- The pass for the greatest value, from any value on. -/
theorem isGreatest_foldl_greater (first : α) (values : List α) :
    IsGreatest {value | value ∈ first :: values} (values.foldl greater first) :=
  isLeast_foldl_lesser (α := αᵒᵈ) first values

end Extremes

section Mean

variable {K : Type*} [Field K] [LinearOrder K] [IsStrictOrderedRing K]

/-- The mean of a list of values. -/
def mean (values : List K) : K := values.sum / values.length

/-- The mean is not below a lower bound and not above an upper bound. -/
theorem mean_mem_bounds {values : List K} (hvalues : values ≠ []) {least greatest : K}
    (hleast : ∀ value ∈ values, least ≤ value) (hgreatest : ∀ value ∈ values, value ≤ greatest) :
    least ≤ mean values ∧ mean values ≤ greatest := by
  have hlength : (0 : K) < values.length := Nat.cast_pos.mpr (List.length_pos_iff.mpr hvalues)
  constructor
  · rw [mean, le_div_iff₀ hlength, mul_comm, ← nsmul_eq_mul]
    exact List.card_nsmul_le_sum values least hleast
  · rw [mean, div_le_iff₀ hlength, mul_comm, ← nsmul_eq_mul]
    exact List.sum_le_card_nsmul values greatest hgreatest

end Mean

end Statistics
