import Mathlib.Data.BitVec

/-!
# Fields of machine words

A field is a run of consecutive bits of a word, given by its first bit and its width.
Writing a field clears its bits with a shifted mask and puts the shifted value in their
place, which is how registers shared by several users are updated. Every fact is read
off the bits of the result, so words and fields of any width are covered.
-/

namespace Word

variable {w n m : ℕ}

/-- The value of the `n`-bit field that begins at bit `start`. -/
def getField (word : BitVec w) (start n : ℕ) : BitVec n := word.extractLsb' start n

/-- The word with ones exactly in the `n` bits from `start` on. -/
def fieldMask (w start n : ℕ) : BitVec w := (BitVec.allOnes n).setWidth w <<< start

/-- The bits of a value moved to a field, with zeros everywhere else. -/
def placeField (w start : ℕ) (value : BitVec n) : BitVec w := value.setWidth w <<< start

/-- Replace a field, by masking it out and putting the new value in. -/
def setField (word : BitVec w) (start : ℕ) (value : BitVec n) : BitVec w :=
  word &&& ~~~fieldMask w start n ||| placeField w start value

/-- The bits of a field. -/
theorem getLsbD_getField (word : BitVec w) (start i : ℕ) :
    (getField word start n).getLsbD i = (decide (i < n) && word.getLsbD (start + i)) :=
  BitVec.getLsbD_extractLsb' ..

/-- The bits of a mask. -/
theorem getLsbD_fieldMask (start i : ℕ) :
    (fieldMask w start n).getLsbD i = decide (i < w ∧ start ≤ i ∧ i < start + n) := by
  simp only [fieldMask, BitVec.getLsbD_shiftLeft, BitVec.getLsbD_setWidth, BitVec.getLsbD_allOnes]
  rw [Bool.eq_iff_iff]
  simp only [Bool.and_eq_true, Bool.not_eq_true', decide_eq_true_eq, decide_eq_false_iff_not]
  omega

/-- The bits of a placed field. -/
theorem getLsbD_placeField (start i : ℕ) (value : BitVec n) :
    (placeField w start value).getLsbD i =
      (decide (i < w ∧ start ≤ i) && value.getLsbD (i - start)) := by
  simp only [placeField, BitVec.getLsbD_shiftLeft, BitVec.getLsbD_setWidth]
  rw [Bool.eq_iff_iff]
  simp only [Bool.and_eq_true, Bool.not_eq_true', decide_eq_true_eq, decide_eq_false_iff_not]
  constructor
  · rintro ⟨⟨hw, hstart⟩, -, hbit⟩
    exact ⟨⟨hw, by omega⟩, hbit⟩
  · rintro ⟨⟨hw, hstart⟩, hbit⟩
    exact ⟨⟨hw, by omega⟩, by omega, hbit⟩

/-- A written field has the new bits inside it and the old ones outside. -/
theorem getLsbD_setField (word : BitVec w) (start i : ℕ) (value : BitVec n) (hi : i < w) :
    (setField word start value).getLsbD i =
      if start ≤ i ∧ i < start + n then value.getLsbD (i - start) else word.getLsbD i := by
  simp only [setField, BitVec.getLsbD_or, BitVec.getLsbD_and, BitVec.getLsbD_not,
    getLsbD_fieldMask, getLsbD_placeField, hi, decide_true, Bool.true_and, true_and]
  split
  · rename_i hinside
    simp [hinside]
  · rename_i houtside
    by_cases hstart : start ≤ i
    · have hvalue : value.getLsbD (i - start) = false := BitVec.getLsbD_of_ge _ _ (by omega)
      simp [houtside, hvalue]
    · simp [hstart]

/-- A field reads back as it was last written. -/
theorem getField_setField_same (word : BitVec w) (start : ℕ) (value : BitVec n)
    (hfits : start + n ≤ w) : getField (setField word start value) start n = value := by
  apply BitVec.eq_of_getLsbD_eq
  intro i hi
  rw [getLsbD_getField, getLsbD_setField _ _ _ _ (by omega)]
  simp [hi]

/-- Writing one field leaves a disjoint field alone. -/
theorem getField_setField_of_disjoint (word : BitVec w) (start other : ℕ) (value : BitVec n)
    (hfits : other + m ≤ w) (hdisjoint : start + n ≤ other ∨ other + m ≤ start) :
    getField (setField word start value) other m = getField word other m := by
  apply BitVec.eq_of_getLsbD_eq
  intro i hi
  rw [getLsbD_getField, getLsbD_getField, getLsbD_setField _ _ _ _ (by omega),
    if_neg (by omega)]

/-- Of two writes to the same field only the second one counts. -/
theorem setField_setField_same (word : BitVec w) (start : ℕ) (first second : BitVec n) :
    setField (setField word start first) start second = setField word start second := by
  apply BitVec.eq_of_getLsbD_eq
  intro i hi
  simp only [getLsbD_setField _ _ _ _ hi]
  split <;> rfl

/-- Writes to disjoint fields commute. -/
theorem setField_comm (word : BitVec w) (start other : ℕ) (left : BitVec n) (right : BitVec m)
    (hdisjoint : start + n ≤ other ∨ other + m ≤ start) :
    setField (setField word start left) other right =
      setField (setField word other right) start left := by
  apply BitVec.eq_of_getLsbD_eq
  intro i hi
  simp only [getLsbD_setField _ _ _ _ hi]
  split
  · rw [if_neg (by omega)]
  · rfl

/-- Masking a field out writes zero to it. -/
theorem and_not_fieldMask (word : BitVec w) (start n : ℕ) :
    word &&& ~~~fieldMask w start n = setField word start (0 : BitVec n) := by
  simp [setField, placeField]

/-- Setting bits of a field without clearing it first merges them with its old value. -/
theorem getField_or_placeField_same (word : BitVec w) (start : ℕ) (value : BitVec n)
    (hfits : start + n ≤ w) :
    getField (word ||| placeField w start value) start n = getField word start n ||| value := by
  apply BitVec.eq_of_getLsbD_eq
  intro i hi
  have hin : start + i < w := by omega
  rw [getLsbD_getField, BitVec.getLsbD_or, getLsbD_placeField, BitVec.getLsbD_or, getLsbD_getField]
  simp [hi, hin]

/-- Bits set in one field do not change another. -/
theorem getField_or_placeField_of_disjoint (word : BitVec w) (start other : ℕ) (value : BitVec m)
    (hdisjoint : other + n ≤ start ∨ start + m ≤ other) :
    getField (word ||| placeField w start value) other n = getField word other n := by
  apply BitVec.eq_of_getLsbD_eq
  intro i hi
  have hoff : (placeField w start value).getLsbD (other + i) = false := by
    rw [getLsbD_placeField]
    rcases hdisjoint with hbelow | habove
    · rw [decide_eq_false (by omega), Bool.false_and]
    · rw [BitVec.getLsbD_of_ge _ _ (by omega), Bool.and_false]
  rw [getLsbD_getField, getLsbD_getField, BitVec.getLsbD_or, hoff, Bool.or_false]

end Word
