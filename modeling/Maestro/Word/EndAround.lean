import Mathlib.Tactic.Ring
import Mathlib.Data.Nat.ModEq

/-!
# Sums with end-around carry

In base `B`, adding the digits above the lowest one back to it is the carry rule of
ones'-complement arithmetic. It keeps the residue modulo `B - 1`. For a sum below `B * B`
two such steps leave a single digit, which is zero only for the sum zero; residue zero is
otherwise represented by `B - 1`. Storing the complement of the folded sum of some digits
among them therefore makes the folded sum of all of them `B - 1`.

A digit is determined by its residue and by whether it is zero. So folding the sum of some digits
at its end is the same as adding the carry back after every addition, and swapping the two halves
of every digit swaps the halves of the folded sum.
-/

namespace Word

/-- Add the carry above the lowest digit back to the digit. -/
def endAround (B n : ℕ) : ℕ := n / B + n % B

/-- Fold a two-digit sum into one digit. -/
def foldSum (B n : ℕ) : ℕ := endAround B (endAround B n)

/-- The sum of two digits with its carry added back. -/
def addCarry (B a b : ℕ) : ℕ := endAround B (a + b)

/-- The sum of digits in ones'-complement arithmetic: every carry is added back at once. -/
def carrySum (B : ℕ) (digits : List ℕ) : ℕ := digits.foldl (addCarry B) 0

/-- A number below `b * b` with its two halves exchanged. -/
def swapHalves (b n : ℕ) : ℕ := n % b * b + n / b

section EndAround

variable {B : ℕ} (hB : 2 ≤ B) (n : ℕ)

include hB

/-- The carry has weight one modulo `B - 1`. -/
theorem endAround_modEq : endAround B n ≡ n [MOD B - 1] := by
  obtain ⟨b, rfl⟩ : ∃ b, B = b + 1 := ⟨B - 1, by omega⟩
  have hsplit : n = endAround (b + 1) n + b * (n / (b + 1)) := by
    conv_lhs => rw [← Nat.div_add_mod n (b + 1)]
    rw [endAround]
    ring
  rw [Nat.add_sub_cancel]
  conv_rhs => rw [hsplit]
  exact (Nat.modEq_zero_iff_dvd.mpr (Nat.dvd_mul_right b _)).symm.add_left (endAround (b + 1) n)

/-- Only zero carries over to zero. -/
theorem endAround_eq_zero_iff : endAround B n = 0 ↔ n = 0 := by
  rw [endAround, Nat.add_eq_zero_iff, Nat.div_eq_zero_iff]
  constructor
  · rintro ⟨hlt, hmod⟩
    rwa [Nat.mod_eq_of_lt (by omega)] at hmod
  · rintro rfl
    exact ⟨Or.inr (by omega), Nat.zero_mod B⟩

/-- Folding keeps the residue. -/
theorem foldSum_modEq : foldSum B n ≡ n [MOD B - 1] :=
  (endAround_modEq hB _).trans (endAround_modEq hB n)

/-- Only zero folds to zero. -/
theorem foldSum_eq_zero_iff : foldSum B n = 0 ↔ n = 0 :=
  (endAround_eq_zero_iff hB _).trans (endAround_eq_zero_iff hB n)

/-- One step leaves a carry of at most one. -/
theorem endAround_le (hn : n < B * B) : endAround B n ≤ 2 * (B - 1) := by
  have hdiv : n / B < B := Nat.div_lt_of_lt_mul hn
  have hmod : n % B < B := Nat.mod_lt n (by omega)
  rw [endAround]
  omega

/-- A carry of at most one leaves a single digit. -/
theorem endAround_lt (hn : n ≤ 2 * (B - 1)) : endAround B n < B := by
  rw [endAround]
  by_cases hlt : n < B
  · rw [Nat.div_eq_of_lt hlt, Nat.mod_eq_of_lt hlt]
    omega
  · have hdiv : n / B = 1 := by rw [Nat.div_eq_iff (by omega)]; omega
    have hmod : n % B = n - B := by rw [Nat.mod_eq_sub_mod (by omega), Nat.mod_eq_of_lt (by omega)]
    omega

/-- Two steps leave a single digit. -/
theorem foldSum_lt (hn : n < B * B) : foldSum B n < B :=
  endAround_lt hB _ (endAround_le hB n hn)

/-- Adding the carry to the whole sum and dropping what is above the digit is the second step. -/
theorem add_div_mod_eq_foldSum (hn : n < B * B) :
    (endAround B n + endAround B n / B) % B = foldSum B n := by
  have hlt := foldSum_lt hB n hn
  rw [foldSum] at hlt ⊢
  generalize endAround B n = s at hlt ⊢
  rw [endAround] at hlt ⊢
  have hsplit : s + s / B = B * (s / B) + (s / B + s % B) := by
    have hdigits := Nat.div_add_mod s B
    omega
  rw [hsplit, Nat.mul_add_mod, Nat.mod_eq_of_lt hlt]

/-- The folded sum is the residue, with `B - 1` for residue zero of a positive sum. -/
theorem foldSum_eq (hn : n < B * B) (hpos : 0 < n) :
    foldSum B n = if n % (B - 1) = 0 then B - 1 else n % (B - 1) := by
  have hlt := foldSum_lt hB n hn
  have hne : foldSum B n ≠ 0 := fun h => by
    have := (foldSum_eq_zero_iff hB n).mp h
    omega
  have hmod : foldSum B n % (B - 1) = n % (B - 1) := foldSum_modEq hB n
  rcases Nat.lt_or_ge (foldSum B n) (B - 1) with hsmall | hlarge
  · rw [Nat.mod_eq_of_lt hsmall] at hmod
    rw [if_neg (by omega), hmod]
  · have heq : foldSum B n = B - 1 := by omega
    rw [heq, Nat.mod_self] at hmod
    rw [if_pos hmod.symm, heq]

/-- Digits completed with the complement of their folded sum fold to `B - 1`. -/
theorem foldSum_add_complement (hn : n + (B - 1) < B * B) :
    foldSum B (n + (B - 1 - foldSum B n)) = B - 1 := by
  have hlt := foldSum_lt hB n (by omega)
  have hresidue : (n + (B - 1 - foldSum B n)) % (B - 1) = 0 := by
    have hsame : n + (B - 1 - foldSum B n) ≡ foldSum B n + (B - 1 - foldSum B n) [MOD B - 1] :=
      (foldSum_modEq hB n).symm.add_right _
    rw [Nat.add_sub_cancel' (by omega)] at hsame
    rw [hsame, Nat.mod_self]
  have hpos : 0 < n + (B - 1 - foldSum B n) := by
    rcases Nat.eq_zero_or_pos n with hzero | hpos
    · rw [(foldSum_eq_zero_iff hB n).mpr hzero]
      omega
    · omega
  rw [foldSum_eq hB _ (by omega) hpos, if_pos hresidue]

/-- A digit is determined by its residue and by whether it is zero. -/
theorem eq_of_modEq {a b : ℕ} (ha : a < B) (hb : b < B) (hmod : a ≡ b [MOD B - 1])
    (hzero : a = 0 ↔ b = 0) : a = b := by
  have hresidue {d : ℕ} (hd : d < B) : d % (B - 1) = if d = B - 1 then 0 else d := by
    by_cases hlast : d = B - 1
    · rw [if_pos hlast, hlast, Nat.mod_self]
    · rw [if_neg hlast, Nat.mod_eq_of_lt (by omega)]
  have hsame : a % (B - 1) = b % (B - 1) := hmod
  rw [hresidue ha, hresidue hb] at hsame
  by_cases hlast : a = B - 1
  · rw [if_pos hlast] at hsame
    split at hsame <;> omega
  · rw [if_neg hlast] at hsame
    split at hsame <;> omega

/-- Adding digits one by one with their carries keeps the residue of the sum, and whether it is
zero. -/
theorem foldl_addCarry {digits : List ℕ} (hdigits : ∀ digit ∈ digits, digit < B) {start : ℕ} (hstart : start < B) :
    digits.foldl (addCarry B) start < B ∧
      digits.foldl (addCarry B) start ≡ start + digits.sum [MOD B - 1] ∧
      (digits.foldl (addCarry B) start = 0 ↔ start + digits.sum = 0) := by
  induction digits generalizing start with
  | nil => exact ⟨hstart, Nat.ModEq.rfl, Iff.rfl⟩
  | cons digit digits ih =>
    have hdigit : digit < B := hdigits digit List.mem_cons_self
    obtain ⟨hlt, hmod, hzero⟩ := ih (fun other hmem => hdigits other (List.mem_cons_of_mem _ hmem))
      (endAround_lt hB (start + digit) (by omega))
    rw [List.foldl_cons, List.sum_cons, ← Nat.add_assoc]
    refine ⟨hlt, hmod.trans ((endAround_modEq hB (start + digit)).add_right digits.sum), hzero.trans ?_⟩
    rw [Nat.add_eq_zero_iff, endAround_eq_zero_iff hB, ← Nat.add_eq_zero_iff]

/-- Adding every carry back at once is folding the whole sum at its end. -/
theorem carrySum_eq_foldSum {digits : List ℕ} (hdigits : ∀ digit ∈ digits, digit < B) (hsum : digits.sum < B * B) :
    carrySum B digits = foldSum B digits.sum := by
  have hpos : 0 < B := by omega
  obtain ⟨hlt, hmod, hzero⟩ := foldl_addCarry hB hdigits hpos
  rw [Nat.zero_add] at hmod hzero
  apply eq_of_modEq hB hlt (foldSum_lt hB _ hsum)
  · exact hmod.trans (foldSum_modEq hB _).symm
  · rw [foldSum_eq_zero_iff hB]
    exact hzero

end EndAround

section Halves

variable {b : ℕ} (hb : 2 ≤ b) (n : ℕ)

include hb

/-- Exchanging the halves multiplies the residue. -/
theorem swapHalves_modEq : swapHalves b n ≡ b * n [MOD b * b - 1] := by
  obtain ⟨B, hB⟩ : ∃ B, b * b = B + 1 := ⟨b * b - 1, (Nat.sub_add_cancel (Nat.mul_pos (by omega) (by omega))).symm⟩
  have hsplit : b * n = swapHalves b n + B * (n / b) := by
    calc b * n = b * b * (n / b) + n % b * b := by
          conv_lhs => rw [← Nat.div_add_mod n b]
          ring
      _ = swapHalves b n + B * (n / b) := by
          rw [hB, swapHalves]
          ring
  rw [hsplit, hB, Nat.add_sub_cancel]
  exact (Nat.modEq_zero_iff_dvd.mpr (Nat.dvd_mul_right B _)).symm.add_left (swapHalves b n)

/-- Exchanging the halves of a number below `b * b` gives another. -/
theorem swapHalves_lt (hn : n < b * b) : swapHalves b n < b * b := by
  have hhigh : n / b < b := Nat.div_lt_of_lt_mul hn
  have hlow : n % b < b := Nat.mod_lt n (by omega)
  calc swapHalves b n < n % b * b + b := Nat.add_lt_add_left hhigh _
    _ = (n % b + 1) * b := by ring
    _ ≤ b * b := Nat.mul_le_mul_right b hlow

/-- Only zero is exchanged to zero. -/
theorem swapHalves_eq_zero_iff : swapHalves b n = 0 ↔ n = 0 := by
  rw [swapHalves, Nat.add_eq_zero_iff, Nat.mul_eq_zero, or_iff_left (by omega)]
  constructor
  · intro hzero
    rw [← Nat.div_add_mod n b, hzero.1, hzero.2, Nat.mul_zero]
  · intro hzero
    rw [hzero]
    exact ⟨Nat.zero_mod b, Nat.zero_div b⟩

/-- Sums of digits with their halves exchanged fold to the exchanged digit. -/
theorem foldSum_swapHalves {m : ℕ} (hm : m < b * b * (b * b)) (hn : n < b * b * (b * b))
    (hmod : m ≡ b * n [MOD b * b - 1]) (hzero : m = 0 ↔ n = 0) :
    foldSum (b * b) m = swapHalves b (foldSum (b * b) n) := by
  have hB : 2 ≤ b * b := le_trans hb (Nat.le_mul_self b)
  apply eq_of_modEq hB (foldSum_lt hB m hm) (swapHalves_lt hb _ (foldSum_lt hB n hn))
  · calc foldSum (b * b) m ≡ m [MOD b * b - 1] := foldSum_modEq hB m
      _ ≡ b * n [MOD b * b - 1] := hmod
      _ ≡ b * foldSum (b * b) n [MOD b * b - 1] := (foldSum_modEq hB n).symm.mul_left b
      _ ≡ swapHalves b (foldSum (b * b) n) [MOD b * b - 1] := (swapHalves_modEq hb _).symm
  · rw [foldSum_eq_zero_iff hB, swapHalves_eq_zero_iff hb, foldSum_eq_zero_iff hB, hzero]

end Halves

end Word
