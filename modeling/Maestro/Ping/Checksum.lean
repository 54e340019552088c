import Maestro.Word.EndAround
import Maestro.Word.Field

/-!
# The packet checksum of `wifi.c`

`checksum` adds the 16-bit words of a buffer, read in the byte order of the host, into a
32-bit sum, adds a last odd byte as it is, folds the carries twice and complements the
low 16 bits. As long as the sum does not wrap, the result is the complement of the
end-around sum of the words.
-/

namespace Maestro.Ping

open Word

/-- The order in which a host reads the two bytes of an `unsigned short`. -/
inductive ByteOrder where
  | little
  | big
deriving DecidableEq

/-- The `unsigned short` stored at two consecutive bytes. -/
def loadShort (order : ByteOrder) (first second : BitVec 8) : BitVec 16 :=
  match order with
  | .little => second ++ first
  | .big => first ++ second

/-- The two bytes of an `unsigned short` in memory. -/
def shortBytes (order : ByteOrder) (value : BitVec 16) : BitVec 8 × BitVec 8 :=
  match order with
  | .little => (value.extractLsb' 0 8, value.extractLsb' 8 8)
  | .big => (value.extractLsb' 8 8, value.extractLsb' 0 8)

/-- The summing loop: words while at least two bytes are left, then a last single byte. -/
def sumWords (order : ByteOrder) (sum : BitVec 32) : List (BitVec 8) → BitVec 32
  | first :: second :: rest => sumWords order (sum + (loadShort order first second).setWidth 32) rest
  | [last] => sum + last.setWidth 32
  | [] => sum

/-- The sum of the words, folded twice and complemented. -/
def checksum (order : ByteOrder) (buf : List (BitVec 8)) : BitVec 16 :=
  let sum := sumWords order 0#32 buf
  let sum := (sum >>> 16) + (sum &&& 0xFFFF#32)
  let sum := sum + (sum >>> 16)
  (~~~sum).setWidth 16

/-- The sum of the words of a buffer, without a bound on its size. -/
def wordTotal (order : ByteOrder) : List (BitVec 8) → ℕ
  | first :: second :: rest => (loadShort order first second).toNat + wordTotal order rest
  | [last] => last.toNat
  | [] => 0

section Shorts

variable (order : ByteOrder)

/-- A stored `unsigned short` is loaded back. -/
theorem loadShort_shortBytes (value : BitVec 16) :
    loadShort order (shortBytes order value).1 (shortBytes order value).2 = value := by
  have hsplit : value.extractLsb' 8 8 ++ value.extractLsb' 0 8 = value := by
    apply BitVec.eq_of_getLsbD_eq
    intro i hi
    rw [BitVec.getLsbD_append]
    by_cases hlow : i < 8
    · simp [hlow]
    · have hhigh : i - 8 < 8 := by omega
      simp [hlow, hhigh, Nat.add_sub_cancel' (not_lt.mp hlow)]
  cases order with
  | little => exact hsplit
  | big => exact hsplit

/-- Two zero bytes are the word zero on either host. -/
theorem loadShort_zero : (loadShort order 0#8 0#8).toNat = 0 := by
  cases order <;> rfl

/-- The words of a buffer cut at an even place are the words of its parts. -/
theorem wordTotal_append (left right : List (BitVec 8)) (heven : left.length % 2 = 0) :
    wordTotal order (left ++ right) = wordTotal order left + wordTotal order right := by
  induction left using wordTotal.induct with
  | case1 first second rest ih =>
    simp only [List.length_cons] at heven
    rw [List.cons_append, List.cons_append, wordTotal, wordTotal, ih (by omega), Nat.add_assoc]
  | case2 last => simp at heven
  | case3 => rw [List.nil_append, wordTotal, Nat.zero_add]

/-- Every word is below `2 ^ 16`. -/
theorem wordTotal_le (buf : List (BitVec 8)) : wordTotal order buf ≤ (buf.length + 1) / 2 * 65535 := by
  induction buf using wordTotal.induct with
  | case1 first second rest ih =>
    have hword : (loadShort order first second).toNat < 65536 := BitVec.isLt _
    rw [wordTotal, List.length_cons, List.length_cons]
    omega
  | case2 last =>
    have hbyte : last.toNat < 256 := BitVec.isLt _
    rw [wordTotal, List.length_singleton]
    omega
  | case3 => rw [wordTotal]; omega

/-- While it does not wrap, the 32-bit sum is the sum of the words. -/
theorem toNat_sumWords (sum : BitVec 32) (buf : List (BitVec 8))
    (hbound : sum.toNat + wordTotal order buf < 2 ^ 32) :
    (sumWords order sum buf).toNat = sum.toNat + wordTotal order buf := by
  induction buf using wordTotal.induct generalizing sum with
  | case1 first second rest ih =>
    rw [wordTotal] at hbound
    have hadd : (sum + (loadShort order first second).setWidth 32).toNat =
        sum.toNat + (loadShort order first second).toNat := by
      rw [BitVec.toNat_add, BitVec.toNat_setWidth, Nat.mod_eq_of_lt (a := (loadShort order _ _).toNat)
        (by omega), Nat.mod_eq_of_lt (by omega)]
    rw [sumWords, ih _ (by omega), hadd, wordTotal, Nat.add_assoc]
  | case2 last =>
    rw [wordTotal] at hbound
    rw [sumWords, wordTotal, BitVec.toNat_add, BitVec.toNat_setWidth,
      Nat.mod_eq_of_lt (a := last.toNat) (by omega), Nat.mod_eq_of_lt (by omega)]
  | case3 => rw [sumWords, wordTotal, Nat.add_zero]

/-- One folding step of the code, on the value of the sum. -/
theorem toNat_foldStep (sum : BitVec 32) :
    ((sum >>> 16) + (sum &&& 0xFFFF#32)).toNat = endAround 65536 sum.toNat := by
  have hlt : sum.toNat < 65536 * 65536 := sum.isLt
  have hle := endAround_le (B := 65536) (by decide) sum.toNat hlt
  have hhigh : (sum >>> 16).toNat = sum.toNat / 65536 := by
    rw [BitVec.toNat_ushiftRight, Nat.shiftRight_eq_div_pow]
  have hlow : (sum &&& 0xFFFF#32).toNat = sum.toNat % 65536 := by
    rw [BitVec.toNat_and]
    exact Nat.and_two_pow_sub_one_eq_mod sum.toNat 16
  rw [BitVec.toNat_add, hhigh, hlow]
  exact Nat.mod_eq_of_lt (show endAround 65536 sum.toNat < 2 ^ 32 by omega)

/-- The second step and the complement, on the value of the once-folded sum. -/
theorem toNat_complement (sum : BitVec 32) :
    ((~~~(sum + (sum >>> 16))).setWidth 16).toNat = 65535 - (sum.toNat + sum.toNat / 65536) % 65536 := by
  have hhigh : (sum >>> 16).toNat = sum.toNat / 65536 := by
    rw [BitVec.toNat_ushiftRight, Nat.shiftRight_eq_div_pow]
  rw [BitVec.toNat_setWidth, BitVec.toNat_not, BitVec.toNat_add, hhigh]
  omega

/-- The two folding steps and the complement compute the complement of the folded sum. -/
theorem toNat_checksum (buf : List (BitVec 8)) (hbound : wordTotal order buf < 2 ^ 32) :
    (checksum order buf).toNat = 65535 - foldSum 65536 (wordTotal order buf) := by
  have hsum : (sumWords order 0#32 buf).toNat = wordTotal order buf := by
    rw [toNat_sumWords order 0#32 buf (by simpa using hbound)]
    exact Nat.zero_add _
  have hstep := toNat_foldStep (sumWords order 0#32 buf)
  rw [hsum] at hstep
  rw [checksum, toNat_complement, hstep, add_div_mod_eq_foldSum (by decide) _ hbound]

/-- A buffer whose words add up to those of another buffer and the checksum of that one has checksum
zero. -/
theorem checksum_of_wordTotal {buf other : List (BitVec 8)} (hbound : wordTotal order buf + 65535 < 2 ^ 32)
    (htotal : wordTotal order other = wordTotal order buf + (checksum order buf).toNat) :
    checksum order other = 0#16 := by
  rw [toNat_checksum order buf (by omega)] at htotal
  have hfold : foldSum 65536 (wordTotal order other) = 65535 := by
    rw [htotal]
    exact foldSum_add_complement (by decide) _ hbound
  apply BitVec.eq_of_toNat_eq
  rw [toNat_checksum order other (by omega), hfold]
  rfl

/-- Storing the checksum of a buffer into a zero word at an even place makes the checksum of the
whole buffer zero. -/
theorem checksum_sealed (before after : List (BitVec 8)) (heven : before.length % 2 = 0)
    (hbound : wordTotal order (before ++ 0#8 :: 0#8 :: after) + 65535 < 2 ^ 32) :
    checksum order (before ++
      (shortBytes order (checksum order (before ++ 0#8 :: 0#8 :: after))).1 ::
      (shortBytes order (checksum order (before ++ 0#8 :: 0#8 :: after))).2 :: after) = 0#16 := by
  apply checksum_of_wordTotal order hbound
  rw [wordTotal_append order before _ heven, wordTotal_append order before _ heven, wordTotal, wordTotal,
    loadShort_shortBytes, loadShort_zero]
  omega

end Shorts

end Maestro.Ping
