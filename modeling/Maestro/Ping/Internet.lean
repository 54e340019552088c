import Maestro.Ping.Checksum

/-!
# The Internet checksum

The Internet checksum is the complement of the ones'-complement sum of the 16-bit words of a
buffer, in which every carry is added back at once. `checksum` adds the carries back at its end,
which is the same as long as its 32-bit sum does not wrap: up to 131074 bytes. A buffer that is
sealed with its checksum shows every change of a word but the exchange of the two codes of zero,
and hosts of either byte order store the same two bytes.
-/

namespace Maestro.Ping

open Word

/-- The 16-bit words of a buffer, an odd last byte being padded with a zero byte. -/
def internetWords (order : ByteOrder) : List (BitVec 8) → List (BitVec 16)
  | first :: second :: rest => loadShort order first second :: internetWords order rest
  | [last] => [loadShort order last 0#8]
  | [] => []

/-- The sum of the words in which every carry is added back at once. -/
def internetSum (order : ByteOrder) (buf : List (BitVec 8)) : ℕ :=
  carrySum 65536 ((internetWords order buf).map BitVec.toNat)

/-- The Internet checksum. -/
def internetChecksum (order : ByteOrder) (buf : List (BitVec 8)) : BitVec 16 :=
  ~~~BitVec.ofNat 16 (internetSum order buf)

/-- A word with its two bytes exchanged. -/
def byteSwap (value : BitVec 16) : BitVec 16 := value.extractLsb' 0 8 ++ value.extractLsb' 8 8

/-- Store an `unsigned short` at an aligned place. -/
def storeWord (order : ByteOrder) (buf : List (BitVec 8)) (k : ℕ) (value : BitVec 16) : List (BitVec 8) :=
  (buf.set (2 * k) (shortBytes order value).1).set (2 * k + 1) (shortBytes order value).2

/-- The `unsigned short` at an aligned place. -/
def loadWord (order : ByteOrder) (buf : List (BitVec 8)) (k : ℕ) (hk : 2 * k + 1 < buf.length) : BitVec 16 :=
  loadShort order buf[2 * k] buf[2 * k + 1]

section Sum

/-- A word is two digits in base 256, the first byte being the low one on a little-endian host. -/
theorem toNat_loadShort (first second : BitVec 8) :
    (loadShort .little first second).toNat = 256 * second.toNat + first.toNat ∧
      (loadShort .big first second).toNat = 256 * first.toNat + second.toNat := by
  have hvalue (high low : BitVec 8) : (high ++ low).toNat = 256 * high.toNat + low.toNat := by
    rw [BitVec.toNat_append, ← Nat.shiftLeft_add_eq_or_of_lt low.isLt, Nat.shiftLeft_eq, Nat.mul_comm]
  exact ⟨hvalue second first, hvalue first second⟩

/-- The code adds a last odd byte as it is, which is the padded word on a little-endian host. -/
theorem sum_internetWords (buf : List (BitVec 8)) :
    ((internetWords .little buf).map BitVec.toNat).sum = wordTotal .little buf := by
  induction buf using wordTotal.induct with
  | case1 first second rest ih =>
    rw [internetWords, List.map_cons, List.sum_cons, ih, wordTotal]
  | case2 last =>
    rw [internetWords, wordTotal, List.map_singleton, List.sum_singleton, (toNat_loadShort last 0#8).1]
    exact Nat.zero_add _
  | case3 => rfl

/-- The sum of the words of at most 131074 bytes is below `2 ^ 32`. -/
theorem wordTotal_lt (order : ByteOrder) {buf : List (BitVec 8)} (hlength : buf.length ≤ 131074) :
    wordTotal order buf < 2 ^ 32 := by
  have hle := wordTotal_le order buf
  omega

/-- In a buffer of even length no byte is left over, on either host. -/
theorem sum_internetWords_of_even (order : ByteOrder) (buf : List (BitVec 8)) (heven : buf.length % 2 = 0) :
    ((internetWords order buf).map BitVec.toNat).sum = wordTotal order buf := by
  induction buf using wordTotal.induct with
  | case1 first second rest ih =>
    have hrest := ih (by simpa only [List.length_cons, Nat.add_assoc, Nat.add_mod_right] using heven)
    rw [internetWords, List.map_cons, List.sum_cons, hrest, wordTotal]
  | case2 last => exact absurd heven (by rw [List.length_singleton]; decide)
  | case3 => rfl

/-- The sum with its carries is the folded sum of the words. -/
theorem internetSum_eq {order : ByteOrder} {buf : List (BitVec 8)}
    (htotal : ((internetWords order buf).map BitVec.toNat).sum = wordTotal order buf)
    (hlength : buf.length ≤ 131074) : internetSum order buf = foldSum 65536 (wordTotal order buf) := by
  have hwords : ∀ word ∈ (internetWords order buf).map BitVec.toNat, word < 65536 := by
    intro word hmem
    obtain ⟨value, -, rfl⟩ := List.mem_map.mp hmem
    exact value.isLt
  have hbound : ((internetWords order buf).map BitVec.toNat).sum < 2 ^ 32 := by
    rw [htotal]
    exact wordTotal_lt order hlength
  rw [internetSum, carrySum_eq_foldSum (by decide) hwords hbound, htotal]

/-- For every buffer of at most 131074 bytes: `checksum` is the Internet checksum on a little-endian
host, its 32-bit sum is at no time anything but the sum of the words so far, and the two folding
steps leave no carry. -/
theorem checksum_eq_internetChecksum (buf : List (BitVec 8)) (hlength : buf.length ≤ 131074) :
    checksum .little buf = internetChecksum .little buf ∧
      (∀ first, first <+: buf →
        (sumWords .little 0#32 first).toNat = ((internetWords .little first).map BitVec.toNat).sum) ∧
      foldSum 65536 (sumWords .little 0#32 buf).toNat < 65536 := by
  have hsum {first : List (BitVec 8)} (hfirst : first <+: buf) :
      (sumWords .little 0#32 first).toNat = wordTotal .little first := by
    have hlt := wordTotal_lt .little (le_trans hfirst.length_le hlength)
    rw [toNat_sumWords .little 0#32 first (by simpa using hlt)]
    exact Nat.zero_add _
  have hfold := foldSum_lt (B := 65536) (by decide) (wordTotal .little buf) (wordTotal_lt .little hlength)
  refine ⟨?_, fun first hfirst => ?_, ?_⟩
  · apply BitVec.eq_of_toNat_eq
    rw [toNat_checksum .little buf (wordTotal_lt .little hlength), internetChecksum, BitVec.toNat_not,
      BitVec.toNat_ofNat, internetSum_eq (sum_internetWords buf) hlength, Nat.mod_eq_of_lt hfold]
  · rw [hsum hfirst, sum_internetWords]
  · rw [hsum List.prefix_rfl]
    exact hfold

/-- The checksum of three bytes, the last one padded. -/
theorem checksum_three_bytes :
    checksum .little [0xFF#8, 0xFF#8, 0x45#8] = internetChecksum .little [0xFF#8, 0xFF#8, 0x45#8] :=
  (checksum_eq_internetChecksum [0xFF#8, 0xFF#8, 0x45#8] (by decide)).1

end Sum

section Seal

variable (order : ByteOrder)

/-- A buffer, cut at an aligned place. -/
theorem eq_append_word (buf : List (BitVec 8)) (k : ℕ) (hk : 2 * k + 1 < buf.length) :
    buf = buf.take (2 * k) ++ buf[2 * k] :: buf[2 * k + 1] :: buf.drop (2 * k + 2) := by
  rw [← List.drop_eq_getElem_cons, ← List.drop_eq_getElem_cons, List.take_append_drop]

/-- Storing a word replaces the two bytes of its place. -/
theorem storeWord_append (before after : List (BitVec 8)) (first second : BitVec 8) (k : ℕ)
    (hbefore : before.length = 2 * k) (value : BitVec 16) :
    storeWord order (before ++ first :: second :: after) k value =
      before ++ (shortBytes order value).1 :: (shortBytes order value).2 :: after := by
  rw [storeWord, List.set_append_right _ _ (by omega), hbefore, Nat.sub_self, List.set_cons_zero,
    List.set_append_right _ _ (by omega), hbefore, Nat.add_sub_cancel_left, List.set_cons_succ, List.set_cons_zero]

/-- Storing a word exchanges it in the sum of all words. -/
theorem wordTotal_storeWord (buf : List (BitVec 8)) (k : ℕ) (hk : 2 * k + 1 < buf.length) (value : BitVec 16) :
    wordTotal order (storeWord order buf k value) + (loadWord order buf k hk).toNat =
      wordTotal order buf + value.toNat := by
  have hlength : (buf.take (2 * k)).length % 2 = 0 := by
    rw [List.length_take_of_le (by omega)]
    omega
  have hword : loadWord order buf k hk = loadShort order buf[2 * k] buf[2 * k + 1] := rfl
  have hbuf := eq_append_word buf k hk
  generalize buf[2 * k] = first at hbuf hword
  generalize buf[2 * k + 1] = second at hbuf hword
  rw [hword, hbuf, storeWord_append order _ _ _ _ _ (List.length_take_of_le (by omega)),
    wordTotal_append order _ _ hlength, wordTotal_append order _ _ hlength, wordTotal, wordTotal,
    loadShort_shortBytes]
  omega

/-- Storing a word keeps the length. -/
theorem length_storeWord (buf : List (BitVec 8)) (k : ℕ) (value : BitVec 16) :
    (storeWord order buf k value).length = buf.length := by
  rw [storeWord, List.length_set, List.length_set]

variable {order} {buf : List (BitVec 8)} (hlength : buf.length ≤ 131074)

include hlength

/-- The checksum is zero exactly when the sum of the words folds to all ones. -/
theorem checksum_eq_zero_iff :
    checksum order buf = 0#16 ↔ foldSum 65536 (wordTotal order buf) = 65535 := by
  have hsum := wordTotal_lt order hlength
  have hfold := foldSum_lt (B := 65536) (by decide) (wordTotal order buf) hsum
  rw [← BitVec.toNat_inj, toNat_checksum order buf hsum, BitVec.toNat_ofNat]
  omega

/-- A receiver that adds up the words of a buffer of even length finds all ones exactly when the
checksum is zero. -/
theorem internetSum_eq_iff (heven : buf.length % 2 = 0) :
    internetSum order buf = 65535 ↔ checksum order buf = 0#16 := by
  rw [checksum_eq_zero_iff hlength, internetSum_eq (sum_internetWords_of_even order buf heven) hlength]

/-- A buffer with checksum zero has a positive sum that is a multiple of 65535. -/
theorem sum_of_checksum_eq_zero (hzero : checksum order buf = 0#16) :
    0 < wordTotal order buf ∧ wordTotal order buf ≡ 0 [MOD 65535] := by
  rw [checksum_eq_zero_iff hlength] at hzero
  constructor
  · apply Nat.pos_of_ne_zero
    intro hsum
    rw [hsum] at hzero
    exact absurd hzero (by decide)
  · have hresidue := foldSum_modEq (B := 65536) (by decide) (wordTotal order buf)
    rw [hzero] at hresidue
    exact hresidue.symm

/-- Storing its checksum into a zero word of a buffer seals it. -/
theorem checksum_storeWord {k : ℕ} (hk : 2 * k + 1 < buf.length) (hfield : loadWord order buf k hk = 0#16) :
    checksum order (storeWord order buf k (checksum order buf)) = 0#16 := by
  have hstore (value : BitVec 16) :
      wordTotal order (storeWord order buf k value) = wordTotal order buf + value.toNat := by
    have hexchange := wordTotal_storeWord order buf k hk value
    rw [hfield] at hexchange
    exact hexchange
  -- The buffer with all ones in the field has the same length, which bounds the sum of the other words.
  have hothers : wordTotal order buf + 65535 < 2 ^ 32 := by
    have hlength' : (storeWord order buf k 0xFFFF#16).length ≤ 131074 := by
      rw [length_storeWord]
      exact hlength
    have hfull := wordTotal_lt order hlength'
    rw [hstore] at hfull
    exact hfull
  exact checksum_of_wordTotal order hothers (hstore _)

/-- A sealed buffer in which another word is stored is sealed only if the two words are the two codes
of zero. -/
theorem codes_of_zero (hzero : checksum order buf = 0#16) {k : ℕ} (hk : 2 * k + 1 < buf.length)
    {value : BitVec 16} (hne : value ≠ loadWord order buf k hk)
    (hstill : checksum order (storeWord order buf k value) = 0#16) :
    loadWord order buf k hk = 0#16 ∧ value = 0xFFFF#16 ∨ loadWord order buf k hk = 0xFFFF#16 ∧ value = 0#16 := by
  have hbefore := (sum_of_checksum_eq_zero hlength hzero).2
  have hafter := (sum_of_checksum_eq_zero (by rw [length_storeWord]; exact hlength) hstill).2
  have hexchange := wordTotal_storeWord order buf k hk value
  have hold := (loadWord order buf k hk).isLt
  have hnew := value.isLt
  have hdiffer : value.toNat ≠ (loadWord order buf k hk).toNat := fun heq => hne (BitVec.eq_of_toNat_eq heq)
  rw [Nat.ModEq] at hbefore hafter
  rw [← BitVec.toNat_inj, ← BitVec.toNat_inj, ← BitVec.toNat_inj, ← BitVec.toNat_inj]
  simp only [BitVec.toNat_ofNat]
  omega

end Seal

/-- For every buffer of at most 131074 bytes and every aligned word of it that is zero: storing the
checksum there makes the checksum of the whole buffer zero, and storing another value at any aligned
place of the sealed buffer makes it non-zero, unless it exchanges `0x0000` and `0xFFFF`. -/
theorem checksum_detects_change (order : ByteOrder) (buf : List (BitVec 8)) (hlength : buf.length ≤ 131074)
    (k : ℕ) (hk : 2 * k + 1 < buf.length) (hfield : loadWord order buf k hk = 0#16) :
    checksum order (storeWord order buf k (checksum order buf)) = 0#16 ∧
      ∀ (i : ℕ) (hi : 2 * i + 1 < (storeWord order buf k (checksum order buf)).length) (value : BitVec 16),
        value ≠ loadWord order (storeWord order buf k (checksum order buf)) i hi →
        ¬(loadWord order (storeWord order buf k (checksum order buf)) i hi = 0#16 ∧ value = 0xFFFF#16 ∨
          loadWord order (storeWord order buf k (checksum order buf)) i hi = 0xFFFF#16 ∧ value = 0#16) →
        checksum order (storeWord order (storeWord order buf k (checksum order buf)) i value) ≠ 0#16 := by
  have hsealed := checksum_storeWord hlength hk hfield
  refine ⟨hsealed, fun i hi value hne hcodes hstill => ?_⟩
  exact hcodes (codes_of_zero (by rw [length_storeWord]; exact hlength) hsealed hi hne hstill)

/-- An echo request of four bytes, sealed and then changed in its first word. -/
theorem checksum_detects_change_of_request :
    checksum .little (storeWord .little [8#8, 0#8, 0#8, 0#8] 1 (checksum .little [8#8, 0#8, 0#8, 0#8])) = 0#16 ∧
      checksum .little (storeWord .little
        (storeWord .little [8#8, 0#8, 0#8, 0#8] 1 (checksum .little [8#8, 0#8, 0#8, 0#8])) 0 9#16) ≠ 0#16 := by
  have hdetects := checksum_detects_change .little [8#8, 0#8, 0#8, 0#8] (by decide) 1 (by decide) (by decide)
  exact ⟨hdetects.1, hdetects.2 0 (by decide) 9#16 (by decide) (by decide)⟩

section Hosts

/-- The value of a word with its bytes exchanged. -/
theorem toNat_byteSwap (value : BitVec 16) : (byteSwap value).toNat = swapHalves 256 value.toNat := by
  have hhigh : value.toNat / 256 % 256 = value.toNat / 256 := Nat.mod_eq_of_lt (by have := value.isLt; omega)
  have hvalue (high low : BitVec 8) : (high ++ low).toNat = high.toNat * 256 + low.toNat := by
    rw [BitVec.toNat_append, ← Nat.shiftLeft_add_eq_or_of_lt low.isLt, Nat.shiftLeft_eq]
  rw [byteSwap, hvalue, BitVec.extractLsb'_toNat, BitVec.extractLsb'_toNat, Nat.shiftRight_zero,
    Nat.shiftRight_eq_div_pow, hhigh, swapHalves]

/-- The complement of a word exchanges its bytes with the word. -/
theorem swapHalves_complement {n : ℕ} (hn : n < 65536) :
    swapHalves 256 (65535 - n) = 65535 - swapHalves 256 n := by
  rw [swapHalves, swapHalves]
  omega

/-- A host of the other byte order puts the same two bytes into memory for the exchanged value. -/
theorem shortBytes_byteSwap (value : BitVec 16) : shortBytes .big (byteSwap value) = shortBytes .little value :=
  Prod.ext BitVec.extractLsb'_append_eq_left BitVec.extractLsb'_append_eq_right

/-- Every word that the other host reads has its bytes exchanged, which multiplies it by 256 modulo
65535. -/
theorem wordTotal_big_modEq {buf : List (BitVec 8)} (heven : buf.length % 2 = 0) :
    wordTotal .big buf ≡ 256 * wordTotal .little buf [MOD 65535] := by
  induction buf using wordTotal.induct with
  | case1 first second rest ih =>
    have hrest := ih (by simpa only [List.length_cons, Nat.add_assoc, Nat.add_mod_right] using heven)
    rw [wordTotal, wordTotal, (toNat_loadShort first second).1, (toNat_loadShort first second).2, Nat.mul_add]
    apply Nat.ModEq.add _ hrest
    rw [Nat.ModEq]
    omega
  | case2 last => exact absurd heven (by rw [List.length_singleton]; decide)
  | case3 => rfl

/-- The sum is zero on both hosts or on none. -/
theorem wordTotal_big_eq_zero_iff (buf : List (BitVec 8)) :
    wordTotal .big buf = 0 ↔ wordTotal .little buf = 0 := by
  induction buf using wordTotal.induct with
  | case1 first second rest ih =>
    rw [wordTotal, wordTotal, (toNat_loadShort first second).1, (toNat_loadShort first second).2,
      Nat.add_eq_zero_iff, Nat.add_eq_zero_iff, ih]
    omega
  | case2 last => rfl
  | case3 => rfl

end Hosts

/-- For every buffer of even length up to 131074 bytes: the checksums computed by a little-endian and
by a big-endian host are byte swaps of each other, and both hosts store the same two bytes. -/
theorem checksum_byte_order (buf : List (BitVec 8)) (heven : buf.length % 2 = 0)
    (hlength : buf.length ≤ 131074) :
    checksum .big buf = byteSwap (checksum .little buf) ∧
      shortBytes .big (checksum .big buf) = shortBytes .little (checksum .little buf) := by
  have hlittle := wordTotal_lt .little hlength
  have hbig := wordTotal_lt .big hlength
  have hfold : foldSum 65536 (wordTotal .big buf) = swapHalves 256 (foldSum 65536 (wordTotal .little buf)) :=
    foldSum_swapHalves (b := 256) (by decide) _ hbig hlittle (wordTotal_big_modEq heven)
      (wordTotal_big_eq_zero_iff buf)
  have hswap : checksum .big buf = byteSwap (checksum .little buf) := by
    apply BitVec.eq_of_toNat_eq
    rw [toNat_byteSwap, toNat_checksum .big buf hbig, toNat_checksum .little buf hlittle, hfold,
      swapHalves_complement (foldSum_lt (by decide) _ hlittle)]
  refine ⟨hswap, ?_⟩
  rw [hswap, shortBytes_byteSwap]

/-- The two hosts on four bytes. -/
theorem checksum_byte_order_four_bytes :
    shortBytes .big (checksum .big [0x12#8, 0x34#8, 0xFF#8, 0xF0#8]) =
      shortBytes .little (checksum .little [0x12#8, 0x34#8, 0xFF#8, 0xF0#8]) :=
  (checksum_byte_order [0x12#8, 0x34#8, 0xFF#8, 0xF0#8] (by decide) (by decide)).2

end Maestro.Ping
