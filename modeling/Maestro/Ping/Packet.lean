import Maestro.Ping.Internet
import Mathlib.Tactic.IntervalCases

/-!
# The echo request packet of `wifi.c`

`struct ping_pkt` is 64 bytes: type, code, checksum, id and sequence of the ICMP header,
then 56 message bytes. The loop body builds a packet in place, from a zeroed buffer, and
stores the checksum last.
-/

namespace Maestro.Ping

def PING_PKT_S : ℕ := 64

/-- The contents of the buffer `pckt`. -/
abbrev Packet := Vector (BitVec 8) 64

def ICMP_ECHO : BitVec 8 := 8#8

/-- Store an `unsigned short` field at a byte offset. -/
def storeShort (order : ByteOrder) (pckt : Packet) (offset : ℕ) (value : BitVec 16)
    (hoffset : offset + 1 < 64) : Packet :=
  (pckt.set offset (shortBytes order value).1 (by omega)).set (offset + 1) (shortBytes order value).2

/-- The `unsigned short` field at a byte offset. -/
def fieldShort (order : ByteOrder) (pckt : Packet) (offset : ℕ) (hoffset : offset + 1 < 64) : BitVec 16 :=
  loadShort order pckt[offset] pckt[offset + 1]

/-- The loop `msg[i] = i + '0'` over all message bytes but the last; the message begins at
byte 8. -/
def fillMsg (count : ℕ) (pckt : Packet) : Packet :=
  (List.range count).foldl
    (fun pckt i => pckt.setIfInBounds (8 + i) (BitVec.ofNat 8 (i + '0'.toNat))) pckt

/-- The statements that fill the zeroed buffer, up to the checksum. -/
def buildPacket (order : ByteOrder) (pid : ℤ) (msg_count : ℕ) : Packet :=
  let pckt : Packet := Vector.replicate 64 0#8
  let pckt := pckt.set 0 ICMP_ECHO
  let pckt := storeShort order pckt 4 (BitVec.ofInt 16 pid) (by decide)
  let pckt := fillMsg (PING_PKT_S - 8 - 1) pckt
  let pckt := pckt.set 63 0#8
  storeShort order pckt 6 (BitVec.ofNat 16 msg_count) (by decide)

/-- Store the checksum of the whole buffer into its checksum field. -/
def sealPacket (order : ByteOrder) (pckt : Packet) : Packet :=
  storeShort order pckt 2 (checksum order pckt.toList) (by decide)

/-- A well-formed echo request with the given id and sequence: its checksum is zero, and a receiver that
adds up its words finds all ones. -/
structure WellFormed (order : ByteOrder) (pckt : Packet) (id sequence : ℕ) : Prop where
  type : pckt[0] = ICMP_ECHO
  code : pckt[1] = 0#8
  id_eq : (fieldShort order pckt 4 (by decide)).toNat = id
  sequence_eq : (fieldShort order pckt 6 (by decide)).toNat = sequence
  payload : ∀ i (hi : i < 55), pckt[8 + i] = BitVec.ofNat 8 (i + '0'.toNat)
  terminator : pckt[63] = 0#8
  checks : checksum order pckt.toList = 0#16
  sum_eq : internetSum order pckt.toList = 65535

section Stores

variable (order : ByteOrder) (pckt : Packet) (offset : ℕ) (value : BitVec 16) (hoffset : offset + 1 < 64)

/-- A stored field reads back. -/
theorem fieldShort_storeShort_same :
    fieldShort order (storeShort order pckt offset value hoffset) offset hoffset = value := by
  have hne : offset + 1 ≠ offset := by omega
  simp only [fieldShort, storeShort, Vector.getElem_set, if_true, if_neg hne]
  exact loadShort_shortBytes order value

/-- Storing a field leaves the bytes outside it alone. -/
theorem getElem_storeShort (i : ℕ) (hi : i < 64) (hfield : i ≠ offset ∧ i ≠ offset + 1) :
    (storeShort order pckt offset value hoffset)[i] = pckt[i] := by
  rw [storeShort, Vector.getElem_set, if_neg (Ne.symm hfield.2), Vector.getElem_set,
    if_neg (Ne.symm hfield.1)]

/-- Storing a field leaves another field alone. -/
theorem fieldShort_storeShort_of_ne (other : ℕ) (hother : other + 1 < 64)
    (hfields : other + 1 < offset ∨ offset + 1 < other) :
    fieldShort order (storeShort order pckt offset value hoffset) other hother =
      fieldShort order pckt other hother := by
  rw [fieldShort, fieldShort, getElem_storeShort _ _ _ _ _ _ _ (by omega),
    getElem_storeShort _ _ _ _ _ _ _ (by omega)]

/-- The message loop fills its bytes in order and touches no other byte. -/
theorem getElem_fillMsg (count : ℕ) (hcount : count ≤ 55) (i : ℕ) (hi : i < 64) :
    (fillMsg count pckt)[i] =
      if 8 ≤ i ∧ i < 8 + count then BitVec.ofNat 8 (i - 8 + '0'.toNat) else pckt[i] := by
  induction count with
  | zero => rw [if_neg (by omega)]; rfl
  | succ count ih =>
    have hfill : fillMsg (count + 1) pckt =
        (fillMsg count pckt).setIfInBounds (8 + count) (BitVec.ofNat 8 (count + '0'.toNat)) := by
      rw [fillMsg, List.range_succ, List.foldl_append]
      rfl
    simp only [hfill, Vector.getElem_setIfInBounds]
    rw [ih (by omega)]
    by_cases hlast : 8 + count = i
    · rw [if_pos hlast, if_pos (by omega), ← hlast, Nat.add_sub_cancel_left]
    · rw [if_neg hlast]
      have hiff : 8 ≤ i ∧ i < 8 + count ↔ 8 ≤ i ∧ i < 8 + (count + 1) := by omega
      simp only [hiff]

end Stores

/-- A packet as a list, split at its checksum field. -/
theorem toList_eq_header (pckt : Packet) :
    pckt.toList = [pckt[0], pckt[1]] ++ pckt[2] :: pckt[3] :: pckt.toList.drop 4 := by
  have hlength : pckt.toList.length = 64 := Vector.length_toList
  have hcons (i : ℕ) (hi : i < 64) : pckt.toList.drop i = pckt[i] :: pckt.toList.drop (i + 1) := by
    rw [List.drop_eq_getElem_cons (by omega), Vector.getElem_toList]
  rw [← List.drop_zero (l := pckt.toList), hcons 0 (by decide), hcons 1 (by decide),
    hcons 2 (by decide), hcons 3 (by decide)]
  rfl

/-- Storing the checksum replaces the two bytes of its field. -/
theorem toList_sealPacket (order : ByteOrder) (pckt : Packet) :
    (sealPacket order pckt).toList =
      [pckt[0], pckt[1]] ++ (shortBytes order (checksum order pckt.toList)).1 ::
        (shortBytes order (checksum order pckt.toList)).2 :: pckt.toList.drop 4 := by
  rw [sealPacket, storeShort, Vector.toList_set, Vector.toList_set]
  generalize checksum order pckt.toList = value
  rw [toList_eq_header pckt]
  rfl

/-- Sealing a packet whose checksum field is zero makes the checksum of the whole packet zero. -/
theorem checksum_sealPacket (order : ByteOrder) (pckt : Packet) (hfield : pckt[2] = 0#8 ∧ pckt[3] = 0#8) :
    checksum order (sealPacket order pckt).toList = 0#16 := by
  have hheader := toList_eq_header pckt
  rw [hfield.1, hfield.2] at hheader
  have htotal := wordTotal_le order pckt.toList
  rw [Vector.length_toList] at htotal
  have hseal := checksum_sealed order [pckt[0], pckt[1]] (pckt.toList.drop 4) (by simp)
    (by rw [← hheader]; omega)
  rw [← hheader] at hseal
  rw [toList_sealPacket, hseal]

section Built

variable (order : ByteOrder) (pid : ℤ) (msg_count : ℕ)

/-- Every byte of the built packet outside the id and sequence fields. -/
theorem getElem_buildPacket (i : ℕ) (hi : i < 64) (hfields : i < 4 ∨ 8 ≤ i) :
    (buildPacket order pid msg_count)[i] =
      if i = 0 then ICMP_ECHO
      else if 8 ≤ i ∧ i < 63 then BitVec.ofNat 8 (i - 8 + '0'.toNat)
      else 0#8 := by
  have hcount : PING_PKT_S - 8 - 1 = 55 := rfl
  rw [buildPacket, hcount, getElem_storeShort _ _ _ _ _ _ _ (by omega), Vector.getElem_set,
    getElem_fillMsg _ _ (by decide), getElem_storeShort _ _ _ _ _ _ _ (by omega), Vector.getElem_set,
    Vector.getElem_replicate]
  -- The bytes 0, 1 to 3, 8 to 62 and 63 are written by different statements.
  split_ifs <;> first | rfl | omega

/-- The id field holds the low 16 bits of the process id. -/
theorem id_buildPacket :
    fieldShort order (buildPacket order pid msg_count) 4 (by decide) = BitVec.ofInt 16 pid := by
  have hlow (pckt : Packet) (value : BitVec 8) (h : 63 < 64) :
      fieldShort order (pckt.set 63 value h) 4 (by decide) = fieldShort order pckt 4 (by decide) := by
    simp [fieldShort]
  have hfill (pckt : Packet) :
      fieldShort order (fillMsg 55 pckt) 4 (by decide) = fieldShort order pckt 4 (by decide) := by
    simp [fieldShort, getElem_fillMsg]
  rw [buildPacket, fieldShort_storeShort_of_ne _ _ _ _ _ _ _ (by decide), hlow]
  exact (hfill _).trans (fieldShort_storeShort_same _ _ _ _ _)

/-- The sequence field holds the low 16 bits of the count. -/
theorem sequence_buildPacket :
    fieldShort order (buildPacket order pid msg_count) 6 (by decide) = BitVec.ofNat 16 msg_count := by
  rw [buildPacket, fieldShort_storeShort_same]

/-- The checksum of the whole packet is zero. -/
theorem checksum_sealed_buildPacket :
    checksum order (sealPacket order (buildPacket order pid msg_count)).toList = 0#16 := by
  apply checksum_sealPacket
  constructor
  · rw [getElem_buildPacket _ _ _ _ _ (by decide)]
    rfl
  · rw [getElem_buildPacket _ _ _ _ _ (by decide)]
    rfl

/-- Every packet built and sealed is a well-formed echo request, whatever was in the buffer. -/
theorem wellFormed_sealPacket :
    WellFormed order (sealPacket order (buildPacket order pid msg_count))
      (pid % 2 ^ 16).toNat (msg_count % 2 ^ 16) where
  type := by
    rw [sealPacket, getElem_storeShort _ _ _ _ _ _ _ (by decide), getElem_buildPacket _ _ _ _ _ (by decide),
      if_pos rfl]
  code := by
    rw [sealPacket, getElem_storeShort _ _ _ _ _ _ _ (by decide), getElem_buildPacket _ _ _ _ _ (by decide)]
    rfl
  id_eq := by
    rw [sealPacket, fieldShort_storeShort_of_ne _ _ _ _ _ _ _ (by decide), id_buildPacket]
    rw [BitVec.toNat_ofInt]
    rfl
  sequence_eq := by
    rw [sealPacket, fieldShort_storeShort_of_ne _ _ _ _ _ _ _ (by decide), sequence_buildPacket,
      BitVec.toNat_ofNat]
  payload := fun i hi => by
    rw [sealPacket, getElem_storeShort _ _ _ _ _ _ _ (by omega), getElem_buildPacket _ _ _ _ _ (by omega),
      if_neg (by omega), if_pos (by omega), Nat.add_sub_cancel_left]
  terminator := by
    rw [sealPacket, getElem_storeShort _ _ _ _ _ _ _ (by decide), getElem_buildPacket _ _ _ _ _ (by decide)]
    rfl
  checks := checksum_sealed_buildPacket order pid msg_count
  sum_eq := by
    have hlength : (sealPacket order (buildPacket order pid msg_count)).toList.length = 64 := Vector.length_toList
    rw [internetSum_eq_iff (by rw [hlength]; decide) (by rw [hlength])]
    exact checksum_sealed_buildPacket order pid msg_count

end Built

end Maestro.Ping
