import Maestro.Effect.Program
import Maestro.Sensor.Compensate
import Mathlib.Data.Rat.Defs
import Mathlib.Algebra.Order.Ring.Rat
import Mathlib.Tactic.IntervalCases
import Mathlib.Tactic.NormNum.Basic

/-!
# Reading the BMP280 temperature

The raw value is put together from three single-register reads. The device may replace its
sample after each read, and a read may fail with -1, which the code does not look at. The
main result says for which interleavings and failures the raw value is a held sample.
-/

namespace Maestro.Sensor

open Effect

/-- The bus call made by `read_temperature`. -/
inductive BusCall where
  | wiringPiI2CReadReg8 (reg : BitVec 8)

/-- A read is answered with an `int`. -/
abbrev BusCalls : Interface where
  Call := BusCall
  Reply
    | .wiringPiI2CReadReg8 _ => BitVec 32

abbrev BusProg (α : Type) := Prog BusCalls Fault α

def wiringPiI2CReadReg8 (reg : BitVec 8) : BusProg (BitVec 32) :=
  Prog.perform (I := BusCalls) (.wiringPiI2CReadReg8 reg)

def BMP280_REG_TEMP_XLSB : BitVec 8 := 0xFC#8
def BMP280_REG_TEMP_LSB : BitVec 8 := 0xFB#8
def BMP280_REG_TEMP_MSB : BitVec 8 := 0xFA#8

/-- The three replies put together as signed words. -/
def rawTemp (msb lsb xlsb : BitVec 32) : BitVec 32 :=
  msb <<< 12 ||| lsb <<< 4 ||| xlsb.sshiftRight 4

/-- The compensated temperature in degrees, unless the compensation overflows. -/
def compensated (cal : Calibration) (raw : BitVec 32) : Except Fault ℚ :=
  (compensate_temperature cal raw.toInt).map fun temp => (temp : ℚ) / 100

/-- Read the three registers and put the raw value together. -/
def readRaw : BusProg (BitVec 32) := do
  let msb ← wiringPiI2CReadReg8 BMP280_REG_TEMP_MSB
  let lsb ← wiringPiI2CReadReg8 BMP280_REG_TEMP_LSB
  let xlsb ← wiringPiI2CReadReg8 BMP280_REG_TEMP_XLSB
  return rawTemp msb lsb xlsb

/-- The temperature in degrees. -/
def read_temperature (cal : Calibration) : BusProg ℚ := do
  let raw ← readRaw
  Prog.ofExcept (compensated cal raw)

/-- A 20-bit temperature sample. -/
abbrev Sample := BitVec 20

/-- The byte of a sample that a register shows; `XLSB` has it in the upper half. -/
def Sample.register (sample : Sample) (reg : BitVec 8) : BitVec 8 :=
  if reg = BMP280_REG_TEMP_MSB then sample.extractLsb' 12 8
  else if reg = BMP280_REG_TEMP_LSB then sample.extractLsb' 4 8
  else if reg = BMP280_REG_TEMP_XLSB then (sample.extractLsb' 0 4).setWidth 8 <<< 4
  else 0#8

/-- What the device and the bus do: the samples that replace the current one after each read,
and the reads that fail. -/
structure Schedule where
  updates : ℕ → List Sample
  fails : ℕ → Bool

/-- The number of reads so far and the sample held now. -/
structure Device where
  reads : ℕ
  sample : Sample

/-- The device answers from its current sample, or the read fails, and then the updates due
after this read take place. -/
def bmp280 (schedule : Schedule) : Handler BusCalls Device where
  answer
    | .wiringPiI2CReadReg8 reg, device =>
      (if schedule.fails device.reads then BitVec.allOnes 32 else (device.sample.register reg).setWidth 32,
        ⟨device.reads + 1, (schedule.updates device.reads).getLastD device.sample⟩)

/-- The sample held at a read, counted from the device's state on. -/
def Device.sampleAt (schedule : Schedule) (device : Device) : ℕ → Sample
  | 0 => device.sample
  | k + 1 => (schedule.updates (device.reads + k)).getLastD (device.sampleAt schedule k)

/-- The samples held from the first of three reads to the last. -/
def Device.held (schedule : Schedule) (device : Device) : List Sample :=
  device.sample :: schedule.updates device.reads ++ schedule.updates (device.reads + 1)

/-- The raw value is a sample that the device held during the call, and the call returns the
compensation of this sample. -/
def ReadsHeldSample (cal : Calibration) (schedule : Schedule) (device : Device) : Prop :=
  ∃ sample ∈ device.held schedule,
    (readRaw.run (bmp280 schedule) device).1 = .ok (sample.setWidth 32) ∧
      ((read_temperature cal).run (bmp280 schedule) device).1 = compensated cal (sample.setWidth 32)

section Raw

/-- The raw value bit by bit. -/
theorem getLsbD_rawTemp (msb lsb xlsb : BitVec 32) (i : ℕ) (hi : i < 32) :
    (rawTemp msb lsb xlsb).getLsbD i =
      (!decide (i < 12) && msb.getLsbD (i - 12) || !decide (i < 4) && lsb.getLsbD (i - 4) ||
        if 4 + i < 32 then xlsb.getLsbD (4 + i) else xlsb.getLsbD 31) := by
  have hrange : ¬32 ≤ i := by omega
  simp only [rawTemp, BitVec.getLsbD_or, BitVec.getLsbD_shiftLeft, BitVec.getLsbD_sshiftRight, hi, hrange,
    decide_true, decide_false, Bool.true_and, Bool.not_false, BitVec.msb_eq_getLsbD_last]

/-- A failed read leaves the raw value negative. -/
theorem rawTemp_of_failed (msb lsb xlsb : BitVec 32)
    (hfailed : msb = BitVec.allOnes 32 ∨ lsb = BitVec.allOnes 32 ∨ xlsb = BitVec.allOnes 32) :
    (rawTemp msb lsb xlsb).getLsbD 31 = true := by
  rw [getLsbD_rawTemp _ _ _ _ (by decide)]
  rcases hfailed with rfl | rfl | rfl <;> simp [-BitVec.ofNat_eq_ofNat]

/-- Bytes of 8, 8 and 4 bits are put together in this order. -/
theorem rawTemp_of_bytes (high middle : BitVec 8) (low : BitVec 4) :
    rawTemp (high.setWidth 32) (middle.setWidth 32) ((low.setWidth 8 <<< 4).setWidth 32) =
      (high ++ middle ++ low).setWidth 32 := by
  apply BitVec.eq_of_getLsbD_eq
  intro i hi
  simp only [getLsbD_rawTemp _ _ _ _ hi, BitVec.getLsbD_setWidth, BitVec.getLsbD_append,
    BitVec.getLsbD_shiftLeft, hi, decide_true, Bool.true_and]
  -- The three parts occupy the bits from 0, from 4 and from 12 on.
  by_cases hlow : i < 4
  · have hmiddle : i < 12 := by omega
    simp [hlow, hmiddle, show 4 + i < 32 by omega, show 4 + i < 8 by omega, show i < 8 by omega]
  · have hzero : ¬4 + i < 8 := by omega
    by_cases hmiddle : i < 12
    · simp [hlow, hmiddle, hzero, show i - 4 < 32 by omega, show i - 4 < 8 by omega]
    · have hbeyond : middle.getLsbD (i - 4) = false := BitVec.getLsbD_of_ge _ _ (by omega)
      simp [hlow, hmiddle, hzero, hbeyond, show i - 12 < 32 by omega, show ¬i - 4 < 8 by omega,
        show i - 4 - 8 = i - 12 by omega]

/-- Three parts make a sample when they are the parts of this sample. -/
theorem append_eq_sample_iff (high middle : BitVec 8) (low : BitVec 4) (sample : Sample) :
    high ++ middle ++ low = sample ↔
      sample.extractLsb' 12 8 = high ∧ sample.extractLsb' 4 8 = middle ∧ sample.extractLsb' 0 4 = low := by
  constructor
  · intro h
    subst h
    have hhigh : (high ++ middle ++ low).extractLsb' 12 8 = (high ++ middle).extractLsb' 8 8 :=
      BitVec.extractLsb'_append_eq_of_le (by decide)
    have hmiddle : (high ++ middle ++ low).extractLsb' 4 8 = (high ++ middle).extractLsb' 0 8 :=
      BitVec.extractLsb'_append_eq_of_le (by decide)
    exact ⟨hhigh.trans BitVec.extractLsb'_append_eq_left, hmiddle.trans BitVec.extractLsb'_append_eq_right,
      BitVec.extractLsb'_append_eq_right⟩
  · intro h
    obtain ⟨rfl, rfl, rfl⟩ := h
    have hupper : sample.extractLsb' 12 8 ++ sample.extractLsb' 4 8 = sample.extractLsb' 4 16 :=
      BitVec.extractLsb'_append_extractLsb'_eq_extractLsb' (by decide)
    rw [hupper]
    exact @BitVec.extractLsb'_append_extractLsb' 16 4 sample

/-- Widening a sample loses nothing. -/
theorem setWidth_sample_inj (first second : Sample) :
    first.setWidth 32 = second.setWidth 32 ↔ first = second := by
  refine ⟨fun h => ?_, fun h => congrArg _ h⟩
  have hback := congrArg (BitVec.setWidth 20) h
  simpa using hback

end Raw

section Call

variable (schedule : Schedule) (device : Device)

/-- The reply to a read of the current sample. -/
def Schedule.reply (k : ℕ) (byte : BitVec 8) : BitVec 32 :=
  if schedule.fails k then BitVec.allOnes 32 else byte.setWidth 32

/-- The three reads see the samples held at their time, unless they fail. -/
theorem run_readRaw :
    (readRaw.run (bmp280 schedule) device).1 = .ok (rawTemp
      (schedule.reply (device.reads + 0) ((device.sampleAt schedule 0).extractLsb' 12 8))
      (schedule.reply (device.reads + 1) ((device.sampleAt schedule 1).extractLsb' 4 8))
      (schedule.reply (device.reads + 2)
        (((device.sampleAt schedule 2).extractLsb' 0 4).setWidth 8 <<< 4))) := rfl

/-- The parts of a sample agree with what the three reads see. -/
def Agrees (sample : Sample) : Prop :=
  sample.extractLsb' 12 8 = (device.sampleAt schedule 0).extractLsb' 12 8 ∧
    sample.extractLsb' 4 8 = (device.sampleAt schedule 1).extractLsb' 4 8 ∧
    sample.extractLsb' 0 4 = (device.sampleAt schedule 2).extractLsb' 0 4

/-- The raw value is a given sample exactly when no read fails and the sample agrees with all
three reads. -/
theorem run_readRaw_eq_iff (sample : Sample) :
    (readRaw.run (bmp280 schedule) device).1 = .ok (sample.setWidth 32) ↔
      (∀ k < 3, schedule.fails (device.reads + k) = false) ∧ Agrees schedule device sample := by
  rw [run_readRaw, Except.ok.injEq]
  by_cases hfails : ∀ k < 3, schedule.fails (device.reads + k) = false
  · have hreply (k : ℕ) (hk : k < 3) (byte : BitVec 8) :
        schedule.reply (device.reads + k) byte = byte.setWidth 32 := by
      rw [Schedule.reply, hfails k hk]
      rfl
    rw [hreply 0 (by decide), hreply 1 (by decide), hreply 2 (by decide), rawTemp_of_bytes,
      setWidth_sample_inj, append_eq_sample_iff, and_iff_right hfails, Agrees]
  · refine iff_of_false (fun heq => ?_) fun h => hfails h.1
    -- A reply of -1 sets the sign bit of the raw value; no sample reaches this bit.
    push Not at hfails
    obtain ⟨k, hk, hfailed⟩ := hfails
    have hreply (byte : BitVec 8) : schedule.reply (device.reads + k) byte = BitVec.allOnes 32 := by
      rw [Schedule.reply, if_pos (Bool.not_eq_false _ ▸ hfailed)]
    have hsign := congrArg (BitVec.getLsbD · 31) heq
    have hpositive : (sample.setWidth 32).getLsbD 31 = false := by
      rw [BitVec.getLsbD_setWidth, BitVec.getLsbD_of_ge sample 31 (by decide), Bool.and_false]
    simp only [hpositive] at hsign
    rw [rawTemp_of_failed] at hsign
    · exact absurd hsign (by decide)
    · interval_cases k
      · exact .inl (hreply _)
      · exact .inr (.inl (hreply _))
      · exact .inr (.inr (hreply _))

/-- What the call returns is the compensation of its raw value. -/
theorem run_read_temperature (cal : Calibration) (raw : BitVec 32)
    (hraw : (readRaw.run (bmp280 schedule) device).1 = .ok raw) :
    ((read_temperature cal).run (bmp280 schedule) device).1 = compensated cal raw := by
  rw [read_temperature, Prog.run_bind_of_ok _ _ (Prod.ext hraw rfl), Prog.run_ofExcept]

end Call

/-- The temperature is that of a held sample exactly when no read fails and some held sample has
the upper byte seen by the first read, the middle byte seen by the second and the rest seen by
the third. -/
theorem readsHeldSample_iff (cal : Calibration) (schedule : Schedule) (device : Device) :
    ReadsHeldSample cal schedule device ↔
      (∀ k < 3, schedule.fails (device.reads + k) = false) ∧
        ∃ sample ∈ device.held schedule, Agrees schedule device sample := by
  constructor
  · intro hheld
    obtain ⟨sample, hmem, hraw, _⟩ := hheld
    rw [run_readRaw_eq_iff] at hraw
    exact ⟨hraw.1, sample, hmem, hraw.2⟩
  · intro h
    obtain ⟨hfails, sample, hmem, hagrees⟩ := h
    have hraw := (run_readRaw_eq_iff schedule device sample).mpr ⟨hfails, hagrees⟩
    exact ⟨sample, hmem, hraw, run_read_temperature schedule device cal _ hraw⟩

/-- An update after the first read gives 25.18 degrees, although both samples held mean 26.46. -/
theorem temperature_of_no_held_sample :
    ¬∀ (cal : Calibration) (schedule : Schedule) (device : Device), ∃ sample ∈ device.held schedule,
      ((read_temperature cal).run (bmp280 schedule) device).1 = compensated cal (sample.setWidth 32) := by
  intro hall
  obtain ⟨sample, hmem, hvalue⟩ := hall ⟨27504#16, 26435#16, BitVec.ofInt 16 (-1000)⟩
    ⟨fun k => if k = 0 then [0x80000#20] else [], fun _ => false⟩ ⟨0, 0x7FFFF#20⟩
  have hraw (raw : BitVec 32) (temp : ℤ) (htemp : compensate_temperature
      ⟨27504#16, 26435#16, BitVec.ofInt 16 (-1000)⟩ raw.toInt = .ok temp) :
      compensated ⟨27504#16, 26435#16, BitVec.ofInt 16 (-1000)⟩ raw = .ok ((temp : ℚ) / 100) := by
    rw [compensated, htemp]
    rfl
  rw [run_read_temperature _ _ _ 0x7F000#32 rfl, hraw _ 2518 (by decide)] at hvalue
  have hsample : sample = 0x7FFFF#20 ∨ sample = 0x80000#20 := by simpa [Device.held] using hmem
  rcases hsample with rfl | rfl
  · rw [hraw _ 2646 (by decide)] at hvalue
    norm_num at hvalue
  · rw [hraw _ 2646 (by decide)] at hvalue
    norm_num at hvalue

end Maestro.Sensor
