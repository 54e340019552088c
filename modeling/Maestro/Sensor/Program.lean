import Maestro.Effect.Protocol
import Maestro.Sensor.Bmp280
import Maestro.Sensor.Exact
import Maestro.Word.Rounding

/-!
# The whole of `SPITest2.c`

The program opens the device, checks its id, reads the calibration, sets the device up, and then
measures and prints without end. A temperature is a count of hundredths, which the program divides
by 100 in a `double`, returns as a `float`, and prints with two decimals: the printed text always
shows the count itself. A protocol says what the program may do and print in each situation,
whatever the bus answers.
-/

namespace Maestro.Sensor

open Effect Word

/-- The value that `read_temperature` returns for a temperature. -/
def celsius (temperature : ℚ) : ℚ := toFloat 24 (toFloat 53 temperature)

/-- What the conversion `%.2f` shows, in hundredths. -/
def hundredths (value : ℚ) : ℤ := nearest (value * 100)

section Print

/-- A step of a computation that has come to its end. -/
theorem of_bind_ok {α β : Type} {first : Except Fault α} {next : α → Except Fault β} {value : β}
    (hbind : first >>= next = .ok value) : ∃ a, first = .ok a ∧ next a = .ok value := by
  cases first with
  | error => cases hbind
  | ok a => exact ⟨a, rfl, hbind⟩

/-- What is an `int32_t` is in its range. -/
theorem int32_eq_ok {value result : ℤ} (hint : int32 value = .ok result) : result = value ∧ InInt32 result := by
  rw [int32] at hint
  split at hint
  case isTrue hin =>
    cases hint
    exact ⟨rfl, hin⟩
  case isFalse => cases hint

/-- A compensated temperature is a quotient by 256 of an `int32_t`. -/
theorem compensated_range {cal : Calibration} {adc_T temp : ℤ} (htemp : compensate_temperature cal adc_T = .ok temp) :
    -2 ^ 23 ≤ temp ∧ temp < 2 ^ 23 := by
  rw [compensate_temperature] at htemp
  obtain ⟨_, -, htemp⟩ := of_bind_ok htemp
  obtain ⟨_, -, htemp⟩ := of_bind_ok htemp
  obtain ⟨_, -, htemp⟩ := of_bind_ok htemp
  obtain ⟨_, -, htemp⟩ := of_bind_ok htemp
  obtain ⟨_, -, htemp⟩ := of_bind_ok htemp
  obtain ⟨_, -, htemp⟩ := of_bind_ok htemp
  obtain ⟨_, -, htemp⟩ := of_bind_ok htemp
  obtain ⟨_, -, htemp⟩ := of_bind_ok htemp
  obtain ⟨rounded, hrounded, htemp⟩ := of_bind_ok htemp
  cases htemp
  obtain ⟨-, hrange⟩ := int32_eq_ok hrounded
  rw [InInt32] at hrange
  rw [Int.shiftRight_eq_div_pow]
  omega

/-- For every calibration and every raw value whose compensation is defined: the line that is printed
shows the compensated temperature to the last digit, although it goes through a `double` and a
`float`. -/
theorem printed_exactly (cal : Calibration) (raw : BitVec 32) (temp : ℤ)
    (htemp : compensate_temperature cal raw.toInt = .ok temp) :
    hundredths (celsius ((temp : ℚ) / 100)) = temp := by
  obtain ⟨hlow, hhigh⟩ := compensated_range htemp
  have hlow' : (-2 ^ 23 : ℚ) ≤ temp := by exact_mod_cast hlow
  have hhigh' : (temp : ℚ) < 2 ^ 23 := by exact_mod_cast hhigh
  have hsize : |(temp : ℚ) / 100| ≤ 83887 := by
    norm_num at hlow' hhigh'
    rw [abs_le]
    constructor <;> linarith
  have hdouble : |toFloat 53 ((temp : ℚ) / 100) - temp / 100| ≤ 1 / 2 ^ 37 := by
    refine (abs_toFloat_sub_le 53 _ (k := 17) (hsize.trans_lt (by norm_num))).trans ?_
    norm_num
  have hbelow : |toFloat 53 ((temp : ℚ) / 100)| < 2 ^ (17 : ℤ) := by
    have htriangle := abs_add_le (toFloat 53 ((temp : ℚ) / 100) - temp / 100) (temp / 100)
    rw [sub_add_cancel] at htriangle
    norm_num at hdouble ⊢
    linarith
  have hfloat : |celsius ((temp : ℚ) / 100) - toFloat 53 (temp / 100)| ≤ 1 / 2 ^ 8 := by
    refine (abs_toFloat_sub_le 24 _ hbelow).trans ?_
    norm_num
  apply nearest_mul_eq _ (by norm_num)
  have hboth := abs_sub_le (celsius ((temp : ℚ) / 100)) (toFloat 53 (temp / 100)) (temp / 100)
  norm_num at hdouble hfloat ⊢
  linarith

/-- The temperature of a sample that the printed line shows: 25.08 degrees. -/
theorem printed_exactly_of_sample : hundredths (celsius ((2508 : ℤ) / 100)) = 2508 :=
  printed_exactly ⟨27504#16, 26435#16, BitVec.ofInt 16 (-1000)⟩ 519888#32 2508 (by decide)

end Print

/-- The lines of the program. -/
inductive SensorLine where
  | wrongId (id : BitVec 32)
  | temperature (value : ℚ)
deriving DecidableEq

/-- The calls of `main`; a temperature is read on the device. -/
inductive MainCall where
  | wiringPiI2CSetup (address : BitVec 8)
  | wiringPiI2CReadReg8 (fd : ℤ) (reg : BitVec 8)
  | wiringPiI2CReadReg16 (fd : ℤ) (reg : BitVec 8)
  | wiringPiI2CWriteReg8 (fd : ℤ) (reg value : BitVec 8)
  | perror (text : String)
  | printf (line : SensorLine)
  | sleep (seconds : ℕ)

abbrev MainCalls : Interface where
  Call := MainCall
  Reply
    | .wiringPiI2CSetup _ => ℤ
    | .wiringPiI2CReadReg8 _ _ => BitVec 32
    | .wiringPiI2CReadReg16 _ _ => BitVec 32
    | .wiringPiI2CWriteReg8 _ _ _ => ℤ
    | _ => Unit

/-- The parts of the program: the reads of a temperature have the descriptor. -/
inductive Part where
  | main
  | device (fd : ℤ)
deriving DecidableEq

abbrev Part.Calls : Part → Interface
  | main => MainCalls
  | device _ => BusCalls

abbrev WholeCalls : Interface := Interface.family Part.Calls

abbrev WholeProg (α : Type) := Prog WholeCalls Fault α

def BMP280_ADDRESS : BitVec 8 := 0x76
def BMP280_REG_CONTROL : BitVec 8 := 0xF4
def BMP280_REG_ID : BitVec 8 := 0xD0

section Program

/-- A call of `main` itself. -/
def own (request : MainCall) : WholeProg (MainCalls.Reply request) :=
  Prog.perform (I := WholeCalls) ⟨.main, request⟩

/-- One measurement. -/
def measure (fd : ℤ) (cal : Calibration) : WholeProg Unit := do
  let temperature ← (read_temperature cal).embed (I := Part.Calls) (.device fd)
  let _ ← own (.printf (.temperature (celsius temperature)))
  own (.sleep 1)

/-- The calibration from the three replies. -/
def calibration (first second third : BitVec 32) : Calibration :=
  ⟨first.setWidth 16, second.setWidth 16, third.setWidth 16⟩

/-- The calibration, read over the bus. -/
def readCalibration (fd : ℤ) : WholeProg Calibration := do
  let dig_T1 ← own (.wiringPiI2CReadReg16 fd 0x88)
  let dig_T2 ← own (.wiringPiI2CReadReg16 fd 0x8A)
  let dig_T3 ← own (.wiringPiI2CReadReg16 fd 0x8C)
  return calibration dig_T1 dig_T2 dig_T3

/-- The program, with fuel for its measurements; `none` means that it is still measuring. -/
def main (fuel : ℕ) : WholeProg (Option ℤ) := do
  let fd ← own (.wiringPiI2CSetup BMP280_ADDRESS)
  if fd < (0 : ℤ) then
    let _ ← own (.perror "I2C 장치 연결 실패")
    return some 1
  else do
    let id ← own (.wiringPiI2CReadReg8 fd BMP280_REG_ID)
    if id ≠ 0x58#32 then
      let _ ← own (.printf (.wrongId id))
      return some 1
    else do
      let cal ← readCalibration fd
      let _ ← own (.wiringPiI2CWriteReg8 fd BMP280_REG_CONTROL 0x27)
      let left ← Prog.whileDo (fun _ => true) (fun _ => measure fd cal) fuel ()
      return left.map fun _ => 0

end Program

/-- The replies of the calibration registers are those of `read_calibration_data`. -/
theorem calibration_eq (replies : BitVec 8 → BitVec 32) :
    calibration (replies 0x88) (replies 0x8A) (replies 0x8C) = read_calibration_data replies := rfl

/-- Where the program is: the reply of the setup, the id that was read, the replies of the calibration
registers, whether the device was set up, and the replies to the reads since the last line. -/
structure Sensing where
  fd : Option ℤ
  id : Option (BitVec 32)
  words : List (BitVec 32)
  configured : Bool
  bytes : List (BitVec 32)

/-- The compensation of the replies so far. -/
def Sensing.outcome (s : Sensing) : Option (Except Fault ℤ) :=
  match s.words, s.bytes with
  | [first, second, third], [msb, lsb, xlsb] =>
    some (compensate_temperature (calibration first second third) (rawTemp msb lsb xlsb).toInt)
  | _, _ => none

/-- The setup has failed, or the device has shown another id. -/
def Sensing.Rejected (s : Sensing) : Prop :=
  (∃ fd < 0, s.fd = some fd) ∨ ∃ id ≠ 0x58#32, s.id = some id

/-- The registers of a temperature, in the order in which they are read. -/
def temperatureRegs : List (BitVec 8) := [BMP280_REG_TEMP_MSB, BMP280_REG_TEMP_LSB, BMP280_REG_TEMP_XLSB]

/-- The registers of the calibration. -/
def calibrationRegs : List (BitVec 8) := [0x88, 0x8A, 0x8C]

/-- What the program may do. The device is opened once and its id read once; the calibration is read once,
register by register, from a device that has shown the right id; the device is set up after that; a
temperature is read after that, register by register, and what is printed is what the replies compensate
to. -/
def sensing : Protocol WholeCalls Sensing where
  next s exchange :=
    match exchange with
    | ⟨⟨.main, .wiringPiI2CSetup _⟩, fd⟩ => { s with fd := some fd }
    | ⟨⟨.main, .wiringPiI2CReadReg8 _ _⟩, id⟩ => { s with id := some id }
    | ⟨⟨.main, .wiringPiI2CReadReg16 _ _⟩, word⟩ => { s with words := s.words ++ [word] }
    | ⟨⟨.main, .wiringPiI2CWriteReg8 _ _ _⟩, _⟩ => { s with configured := true }
    | ⟨⟨.main, .printf _⟩, _⟩ => { s with bytes := [] }
    | ⟨⟨.device _, .wiringPiI2CReadReg8 _⟩, byte⟩ => { s with bytes := s.bytes ++ [byte] }
    | _ => s
  Allows s exchange :=
    match exchange.request with
    | ⟨.main, .wiringPiI2CSetup address⟩ => s.fd = none ∧ address = BMP280_ADDRESS
    | ⟨.main, .wiringPiI2CReadReg8 fd reg⟩ => s.fd = some fd ∧ 0 ≤ fd ∧ s.id = none ∧ reg = BMP280_REG_ID
    | ⟨.main, .wiringPiI2CReadReg16 fd reg⟩ =>
      s.fd = some fd ∧ s.id = some 0x58#32 ∧ calibrationRegs[s.words.length]? = some reg
    | ⟨.main, .wiringPiI2CWriteReg8 fd reg value⟩ =>
      s.fd = some fd ∧ s.words.length = 3 ∧ s.configured = false ∧ reg = BMP280_REG_CONTROL ∧ value = 0x27
    | ⟨.device fd, .wiringPiI2CReadReg8 reg⟩ =>
      s.fd = some fd ∧ s.configured = true ∧ temperatureRegs[s.bytes.length]? = some reg
    | ⟨.main, .printf (.temperature value)⟩ =>
      ∃ temp : ℤ, s.outcome = some (.ok temp) ∧ hundredths value = temp
    | ⟨.main, .printf (.wrongId id)⟩ => s.id = some id ∧ id ≠ 0x58#32
    | ⟨.main, .perror _⟩ => ∃ fd < 0, s.fd = some fd
    | ⟨.main, .sleep _⟩ => s.configured = true

/-- The situation at the start. -/
def begin : Sensing := ⟨none, none, [], false, []⟩

/-- Status 1 comes after a failed setup or a wrong id, before any calibration; otherwise the program is
measuring. There is no other status. -/
def Returned (value : Option ℤ) (s : Sensing) : Prop :=
  value = none ∧ ¬s.Rejected ∧ s.configured = true ∨
    value = some 1 ∧ s.Rejected ∧ s.words = [] ∧ s.configured = false

/-- A stop in the middle of a measurement: the compensation of its replies overflows. -/
def Stopped (_reason : Fault) (s : Sensing) : Prop := ¬s.Rejected ∧ s.outcome = some (.error .overflow)

section Main

/-- A device that is set up, with the replies to the reads since the last line. -/
def ready (fd : ℤ) (first second third : BitVec 32) (bytes : List (BitVec 32)) : Sensing :=
  ⟨some fd, some 0x58#32, [first, second, third], true, bytes⟩

/-- A device that was opened and has shown the right id is not rejected. -/
theorem not_rejected {s : Sensing} {fd : ℤ} (hopened : s.fd = some fd) (hfd : 0 ≤ fd) (hid : s.id = some 0x58#32) :
    ¬s.Rejected := by
  rintro (⟨failed, hfailed, heq⟩ | ⟨other, hother, heq⟩)
  · rw [hopened] at heq
    cases heq
    exact absurd hfd (not_le.mpr hfailed)
  · rw [hid] at heq
    cases heq
    exact hother rfl

variable (fd : ℤ) (first second third : BitVec 32)

/-- The reads of a raw value. -/
theorem meets_readRaw :
    readRaw.Meets (sensing.member (I := Part.Calls) (.device fd))
      (fun raw after => ∃ msb lsb xlsb, raw = rawTemp msb lsb xlsb ∧
        after = ready fd first second third [msb, lsb, xlsb]) Stopped (ready fd first second third []) :=
  fun msb => ⟨⟨rfl, rfl, rfl⟩, fun lsb => ⟨⟨rfl, rfl, rfl⟩, fun xlsb => ⟨⟨rfl, rfl, rfl⟩,
    ⟨msb, lsb, xlsb, rfl, rfl⟩⟩⟩⟩

/-- A measurement prints what its replies compensate to, or ends the program. -/
theorem meets_measure (hfd : 0 ≤ fd) :
    (measure fd (calibration first second third)).Meets sensing
      (fun _ after => after = ready fd first second third []) Stopped (ready fd first second third []) := by
  rw [measure, Prog.meets_bind, Prog.meets_embed, read_temperature]
  refine (meets_readRaw fd first second third).bind fun raw after hread => ?_
  generalize hshown : compensated (calibration first second third) raw = shown
  obtain ⟨msb, lsb, xlsb, hraw, hafter⟩ := hread
  have houtcome : after.outcome = some (compensate_temperature (calibration first second third) raw.toInt) := by
    rw [hafter, hraw]
    rfl
  have hcleared : { after with bytes := [] } = ready fd first second third [] := by
    rw [hafter]
    rfl
  rw [compensated] at hshown
  cases htemp : compensate_temperature (calibration first second third) raw.toInt with
  | error reason =>
    rw [htemp] at hshown houtcome
    cases reason
    cases hshown
    exact ⟨not_rejected (by rw [hafter, ready]) hfd (by rw [hafter, ready]), houtcome⟩
  | ok temp =>
    rw [htemp] at hshown houtcome
    cases hshown
    refine fun _ => ⟨⟨temp, houtcome, printed_exactly _ raw temp htemp⟩, fun _ => ⟨?_, hcleared⟩⟩
    change { after with bytes := [] }.configured = true
    rw [hcleared, ready]

/-- The program from the point where the device is known. -/
theorem meets_known (hfd : 0 ≤ fd) (fuel : ℕ) :
    (do
      let cal ← readCalibration fd
      let _ ← own (.wiringPiI2CWriteReg8 fd BMP280_REG_CONTROL 0x27)
      let left ← Prog.whileDo (fun _ => true) (fun _ => measure fd cal) fuel ()
      return left.map fun _ => 0 : WholeProg (Option ℤ)).Meets sensing Returned Stopped
      ⟨some fd, some 0x58#32, [], false, []⟩ := by
  intro (first : BitVec 32)
  refine ⟨⟨rfl, rfl, rfl⟩, fun (second : BitVec 32) => ⟨⟨rfl, rfl, rfl⟩, fun (third : BitVec 32) =>
    ⟨⟨rfl, rfl, rfl⟩, fun _ => ⟨⟨rfl, rfl, rfl, rfl, rfl⟩, ?_⟩⟩⟩⟩
  have hloop : (Prog.whileDo (fun _ => true) (fun _ => measure fd (calibration first second third)) fuel ()).Meets
      sensing (fun left after => ∃ a : Unit, after = ready fd first second third [] ∧
        left = if true then none else some a) Stopped (ready fd first second third []) := by
    refine Prog.Meets.whileDo (fun _ after => after = ready fd first second third []) ?_ fuel rfl
    intro _ after hafter _
    rw [hafter]
    exact meets_measure fd first second third hfd
  refine hloop.bind fun left after hafter => ?_
  obtain ⟨-, rfl, rfl⟩ := hafter
  exact .inl ⟨rfl, not_rejected rfl hfd rfl, rfl⟩

/-- The program does what it may do, and ends as described. -/
theorem meets_main (fuel : ℕ) : (main fuel).Meets sensing Returned Stopped begin := by
  intro (fd : ℤ)
  refine ⟨⟨rfl, rfl⟩, ?_⟩
  change (if fd < 0 then _ else _ : WholeProg (Option ℤ)).Meets _ _ _
    (⟨some fd, none, [], false, []⟩ : Sensing)
  by_cases hfd : fd < 0
  · rw [if_pos hfd]
    exact fun _ => ⟨⟨fd, hfd, rfl⟩, .inr ⟨rfl, .inl ⟨fd, hfd, rfl⟩, rfl, rfl⟩⟩
  · rw [if_neg hfd]
    intro (id : BitVec 32)
    refine ⟨⟨rfl, not_lt.mp hfd, rfl, rfl⟩, ?_⟩
    change (if id ≠ 0x58#32 then _ else _ : WholeProg (Option ℤ)).Meets _ _ _
      (⟨some fd, some id, [], false, []⟩ : Sensing)
    by_cases hid : id = 0x58#32
    · rw [if_neg (not_not.mpr hid), hid]
      exact meets_known fd (not_lt.mp hfd) fuel
    · rw [if_pos hid]
      exact fun _ => ⟨⟨rfl, hid⟩, .inr ⟨rfl, .inr ⟨id, hid, rfl⟩, rfl, rfl⟩⟩

end Main

/-- A run of the program: its exchanges, and how it ends. -/
structure Run (fuel : ℕ) where
  log : List (Exchange WholeCalls)
  result : Except Fault (Option ℤ)
  course : (main fuel).Course log result

end Maestro.Sensor
