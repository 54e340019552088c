import Maestro.Effect.Course

/-!
# The I2C test of `CombineCode`

`i2cTest` opens a device on the bus and reads one value. A device that cannot be opened ends
the program. The part of the source that writes a value follows a branch whose two sides
both return, so it never runs.
-/

namespace Maestro.Combine.I2c

open Effect

/-- What the I2C test prints; the first two are texts for `perror`. -/
inductive I2cLine where
  | connectFailed
  | readFailed
  | value (readValue : ℤ)
  | readSuccess
deriving DecidableEq

/-- A nonnegative `int` as `%x` prints it. -/
def hex (value : ℤ) : String := String.ofList (Nat.toDigits 16 value.toNat)

/-- The printed text. -/
def I2cLine.text : I2cLine → String
  | connectFailed => "I2C 장치 연결 실패"
  | readFailed => "\x1b[31mI2C Read Fail\x1b[0m\n"
  | value readValue => "읽은 값: 0x" ++ hex readValue ++ "\n"
  | readSuccess => "\x1b[32mI2C Read Success\x1b[0m\n"

/-- The calls of the I2C test, with the write that the source never reaches. -/
inductive I2cCall where
  | wiringPiI2CSetupInterface (device : String) (address : ℕ)
  | wiringPiI2CRead (fd : ℤ)
  | wiringPiI2CWrite (fd value : ℤ)
  | perror (line : I2cLine)
  | printf (line : I2cLine)

/-- wiringPi answers with an `int`, negative for an error. -/
abbrev I2cCalls : Interface where
  Call := I2cCall
  Reply
    | .wiringPiI2CSetupInterface _ _ => ℤ
    | .wiringPiI2CRead _ => ℤ
    | .wiringPiI2CWrite _ _ => ℤ
    | _ => Unit

abbrev I2cProg (ε α : Type) := Prog I2cCalls ε α

section Calls

variable {ε : Type}

def wiringPiI2CSetupInterface (device : String) (address : ℕ) : I2cProg ε ℤ :=
  Prog.perform (I := I2cCalls) (.wiringPiI2CSetupInterface device address)

def wiringPiI2CRead (fd : ℤ) : I2cProg ε ℤ := Prog.perform (I := I2cCalls) (.wiringPiI2CRead fd)

def perror (line : I2cLine) : I2cProg ε Unit := Prog.perform (I := I2cCalls) (.perror line)

def printf (line : I2cLine) : I2cProg ε Unit := Prog.perform (I := I2cCalls) (.printf line)

end Calls

def deviceAddress : ℕ := 0x27

/-- The test. -/
def i2cTest : I2cProg Exit ℤ := do
  let fd ← wiringPiI2CSetupInterface "/dev/i2c-1" deviceAddress
  if fd < 0 then do
    perror .connectFailed
    Prog.exit 1
  else do
    let readValue ← wiringPiI2CRead fd
    if readValue < 0 then do
      perror .readFailed
      return 0
    else do
      printf (.value readValue)
      printf .readSuccess
      return 1

/-- The call that opens the device. -/
abbrev openCall : I2cCall := .wiringPiI2CSetupInterface "/dev/i2c-1" deviceAddress

/-- The three courses of the test. -/
theorem course_i2cTest {log : List (Exchange I2cCalls)} {result : Except Exit ℤ}
    (hcourse : i2cTest.Course log result) :
    (∃ fd : ℤ, fd < 0 ∧ log = [⟨openCall, fd⟩, ⟨.perror .connectFailed, ()⟩] ∧ result = .error ⟨1⟩) ∨
      ∃ fd : ℤ, 0 ≤ fd ∧ ∃ readValue : ℤ,
        (readValue < 0 ∧ result = .ok 0 ∧
          log = [⟨openCall, fd⟩, ⟨.wiringPiI2CRead fd, readValue⟩, ⟨.perror .readFailed, ()⟩]) ∨
        0 ≤ readValue ∧ result = .ok 1 ∧
          log = [⟨openCall, fd⟩, ⟨.wiringPiI2CRead fd, readValue⟩, ⟨.printf (.value readValue), ()⟩,
            ⟨.printf .readSuccess, ()⟩] := by
  obtain ⟨fd, log, rfl, hcourse⟩ := hcourse
  change ℤ at fd
  change (if fd < 0 then _ else _ : I2cProg Exit ℤ).Course log result at hcourse
  by_cases hfd : fd < 0
  · rw [if_pos hfd] at hcourse
    obtain ⟨_, log, rfl, rfl, rfl⟩ := hcourse
    exact .inl ⟨fd, hfd, rfl, rfl⟩
  · rw [if_neg hfd] at hcourse
    obtain ⟨readValue, log, rfl, hcourse⟩ := hcourse
    change ℤ at readValue
    change (if readValue < 0 then _ else _ : I2cProg Exit ℤ).Course log result at hcourse
    refine .inr ⟨fd, Int.not_lt.mp hfd, readValue, ?_⟩
    by_cases hread : readValue < 0
    · rw [if_pos hread] at hcourse
      obtain ⟨_, log, rfl, rfl, rfl⟩ := hcourse
      exact .inl ⟨hread, rfl, rfl⟩
    · rw [if_neg hread] at hcourse
      obtain ⟨_, log, rfl, _, log, rfl, rfl, rfl⟩ := hcourse
      exact .inr ⟨Int.not_lt.mp hread, rfl, rfl⟩

end Maestro.Combine.I2c
