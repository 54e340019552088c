import Maestro.Effect.Total
import Maestro.Gpio.Block

/-!
# The register-level pin test

`GPIOTest.c` and its copy `Gpio_Test` make each of the pins 0 to 26 an output, drive it
high and low, and sample its level after each. The output bit is merged into the function
field, and the whole function-select register is zeroed after each pin. `LED.c` prepares
its two pins by merging bits in the same way. The programs start once `/dev/mem` is mapped.
-/

namespace Maestro.Gpio.PinScan

open Effect Word

def GPFSEL0 : ℕ := 0x00
def GPSET0 : ℕ := 0x1c
def GPCLR0 : ℕ := 0x28
def GPLEV0 : ℕ := 0x34
def GPFSEL1 : ℕ := 0x04
def GPFSEL2 : ℕ := 0x08

/-- What the pin tests print: the number of a faulty pin, the verdict, and the banner lines of
`Gpio_Test`. -/
inductive ScanLine where
  | start
  | pinTestStart
  | pin (j : ℕ)
  | fail
  | success
  | finish
deriving DecidableEq

/-- The printed text; the misspelt words are those of the source. -/
def ScanLine.text : ScanLine → String
  | start => "************HardWare Test Start************\n"
  | pinTestStart => "GPIO Pin Test Start : "
  | pin j => toString j ++ ", "
  | fail => "fail \n"
  | success => "sucess \n"
  | finish => "GPIO Finsih \n"

abbrev ScanProg (α : Type) := Prog (Mmio ScanLine) Empty α

/-- `*reg |= mask`. -/
def orReg (offset : ℕ) (mask : BitVec 32) : ScanProg Unit := do
  let word ← readReg offset
  writeReg offset (word ||| mask)

/-- `*reg &= mask`. -/
def andReg (offset : ℕ) (mask : BitVec 32) : ScanProg Unit := do
  let word ← readReg offset
  writeReg offset (word &&& mask)

/-- Sample the level of pin `j`. -/
def sampleLevel (j : ℕ) : ScanProg (BitVec 32) := do
  let word ← readReg (GPLEV0 / 4)
  return word >>> j &&& 1#32

/-- Print the pin and set `check` if its level is wrong. -/
def report (wrong : Bool) (j : ℕ) (check : ℕ) : ScanProg ℕ :=
  if wrong then do
    printf (.pin j)
    return 1
  else return check

/-- The test of one pin, the same in all three branches of the loop but for the register. -/
def testPin (gpfsel k j check : ℕ) : ScanProg ℕ := do
  orReg (gpfsel / 4) (1#32 <<< k)
  orReg (GPSET0 / 4) (1#32 <<< j)
  let pin ← sampleLevel j
  let check ← report (pin == 0#32) j check
  sleep 1
  orReg (GPCLR0 / 4) (1#32 <<< j)
  let pin ← sampleLevel j
  let check ← report (pin != 0#32) j check
  sleep 1
  andReg (gpfsel / 4) 0#32
  andReg (GPSET0 / 4) 0#32
  andReg (GPCLR0 / 4) 0#32
  return check

/-- The loop variables besides the pin number. -/
structure Scan where
  k : ℕ
  check : ℕ
deriving DecidableEq

/-- One iteration of the loop over the pins. -/
def scanPin (scan : Scan) (j : ℕ) : ScanProg Scan :=
  if j < 10 then do
    let check ← testPin GPFSEL0 scan.k j scan.check
    return ⟨scan.k + 3, check⟩
  else if j < 20 then do
    let k := if j = 10 then 0 else scan.k
    let check ← testPin GPFSEL1 k j scan.check
    return ⟨k + 3, check⟩
  else do
    let k := if j = 20 then 0 else scan.k
    let check ← testPin GPFSEL2 k j scan.check
    return ⟨k + 3, check⟩

/-- The loop over the pins 0 to 26, which the outer loop runs once. -/
def pinLoop : ScanProg Scan :=
  (List.range 1).foldlM (fun scan _ => (List.range 27).foldlM scanPin scan) ⟨0, 0⟩

/-- The verdict line. -/
def verdict (scan : Scan) : ScanProg Unit :=
  if scan.check ≠ 0 then printf .fail else printf .success

/-- `main` of `GPIOTest.c`. -/
def main : ScanProg Unit := do
  let scan ← pinLoop
  verdict scan

/-- The copy of the test in `ExampleCode/test.c`. -/
def Gpio_Test : ScanProg Unit := do
  printf .start
  printf .pinTestStart
  let scan ← pinLoop
  verdict scan
  printf .finish

/-- The setup of GPIO 4 and GPIO 17 in `LED.c`. -/
def ledSetup : ScanProg Unit := do
  orReg (GPFSEL0 / 4) (0#32 <<< 14)
  orReg (GPFSEL0 / 4) (0#32 <<< 13)
  orReg (GPFSEL0 / 4) (1#32 <<< 12)
  orReg (GPFSEL1 / 4) (0#32 <<< 23)
  orReg (GPFSEL1 / 4) (0#32 <<< 22)
  orReg (GPFSEL1 / 4) (1#32 <<< 21)

/-- The blocks in which GPLEV0 was read, in order. -/
def levelSamples (steps : List (Step (Mmio ScanLine) Block)) : List Block :=
  steps.filterMap fun step =>
    match step.request with
    | .read offset => if offset = GPLEV0 / 4 then some step.state else none
    | _ => none

end Maestro.Gpio.PinScan
