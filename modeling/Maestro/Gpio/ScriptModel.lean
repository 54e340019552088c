import Maestro.Gpio.Driver

/-!
# The driver model in `samplePinCode/tmp.py`

The script maps the pin number through `pinToGpio` once and then computes, for each
operation, the word offset it goes to and the value written there. Its `gpio_data` stands
for the current contents of the function-select register.
-/

namespace Maestro.Gpio.Script

open Effect

/-- The GPIO of each pin. -/
def pinToGpio : List ℤ :=
  [17, 18, 21, 22, 23, 24, 25, 4,
   0, 1,
   8, 7,
   10, 9, 11,
   14, 15,
   -1, -1, -1, -1, -1, -1, -1, -1, -1, -1, -1, -1, -1, -1, -1,
   -1, -1, -1, -1, -1, -1, -1, -1, -1, -1, -1, -1, -1, -1, -1, -1,
   -1, -1, -1, -1, -1, -1, -1, -1, -1, -1, -1, -1, -1, -1, -1, -1]

/-- The function register of each GPIO. -/
def gpioToGPFSEL : List ℕ :=
  [0, 0, 0, 0, 0, 0, 0, 0, 0, 0,
   1, 1, 1, 1, 1, 1, 1, 1, 1, 1,
   2, 2, 2, 2, 2, 2, 2, 2, 2, 2,
   3, 3, 3, 3, 3, 3, 3, 3, 3, 3,
   4, 4, 4, 4, 4, 4, 4, 4, 4, 4,
   5, 5, 5, 5, 5, 5, 5, 5, 5, 5]

/-- The place of each GPIO in its function register. -/
def gpioToShift : List ℕ :=
  [0, 3, 6, 9, 12, 15, 18, 21, 24, 27,
   0, 3, 6, 9, 12, 15, 18, 21, 24, 27,
   0, 3, 6, 9, 12, 15, 18, 21, 24, 27,
   0, 3, 6, 9, 12, 15, 18, 21, 24, 27,
   0, 3, 6, 9, 12, 15, 18, 21, 24, 27,
   0, 3, 6, 9, 12, 15, 18, 21, 24, 27]

/-- The clear register of each GPIO. -/
def gpioToGPCLR : List ℕ :=
  [10, 10, 10, 10, 10, 10, 10, 10, 10, 10, 10, 10, 10, 10, 10, 10,
   10, 10, 10, 10, 10, 10, 10, 10, 10, 10, 10, 10, 10, 10, 10, 10,
   11, 11, 11, 11, 11, 11, 11, 11, 11, 11, 11, 11, 11, 11, 11, 11,
   11, 11, 11, 11, 11, 11, 11, 11, 11, 11, 11, 11, 11, 11, 11, 11]

/-- The set register of each GPIO. -/
def gpioToGPSET : List ℕ :=
  [7, 7, 7, 7, 7, 7, 7, 7, 7, 7, 7, 7, 7, 7, 7, 7,
   7, 7, 7, 7, 7, 7, 7, 7, 7, 7, 7, 7, 7, 7, 7, 7,
   8, 8, 8, 8, 8, 8, 8, 8, 8, 8, 8, 8, 8, 8, 8, 8,
   8, 8, 8, 8, 8, 8, 8, 8, 8, 8, 8, 8, 8, 8, 8, 8]

/-- A list item; as in Python, a negative index counts from the end. -/
def item {α : Type} (entries : List α) (index : ℤ) : Option α :=
  if 0 ≤ index then entries[index.toNat]?
  else if 0 ≤ index + entries.length then entries[(index + entries.length).toNat]?
  else none

/-- The write of "pinMode INPUT" over the register contents `gpioData` of each word. -/
def pinModeInput (pin : ℤ) (gpioData : ℕ → BitVec 32) : Option RegisterWrite := do
  let pin ← item pinToGpio pin
  let fSel ← item gpioToGPFSEL pin
  let shift ← item gpioToShift pin
  some ⟨fSel, gpioData fSel &&& ~~~(7#32 <<< shift)⟩

/-- The write of "pinMode OUTPUT", which continues from the value for INPUT. -/
def pinModeOutput (pin : ℤ) (gpioData : ℕ → BitVec 32) : Option RegisterWrite := do
  let input ← pinModeInput pin gpioData
  let pin ← item pinToGpio pin
  let shift ← item gpioToShift pin
  some ⟨input.offset, input.value ||| 1#32 <<< shift⟩

/-- The write for the value LOW. -/
def valueLow (pin : ℤ) : Option RegisterWrite := do
  let pin ← item pinToGpio pin
  let offset ← item gpioToGPCLR pin
  some ⟨offset, 1#32 <<< (BitVec.ofInt 32 pin &&& 31#32)⟩

/-- The write for the value HIGH. -/
def valueHigh (pin : ℤ) : Option RegisterWrite := do
  let pin ← item pinToGpio pin
  let offset ← item gpioToGPSET pin
  some ⟨offset, 1#32 <<< (BitVec.ofInt 32 pin &&& 31#32)⟩

end Maestro.Gpio.Script
