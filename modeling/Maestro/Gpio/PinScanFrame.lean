import Maestro.Gpio.PinScanFunctions

/-!
# The functions of the pins that are not tested

The pin loop leaves the registers GPFSEL0 to GPFSEL2 zero, whatever they held. The pins that
it must leave alone share these registers with the tested ones, so their functions survive
only where they were input already.
-/

namespace Maestro.Gpio.PinScan

open Effect Word

/-- The pins that are not to be tested: 27 to 29 are beyond the loop, the others carry I2C
and SPI. -/
def untested : List ℕ := [27, 28, 29, 2, 3, 7, 8, 9, 10, 11]

/-- The function field of every untested pin is after a program what it was before. -/
def KeepsUntested {α : Type} (sense : ℕ → ℕ → BitVec 32) (block : Block) (prog : ScanProg α) : Prop :=
  ∀ pin ∈ untested,
    pinFunction (prog.eval (device ScanLine sense) block).2.regs pin = pinFunction block.regs pin

section Frame

variable (sense : ℕ → ℕ → BitVec 32) (block : Block)

/-- After the pin loop the first three function-select registers are zero, and the others as
before. -/
theorem hasFunctions_pinLoop :
    HasFunctions (tested block.regs 27) (pinLoop.eval (device ScanLine sense) block).2 := by
  rw [pinLoop_eq, Prog.eval_foldlM_range]
  exact (scan_invariant sense block 27 le_rfl).2

/-- Every pin below 30 is an input after the pin loop. -/
theorem pinFunction_pinLoop (pin : ℕ) (hpin : pin < 30) :
    pinFunction (pinLoop.eval (device ScanLine sense) block).2.regs pin = 0#3 := by
  have hword := hasFunctions_pinLoop sense block (pin / 10) (by omega)
  rw [pinFunction, hword, tested, if_pos (by omega)]
  exact BitVec.extractLsb'_zero

/-- The verdict line changes no register. -/
theorem eval_verdict (scan : Scan) :
    (verdict scan).eval (device ScanLine sense) block = ((), block) := by
  rw [verdict]
  split <;> rfl

/-- `main` leaves the block as the pin loop does. -/
theorem block_main :
    (main.eval (device ScanLine sense) block).2 = (pinLoop.eval (device ScanLine sense) block).2 := by
  rw [main, Prog.eval_bind, eval_verdict]

/-- `Gpio_Test` leaves the block as the pin loop does. -/
theorem block_Gpio_Test :
    (Gpio_Test.eval (device ScanLine sense) block).2 = (pinLoop.eval (device ScanLine sense) block).2 := by
  change ((pinLoop >>= fun scan => verdict scan >>= fun _ => printf .finish).eval _ block).2 = _
  rw [Prog.eval_bind, Prog.eval_bind, eval_verdict]
  rfl

/-- A program that ends like the pin loop keeps the functions of the untested pins exactly if
they were all inputs. -/
theorem keepsUntested_of_pinLoop {α : Type} {prog : ScanProg α}
    (hblock : (prog.eval (device ScanLine sense) block).2 =
      (pinLoop.eval (device ScanLine sense) block).2) :
    KeepsUntested sense block prog ↔ ∀ pin ∈ untested, pinFunction block.regs pin = 0#3 := by
  unfold KeepsUntested
  rw [hblock]
  refine forall₂_congr fun pin hpin => ?_
  have hbound : ∀ pin ∈ untested, pin < 30 := by decide
  rw [pinFunction_pinLoop sense block pin (hbound pin hpin), eq_comm]

/-- For every initial contents of the registers and whatever all other reads return: the pin
loop, the program around it in `GPIOTest.c` and the copy `Gpio_Test` keep the functions of the
pins that are not to be tested if and only if all these pins were inputs before. -/
theorem keepsUntested_iff :
    (KeepsUntested sense block pinLoop ↔ ∀ pin ∈ untested, pinFunction block.regs pin = 0#3) ∧
    (KeepsUntested sense block main ↔ ∀ pin ∈ untested, pinFunction block.regs pin = 0#3) ∧
    (KeepsUntested sense block Gpio_Test ↔ ∀ pin ∈ untested, pinFunction block.regs pin = 0#3) := by
  refine ⟨?_, ?_, ?_⟩
  · exact keepsUntested_of_pinLoop sense block rfl
  · exact keepsUntested_of_pinLoop sense block (block_main sense block)
  · exact keepsUntested_of_pinLoop sense block (block_Gpio_Test sense block)

end Frame

/-- With GPIO 2 and GPIO 3 in alternate function 0, where they carry I2C, the pin loop does not
keep the functions of the untested pins. -/
theorem i2c_function_lost :
    ¬∀ (sense : ℕ → ℕ → BitVec 32) (block : Block), KeepsUntested sense block pinLoop := by
  intro hall
  have hkept := hall (fun _ _ => 0) ⟨fun register => if register = 0 then 0x900#32 else 0#32, fun _ => false, 0⟩
  rw [keepsUntested_of_pinLoop _ _ rfl] at hkept
  revert hkept
  decide

end Maestro.Gpio.PinScan
