import Maestro.Effect.Program
import Maestro.Word.Field
import Mathlib.Tactic.IntervalCases

/-!
# The memory-mapped GPIO block

The driver and the register-level tests reach the hardware through 32-bit words at word
offsets from the mapped block. The function-select registers GPFSEL0 to GPFSEL5 read back
what was last written to them; each holds ten 3-bit fields, one for each pin. Writing ones
to GPSET or GPCLR sets or clears the output latches of the pins concerned. Every other
read is left to the environment, which may answer each one differently.
-/

namespace Maestro.Gpio

open Effect Word

/-- What a program does with the mapped block, besides printing and waiting. -/
inductive MmioCall (Line : Type) where
  | read (offset : ℕ)
  | write (offset : ℕ) (value : BitVec 32)
  | printf (line : Line)
  | sleep (seconds : ℕ)

/-- Register reads are answered with a word; nothing comes back from the other requests. -/
abbrev Mmio (Line : Type) : Interface where
  Call := MmioCall Line
  Reply
    | .read _ => BitVec 32
    | _ => Unit

section Requests

variable {Line ε : Type}

/-- Read the register at a word offset. -/
def readReg (offset : ℕ) : Prog (Mmio Line) ε (BitVec 32) := Prog.perform (I := Mmio Line) (.read offset)

/-- Write the register at a word offset. -/
def writeReg (offset : ℕ) (value : BitVec 32) : Prog (Mmio Line) ε Unit :=
  Prog.perform (I := Mmio Line) (.write offset value)

/-- Print a line. -/
def printf (line : Line) : Prog (Mmio Line) ε Unit := Prog.perform (I := Mmio Line) (.printf line)

/-- Wait for a number of seconds. -/
def sleep (seconds : ℕ) : Prog (Mmio Line) ε Unit := Prog.perform (I := Mmio Line) (.sleep seconds)

end Requests

/-- The block as the hardware sees it: the last word written to each register, the output
latch of each pin, and how many reads have been answered. -/
structure Block where
  regs : ℕ → BitVec 32
  latch : ℕ → Bool
  reads : ℕ

/-- The latches of the 32 pins from `first` on whose bit is one take the given level. -/
def latchWord (latch : ℕ → Bool) (first : ℕ) (value : BitVec 32) (level : Bool) : ℕ → Bool :=
  fun pin => if first ≤ pin ∧ pin < first + 32 ∧ value.getLsbD (pin - first) then level else latch pin

/-- The effect of a register write on the latches: GPSET0, GPSET1, GPCLR0 and GPCLR1 are the
words 7, 8, 10 and 11. -/
def latchAfter (latch : ℕ → Bool) (offset : ℕ) (value : BitVec 32) : ℕ → Bool :=
  match offset with
  | 7 => latchWord latch 0 value true
  | 8 => latchWord latch 32 value true
  | 10 => latchWord latch 0 value false
  | 11 => latchWord latch 32 value false
  | _ => latch

/-- The block after a register write. -/
def Block.write (block : Block) (offset : ℕ) (value : BitVec 32) : Block :=
  { block with
    regs := Function.update block.regs offset value
    latch := latchAfter block.latch offset value }

/-- The block after a read, which changes no register. -/
def Block.tick (block : Block) : Block := { block with reads := block.reads + 1 }

/-- The hardware: `sense` is the word read from a register other than GPFSEL0 to GPFSEL5, which
may be different at every read. -/
def device (Line : Type) (sense : ℕ → ℕ → BitVec 32) : Handler (Mmio Line) Block where
  answer
    | .read offset, block =>
      (if offset < 6 then block.regs offset else sense offset block.reads, block.tick)
    | .write offset value, block => ((), block.write offset value)
    | .printf _, block => ((), block)
    | .sleep _, block => ((), block)

/-- One register write. -/
structure RegisterWrite where
  offset : ℕ
  value : BitVec 32
deriving DecidableEq

/-- The register writes among the steps of a run, in order. -/
def registerWrites {Line σ : Type} (steps : List (Step (Mmio Line) σ)) : List RegisterWrite :=
  steps.filterMap fun step =>
    match step.request with
    | .write offset value => some ⟨offset, value⟩
    | _ => none

/-- The 3-bit function field of a BCM pin: GPFSELn holds the pins from `10 * n` on. -/
def pinFunction (regs : ℕ → BitVec 32) (pin : ℕ) : BitVec 3 :=
  getField (regs (pin / 10)) (3 * (pin % 10)) 3

/-- The registers after a pin's function field is rewritten, all other bits kept. -/
def setFunction (regs : ℕ → BitVec 32) (pin : ℕ) (code : BitVec 3) : ℕ → BitVec 32 :=
  Function.update regs (pin / 10) (setField (regs (pin / 10)) (3 * (pin % 10)) code)

section Functions

variable (regs : ℕ → BitVec 32) (pin : ℕ) (code : BitVec 3)

/-- Rewriting a function field changes the function of that pin and of no other. -/
theorem pinFunction_setFunction :
    pinFunction (setFunction regs pin code) = Function.update (pinFunction regs) pin code := by
  funext other
  by_cases hpin : other = pin
  · subst hpin
    rw [Function.update_self, pinFunction, setFunction, Function.update_self,
      getField_setField_same _ _ _ (by omega)]
  · rw [Function.update_of_ne hpin, pinFunction, setFunction]
    by_cases hword : other / 10 = pin / 10
    · rw [hword, Function.update_self,
        getField_setField_of_disjoint _ _ _ _ (by omega) (by omega), pinFunction, hword]
    · rw [Function.update_of_ne hword, pinFunction]

/-- The two bits above the ten fields of a word are never part of a function field. -/
theorem topBits_setFunction (word : ℕ) :
    getField (setFunction regs pin code word) 30 2 = getField (regs word) 30 2 := by
  by_cases hword : word = pin / 10
  · rw [hword, setFunction, Function.update_self,
      getField_setField_of_disjoint _ _ _ _ (by omega) (by omega)]
  · rw [setFunction, Function.update_of_ne hword]

/-- Only the pin's own GPFSEL word changes. -/
theorem setFunction_of_ne (word : ℕ) (hword : word ≠ pin / 10) :
    setFunction regs pin code word = regs word :=
  Function.update_of_ne hword ..

/-- Of two rewrites of one pin's field only the second one counts. -/
theorem setFunction_setFunction_same (first : BitVec 3) :
    setFunction (setFunction regs pin first) pin code = setFunction regs pin code := by
  rw [setFunction, setFunction, Function.update_self, Function.update_idem, setField_setField_same]
  rfl

/-- Rewrites of different pins' fields commute. -/
theorem setFunction_comm (other : ℕ) (second : BitVec 3) (hpin : pin ≠ other) :
    setFunction (setFunction regs pin code) other second =
      setFunction (setFunction regs other second) pin code := by
  by_cases hword : pin / 10 = other / 10
  · simp only [setFunction, hword, Function.update_self, Function.update_idem]
    rw [setField_comm _ _ _ _ _ (by omega)]
  · simp only [setFunction, Function.update_of_ne hword, Function.update_of_ne (Ne.symm hword)]
    exact Function.update_comm hword _ _ _

end Functions

section Device

variable {Line ε α : Type} (sense : ℕ → ℕ → BitVec 32) (block : Block)

/-- A write stores the word. -/
@[simp] theorem Block.write_regs (offset : ℕ) (value : BitVec 32) :
    (block.write offset value).regs = Function.update block.regs offset value := rfl

/-- A write may change the latches. -/
@[simp] theorem Block.write_latch (offset : ℕ) (value : BitVec 32) :
    (block.write offset value).latch = latchAfter block.latch offset value := rfl

/-- A read leaves the registers as they are. -/
@[simp] theorem Block.tick_regs : block.tick.regs = block.regs := rfl

/-- It leaves the latches as well. -/
@[simp] theorem Block.tick_latch : block.tick.latch = block.latch := rfl

/-- A read hands its word to what follows. -/
@[simp] theorem readReg_bind (offset : ℕ) (next : BitVec 32 → Prog (Mmio Line) ε α) :
    (readReg offset >>= next) = Prog.call (I := Mmio Line) (.read offset) next := rfl

/-- A write goes before what follows. -/
@[simp] theorem writeReg_bind (offset : ℕ) (value : BitVec 32) (next : Unit → Prog (Mmio Line) ε α) :
    (writeReg offset value >>= next) = Prog.call (I := Mmio Line) (.write offset value) next := rfl

/-- So does a line. -/
@[simp] theorem printf_bind (line : Line) (next : Unit → Prog (Mmio Line) ε α) :
    (printf line >>= next) = Prog.call (I := Mmio Line) (.printf line) next := rfl

/-- So does a wait. -/
@[simp] theorem sleep_bind (seconds : ℕ) (next : Unit → Prog (Mmio Line) ε α) :
    (sleep seconds >>= next) = Prog.call (I := Mmio Line) (.sleep seconds) next := rfl

/-- The function registers are read back, the others are sensed. -/
@[simp] theorem device_read (offset : ℕ) :
    (device Line sense).answer (.read offset) block =
      (if offset < 6 then block.regs offset else sense offset block.reads, block.tick) := rfl

/-- The device takes a write. -/
@[simp] theorem device_write (offset : ℕ) (value : BitVec 32) :
    (device Line sense).answer (.write offset value) block = ((), block.write offset value) := rfl

/-- A line leaves the device as it is. -/
@[simp] theorem device_printf (line : Line) :
    (device Line sense).answer (.printf line) block = ((), block) := rfl

/-- So does a wait. -/
@[simp] theorem device_sleep (seconds : ℕ) :
    (device Line sense).answer (.sleep seconds) block = ((), block) := rfl

section Writes

variable {σ : Type} (state : σ) (steps : List (Step (Mmio Line) σ)) (reply : Unit)

/-- No step writes nothing. -/
@[simp] theorem registerWrites_nil : registerWrites ([] : List (Step (Mmio Line) σ)) = [] := rfl

/-- A read is no write. -/
@[simp] theorem registerWrites_read (offset : ℕ) (word : BitVec 32) :
    registerWrites (⟨state, .read offset, word⟩ :: steps) = registerWrites steps := rfl

/-- A write comes first. -/
@[simp] theorem registerWrites_write (offset : ℕ) (value : BitVec 32) :
    registerWrites (⟨state, .write offset value, reply⟩ :: steps) =
      ⟨offset, value⟩ :: registerWrites steps := rfl

/-- A line is no write. -/
@[simp] theorem registerWrites_printf (line : Line) :
    registerWrites (⟨state, .printf line, reply⟩ :: steps) = registerWrites steps := rfl

/-- A wait is no write. -/
@[simp] theorem registerWrites_sleep (seconds : ℕ) :
    registerWrites (⟨state, .sleep seconds, reply⟩ :: steps) = registerWrites steps := rfl

end Writes

/-- Function-select writes do not touch the latches. -/
theorem latchAfter_of_lt (latch : ℕ → Bool) {offset : ℕ} (hoffset : offset < 6) (value : BitVec 32) :
    latchAfter latch offset value = latch := by
  interval_cases offset <;> rfl

end Device

end Maestro.Gpio
