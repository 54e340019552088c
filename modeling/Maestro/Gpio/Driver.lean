import Maestro.Effect.Loop
import Maestro.Gpio.Block

/-!
# The pin driver of `physical/setup.c`

`pinMode` maps a pin number to a BCM pin and rewrites that pin's function field;
`digitalWrite` writes one bit of GPSET or GPCLR. Array reads are checked here: reading
outside a table, which C leaves undefined, stops the program with the table and the index.
The setup call has run, so `pinToGpio` points at `gpioPin`.
-/

namespace Maestro.Gpio

open Effect Word

def INPUT : ℤ := 0
def OUTPUT : ℤ := 1
def LOW : ℤ := 0
def HIGH : ℤ := 1

def GPSET : ℕ := 0x1C
def GPCLR : ℕ := 0x28

/-- The function register of each GPIO. -/
def gpioToGPFSEL : List ℕ :=
  [0, 0, 0, 0, 0, 0, 0, 0, 0, 0,
   1, 1, 1, 1, 1, 1, 1, 1, 1, 1,
   2, 2, 2, 2, 2, 2, 2, 2, 2, 2,
   3, 3, 3, 3, 3, 3, 3, 3, 3, 3,
   4, 4, 4, 4, 4, 4, 4, 4, 4, 4,
   5, 5, 5, 5, 5, 5, 5, 5, 5, 5]

/-- The place of each GPIO in its function register. -/
def gpioToShift : List ℕ :=
  [0, 3, 6, 9, 12, 15, 18, 21, 24, 27,
   0, 3, 6, 9, 12, 15, 18, 21, 24, 27,
   0, 3, 6, 9, 12, 15, 18, 21, 24, 27,
   0, 3, 6, 9, 12, 15, 18, 21, 24, 27,
   0, 3, 6, 9, 12, 15, 18, 21, 24, 27,
   0, 3, 6, 9, 12, 15, 18, 21, 24, 27]

/-- The BCM pin behind each pin number; the padding entries are -1. -/
def gpioPin : List ℤ :=
  [17, 18, 21, 22, 23, 24, 25, 4,
   0, 1,
   8, 7,
   10, 9, 11,
   14, 15,
   -1, -1, -1, -1, -1, -1, -1, -1, -1, -1, -1, -1, -1, -1, -1,
   -1, -1, -1, -1, -1, -1, -1, -1, -1, -1, -1, -1, -1, -1, -1, -1,
   -1, -1, -1, -1, -1, -1, -1, -1, -1, -1, -1, -1, -1, -1, -1, -1]

example : gpioPin.length = 64 ∧ gpioToGPFSEL.length = 60 ∧ gpioToShift.length = 60 := by decide

/-- The tables the driver indexes. -/
inductive Table where
  | pinToGpio
  | gpioToGPFSEL
  | gpioToShift
deriving DecidableEq

/-- Reading a table outside its entries. -/
inductive DriverFault where
  | outOfBounds (table : Table) (index : ℤ)
deriving DecidableEq

/-- The lines the driver prints: "data", "LOW data" and "HIGH data", each with a register in
binary. -/
inductive DriverLine where
  | data (word : BitVec 32)
  | lowData (word : BitVec 32)
  | highData (word : BitVec 32)

/-- Programs of the driver. -/
abbrev DriverProg (α : Type) := Prog (Mmio DriverLine) DriverFault α

/-- Read a table at a C index. -/
def entry {α : Type} (table : Table) (entries : List α) (index : ℤ) : DriverProg α :=
  if 0 ≤ index then
    match entries[index.toNat]? with
    | some value => .ret value
    | none => .stop (.outOfBounds table index)
  else .stop (.outOfBounds table index)

/-- The mode of a pin is written into its function field, if it is one of the two. -/
def pinMode (pin mode : ℤ) : DriverProg Unit := do
  let pin ← entry .pinToGpio gpioPin pin
  let fSel ← entry .gpioToGPFSEL gpioToGPFSEL pin
  let shift ← entry .gpioToShift gpioToShift pin
  if mode = INPUT then
    let word ← readReg fSel
    writeReg fSel (word &&& ~~~(7#32 <<< shift))
  else if mode = OUTPUT then
    let word ← readReg fSel
    writeReg fSel (word &&& ~~~(7#32 <<< shift) ||| 1#32 <<< shift)
  let word ← readReg fSel
  printf (.data word)

/-- The bit of a pin is written into the clear register or the set register. -/
def digitalWrite (pin value : ℤ) : DriverProg Unit := do
  if value = LOW then
    writeReg (GPCLR / 4) (1#32 <<< (BitVec.ofInt 32 pin &&& 31#32))
    let word ← readReg (GPCLR / 4)
    printf (.lowData word)
  else if value = HIGH then
    writeReg (GPSET / 4) (1#32 <<< (BitVec.ofInt 32 pin &&& 31#32))
    let word ← readReg (GPSET / 4)
    printf (.highData word)

/-- The table maps this pin number to a BCM pin. -/
def Mapped (pin : ℤ) : Prop := 0 ≤ pin ∧ ∃ bcm ∈ gpioPin[pin.toNat]?, bcm ≠ -1

/-- The pin numbers that the table maps: 0 to 16. -/
abbrev MappedPin := Fin 17

/-- The BCM pin behind a mapped pin number. -/
def bcm (pin : MappedPin) : ℕ := (gpioPin.getD pin (-1)).toNat

/-- The function code a mode stands for, if `pinMode` acts on it at all. -/
def functionCode (mode : ℤ) : Option (BitVec 3) :=
  if mode = INPUT then some 0 else if mode = OUTPUT then some 1 else none

/-- The driver's table of mapped pins is injective. -/
theorem bcm_injective : Function.Injective bcm := by decide

/-- No pin number is its own BCM pin. -/
theorem bcm_ne_self (pin : MappedPin) : bcm pin ≠ pin.val := by revert pin; decide

/-- Every mapped pin is one of the first 26 BCM pins. -/
theorem bcm_lt (pin : MappedPin) : bcm pin < 26 := by revert pin; decide

/-- All entries after the first 17 are padding. -/
theorem gpioPin_padding : ∀ i : Fin 64, 17 ≤ i.val → gpioPin[i.val]? = some (-1) := by decide

/-- A mapped pin number is one of 0 to 16. -/
theorem mapped_iff (pin : ℤ) : Mapped pin ↔ ∃ p : MappedPin, (p.val : ℤ) = pin := by
  constructor
  · rintro ⟨hnonneg, code, hentry, hcode⟩
    have hlen : pin.toNat < 64 := (List.getElem?_eq_some_iff.mp hentry).1
    have hpin : pin.toNat < 17 := by
      by_contra hge
      rw [gpioPin_padding ⟨pin.toNat, hlen⟩ (by simp only; omega), Option.mem_some_iff] at hentry
      exact hcode hentry.symm
    exact ⟨⟨pin.toNat, hpin⟩, by simp only; omega⟩
  · rintro ⟨p, rfl⟩
    refine ⟨by omega, ?_⟩
    revert p
    decide

section Entries

variable {α : Type} (table : Table) (entries : List α)

/-- An index inside a table reads its entry. -/
theorem entry_of_getElem? {i : ℕ} {value : α} (hentry : entries[i]? = some value) :
    entry table entries i = .ret value := by
  simp only [entry, Int.natCast_nonneg, if_true, Int.toNat_natCast, hentry]

/-- A negative index, or one past the end, is an access outside the table. -/
theorem entry_of_outside {i : ℤ} (houtside : i < 0 ∨ entries.length ≤ i.toNat) :
    entry table entries i = .stop (.outOfBounds table i) := by
  by_cases hi : 0 ≤ i
  · have hlen : entries.length ≤ i.toNat := houtside.resolve_left (by omega)
    simp only [entry, hi, if_true, List.getElem?_eq_none hlen]
  · simp only [entry, hi, if_false]

end Entries

section Mapped

variable (pin : MappedPin) (mode value : ℤ)

/-- The entry of the pin table. -/
theorem entry_gpioPin : entry .pinToGpio gpioPin pin.val = .ret (bcm pin : ℤ) :=
  entry_of_getElem? _ _ (by revert pin; decide)

/-- The entry of the table of registers. -/
theorem entry_gpioToGPFSEL : entry .gpioToGPFSEL gpioToGPFSEL (bcm pin) = .ret (bcm pin / 10) :=
  entry_of_getElem? _ _ (by revert pin; decide)

/-- The entry of the table of shifts. -/
theorem entry_gpioToShift : entry .gpioToShift gpioToShift (bcm pin) = .ret (3 * (bcm pin % 10)) :=
  entry_of_getElem? _ _ (by revert pin; decide)

/-- Clearing the three mode bits writes function code 000. -/
theorem and_not_mask (word : BitVec 32) (shift : ℕ) :
    word &&& ~~~(7#32 <<< shift) = setField word shift 0#3 :=
  and_not_fieldMask word shift 3

/-- Clearing the three mode bits and setting the lowest one writes function code 001. -/
theorem setField_zero_or_one (word : BitVec 32) (shift : ℕ) :
    setField word shift 0#3 ||| 1#32 <<< shift = setField word shift 1#3 := by
  rw [← and_not_mask]
  rfl

/-- On a mapped pin `pinMode` rewrites the pin's function field if it knows the mode, and in
any case prints the register. -/
theorem pinMode_mapped :
    pinMode pin.val mode =
      (match functionCode mode with
      | some code => do
        let word ← readReg (bcm pin / 10)
        writeReg (bcm pin / 10) (setField word (3 * (bcm pin % 10)) code)
        let word ← readReg (bcm pin / 10)
        printf (.data word)
      | none => do
        let word ← readReg (bcm pin / 10)
        printf (.data word)) := by
  simp only [pinMode, entry_gpioPin, entry_gpioToGPFSEL, entry_gpioToShift, Prog.ret_bind,
    and_not_mask, setField_zero_or_one, functionCode]
  by_cases hinput : mode = INPUT
  · simp only [if_pos hinput]
    rfl
  · by_cases houtput : mode = OUTPUT
    · simp only [if_neg hinput, if_pos houtput]
      rfl
    · simp only [if_neg hinput, if_neg houtput]

/-- The bit of GPSET or GPCLR that is written is the pin number itself. -/
theorem writeMask_mapped : 1#32 <<< (BitVec.ofInt 32 pin.val &&& 31#32) = 1#32 <<< pin.val := by
  revert pin
  decide

variable (sense : ℕ → ℕ → BitVec 32) (block : Block)

/-- What one call of `pinMode` on a mapped pin does to the block. -/
theorem run_pinMode :
    (pinMode pin.val mode).run (device DriverLine sense) block =
      (.ok (), match functionCode mode with
        | some code =>
          { regs := setFunction block.regs (bcm pin) code
            latch := block.latch
            reads := block.reads + 2 }
        | none => block.tick) := by
  have hword : bcm pin / 10 < 6 := by have := bcm_lt pin; omega
  rw [pinMode_mapped]
  cases functionCode mode with
  | none => rfl
  | some code =>
    simp only [readReg_bind, writeReg_bind, Prog.run_call, device_read, device_write, if_pos hword]
    refine Prod.ext rfl ?_
    change (block.tick.write _ _).tick = _
    rw [Block.tick, Block.write, latchAfter_of_lt _ hword]
    rfl

/-- The register writes of one call of `pinMode` on a mapped pin. -/
theorem registerWrites_pinMode :
    registerWrites ((pinMode pin.val mode).trace (device DriverLine sense) block) =
      match functionCode mode with
      | some code =>
        [⟨bcm pin / 10, setField (block.regs (bcm pin / 10)) (3 * (bcm pin % 10)) code⟩]
      | none => [] := by
  have hword : bcm pin / 10 < 6 := by have := bcm_lt pin; omega
  rw [pinMode_mapped]
  cases functionCode mode with
  | none => rfl
  | some code =>
    simp only [readReg_bind, writeReg_bind, Prog.trace_call, registerWrites_read,
      registerWrites_write, device_read, if_pos hword]
    rfl

/-- What one call of `digitalWrite` does to the block: the pin number is used as it is. -/
theorem run_digitalWrite (pin value : ℤ) :
    ((digitalWrite pin value).run (device DriverLine sense) block).1 = .ok () ∧
      ((digitalWrite pin value).run (device DriverLine sense) block).2.latch =
        (if value = LOW then
          latchWord block.latch 0 (1#32 <<< (BitVec.ofInt 32 pin &&& 31#32)) false
        else if value = HIGH then
          latchWord block.latch 0 (1#32 <<< (BitVec.ofInt 32 pin &&& 31#32)) true
        else block.latch) := by
  rw [digitalWrite]
  split
  · exact ⟨rfl, rfl⟩
  · split
    · exact ⟨rfl, rfl⟩
    · exact ⟨rfl, rfl⟩

/-- The register writes of one call of `digitalWrite`. -/
theorem registerWrites_digitalWrite (pin value : ℤ) :
    registerWrites ((digitalWrite pin value).trace (device DriverLine sense) block) =
      if value = LOW then [⟨10, 1#32 <<< (BitVec.ofInt 32 pin &&& 31#32)⟩]
      else if value = HIGH then [⟨7, 1#32 <<< (BitVec.ofInt 32 pin &&& 31#32)⟩]
      else [] := by
  rw [digitalWrite]
  split
  · rfl
  · split <;> rfl

end Mapped

end Maestro.Gpio
