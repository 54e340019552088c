import Maestro.Gpio.PinScanReport

/-!
# The blinking programs

`LCD.c` blinks an LED at GPIO 4 through the mapped registers, and `LED.c` lets LEDs at GPIO 4 and GPIO 17
take turns and prints what it takes for the level of GPIO 4. Both merge the output bit into the function
fields, and set bits of GPSET0 and GPCLR0 in the words read from there. The printed level is bit 3 of
GPLEV0, the level of another pin.
-/

namespace Maestro.Gpio.Blink

open Effect Word PinScan

/-- The addresses that `LCD.c` prints. -/
inductive Pointer where
  | base
  | gpfsel0
  | gpset0
  | gpclr0
deriving DecidableEq

/-- What the programs print. -/
inductive BlinkLine where
  | afterSet (high : Bool)
  | afterClear (high : Bool)
  | address (pointer : Pointer) (value : ℕ)
deriving DecidableEq

/-- The name that is printed. -/
def Pointer.text : Pointer → String
  | base => "gpio base"
  | gpfsel0 => "gpfsel0"
  | gpset0 => "gpset0"
  | gpclr0 => "gpclr0"

/-- The printed text; an address is written in base 16. -/
def BlinkLine.text : BlinkLine → String
  | afterSet high => if high then "4 is HiGH \n" else "4 is LOW"
  | afterClear high => if high then "4 is HiGH" else "4 is LOW \n"
  | address pointer value => pointer.text ++ " virtual addr : 0x" ++ String.ofList (Nat.toDigits 16 value) ++ "\n"

/-- The calls of the programs, and the accesses to the mapped words. -/
inductive BlinkCall where
  | openMem
  | mmap (fd : ℤ)
  | perror (text : String)
  | read (offset : ℕ)
  | write (offset : ℕ) (value : BitVec 32)
  | sleep (seconds : ℕ)
  | printf (line : BlinkLine)
  | munmap (address : ℕ)
  | close (fd : ℤ)

/-- `mmap` is answered with an address, or with `none` for `MAP_FAILED`. -/
abbrev BlinkCalls : Interface where
  Call := BlinkCall
  Reply
    | .openMem => ℤ
    | .mmap _ => Option ℕ
    | .read _ => BitVec 32
    | _ => Unit

abbrev BlinkProg (α : Type) := Prog BlinkCalls Exit α

def openMem : BlinkProg ℤ := Prog.perform (I := BlinkCalls) .openMem
def mmap (fd : ℤ) : BlinkProg (Option ℕ) := Prog.perform (I := BlinkCalls) (.mmap fd)
def perror (text : String) : BlinkProg Unit := Prog.perform (I := BlinkCalls) (.perror text)
def readReg (offset : ℕ) : BlinkProg (BitVec 32) := Prog.perform (I := BlinkCalls) (.read offset)

def writeReg (offset : ℕ) (value : BitVec 32) : BlinkProg Unit :=
  Prog.perform (I := BlinkCalls) (.write offset value)

def sleep (seconds : ℕ) : BlinkProg Unit := Prog.perform (I := BlinkCalls) (.sleep seconds)
def printf (line : BlinkLine) : BlinkProg Unit := Prog.perform (I := BlinkCalls) (.printf line)
def munmap (address : ℕ) : BlinkProg Unit := Prog.perform (I := BlinkCalls) (.munmap address)
def close (fd : ℤ) : BlinkProg Unit := Prog.perform (I := BlinkCalls) (.close fd)

/-- `*reg |= mask`. -/
def orReg (offset : ℕ) (mask : BitVec 32) : BlinkProg Unit := do
  let word ← readReg offset
  writeReg offset (word ||| mask)

/-- The opening and the end that both programs have. -/
def withBlock (body : ℕ → BlinkProg Unit) : BlinkProg ℤ := do
  let fd ← openMem
  if fd < 0 then do
    perror "[Error] open() : "
    Prog.exit (-1)
  else do
    let address ← mmap fd
    match address with
    | none =>
      perror "[Error] mmap() : "
      Prog.exit (-1)
    | some address =>
      body address
      munmap address
      close fd
      return 0

/-- The setup of GPIO 4, the same in both programs. -/
def setupFour : BlinkProg Unit := do
  orReg (GPFSEL0 / 4) (0#32 <<< 14)
  orReg (GPFSEL0 / 4) (0#32 <<< 13)
  orReg (GPFSEL0 / 4) (1#32 <<< 12)

/-- The setup of GPIO 17. -/
def setupSeventeen : BlinkProg Unit := do
  orReg (GPFSEL1 / 4) (0#32 <<< 23)
  orReg (GPFSEL1 / 4) (0#32 <<< 22)
  orReg (GPFSEL1 / 4) (1#32 <<< 21)

/-- The sample of a level, with the line for it. -/
def showLevel (line : Bool → BlinkLine) : BlinkProg Unit := do
  let word ← readReg (GPLEV0 / 4)
  let pin_state := word >>> 3 &&& 1#32
  if pin_state ≠ 0#32 then printf (line true) else printf (line false)

/-- The loop body of `LED.c`. -/
def ledRound : BlinkProg Unit := do
  orReg (GPSET0 / 4) (1#32 <<< 4)
  showLevel .afterSet
  sleep 2
  orReg (GPCLR0 / 4) (1#32 <<< 4)
  showLevel .afterClear
  sleep 2
  orReg (GPSET0 / 4) (1#32 <<< 17)
  sleep 2
  orReg (GPCLR0 / 4) (1#32 <<< 17)
  sleep 2

/-- `main` of `LED.c`. -/
def ledMain : BlinkProg ℤ :=
  withBlock fun _ => do
    setupFour
    setupSeventeen
    forM (List.range 3) fun _ => ledRound

/-- The loop body of `LCD.c`. -/
def lcdRound : BlinkProg Unit := do
  orReg (GPSET0 / 4) (1#32 <<< 4)
  sleep 1
  orReg (GPCLR0 / 4) (1#32 <<< 4)
  sleep 1

/-- `main` of `LCD.c`. -/
def lcdMain : BlinkProg ℤ :=
  withBlock fun address => do
    setupFour
    forM (List.range 3) fun _ => lcdRound
    printf (.address .base address)
    printf (.address .gpfsel0 (address + GPFSEL0))
    printf (.address .gpset0 (address + GPSET0))
    printf (.address .gpclr0 (address + GPCLR0))

/-- What opening and mapping give, and the words read from registers other than GPFSEL0 to GPFSEL5. -/
structure Host where
  fd : ℤ
  mapped : Option ℕ
  sense : ℕ → ℕ → BitVec 32

/-- The block, the latches during each wait so far, and the printed lines. -/
structure Lamps where
  block : Block
  shown : List (ℕ → Bool)
  printed : List BlinkLine

variable (host : Host) (lamps : Lamps)

/-- The word that a read returns. -/
def Host.word (block : Block) (offset : ℕ) : BitVec 32 :=
  if offset < 6 then block.regs offset else host.sense offset block.reads

/-- The hardware, with a record of what the LEDs show. -/
def Host.handler : Handler BlinkCalls Lamps where
  answer
    | .openMem, lamps => (host.fd, lamps)
    | .mmap _, lamps => (host.mapped, lamps)
    | .perror _, lamps => ((), lamps)
    | .read offset, lamps => (host.word lamps.block offset, { lamps with block := lamps.block.tick })
    | .write offset value, lamps => ((), { lamps with block := lamps.block.write offset value })
    | .sleep _, lamps => ((), { lamps with shown := lamps.shown ++ [lamps.block.latch] })
    | .printf line, lamps => ((), { lamps with printed := lamps.printed ++ [line] })
    | .munmap _, lamps => ((), lamps)
    | .close _, lamps => ((), lamps)

/-- After bits of a register were set. -/
def Lamps.orReg (offset : ℕ) (mask : BitVec 32) : Lamps :=
  { lamps with block := lamps.block.tick.write offset (host.word lamps.block offset ||| mask) }

/-- After a level was shown. -/
def Lamps.showLevel (line : Bool → BlinkLine) : Lamps where
  block := lamps.block.tick
  shown := lamps.shown
  printed := lamps.printed ++ [line ((host.sense 13 lamps.block.reads).getLsbD 3)]

/-- After a wait. -/
def Lamps.sleep : Lamps := { lamps with shown := lamps.shown ++ [lamps.block.latch] }

/-- After a round of `LED.c`. -/
def Lamps.ledRound : Lamps :=
  ((((((((lamps.orReg host 7 (1#32 <<< 4)).showLevel host .afterSet).sleep).orReg host 10 (1#32 <<< 4)).showLevel
    host .afterClear).sleep).orReg host 7 (1#32 <<< 17)).sleep.orReg host 10 (1#32 <<< 17)).sleep

/-- After a round of `LCD.c`. -/
def Lamps.lcdRound : Lamps :=
  ((lamps.orReg host 7 (1#32 <<< 4)).sleep.orReg host 10 (1#32 <<< 4)).sleep

section Runs

/-- A merged register. -/
theorem run_orReg (offset : ℕ) (mask : BitVec 32) :
    (orReg offset mask).run host.handler lamps = (.ok (), lamps.orReg host offset mask) := rfl

/-- A wait. -/
theorem run_sleep (seconds : ℕ) : (sleep seconds).run host.handler lamps = (.ok (), lamps.sleep) := rfl

/-- The level shown is that of GPIO 3. -/
theorem run_showLevel (line : Bool → BlinkLine) :
    (showLevel line).run host.handler lamps = (.ok (), lamps.showLevel host line) := by
  have hbit := level_eq_zero (host.sense 13 lamps.block.reads) 3
  change (if host.sense 13 lamps.block.reads >>> 3 &&& 1#32 ≠ 0#32 then printf (line true) else printf (line false)).run
    host.handler { lamps with block := lamps.block.tick } = _
  by_cases hhigh : (host.sense 13 lamps.block.reads).getLsbD 3 = true
  · rw [hhigh, Bool.not_true, beq_eq_false_iff_ne] at hbit
    rw [if_pos hbit, Lamps.showLevel, hhigh]
    rfl
  · rw [Bool.eq_false_of_not_eq_true hhigh, Bool.not_false, beq_iff_eq] at hbit
    rw [if_neg (not_not.mpr hbit), Lamps.showLevel, Bool.eq_false_of_not_eq_true hhigh]
    rfl

/-- A round of `LED.c`. -/
theorem run_ledRound : ledRound.run host.handler lamps = (.ok (), lamps.ledRound host) := by
  rw [ledRound, Prog.run_bind_of_ok _ _ (run_orReg ..), Prog.run_bind_of_ok _ _ (run_showLevel ..),
    Prog.run_bind_of_ok _ _ (run_sleep ..), Prog.run_bind_of_ok _ _ (run_orReg ..),
    Prog.run_bind_of_ok _ _ (run_showLevel ..)]
  rfl

/-- Rounds follow each other. -/
theorem run_rounds {round : BlinkProg Unit} {next : Lamps → Lamps}
    (hround : ∀ lamps, round.run host.handler lamps = (.ok (), next lamps)) (values : List ℕ) :
    (forM values fun _ => round).run host.handler lamps = (.ok (), next^[values.length] lamps) := by
  induction values generalizing lamps with
  | nil => rfl
  | cons i rest ih =>
    rw [List.forM_cons, Prog.run_bind_of_ok _ _ (hround lamps), ih]
    rfl

end Runs

section Latches

/-- GPSET0 and GPCLR0 never read as one at the bit of a pin. -/
def Quiet (pin : ℕ) : Prop :=
  ∀ reading, (host.sense 7 reading).getLsbD pin = false ∧ (host.sense 10 reading).getLsbD pin = false

variable {pin bit : ℕ} (hquiet : Quiet host pin) (hbit : bit < 32)

/-- The mask of a bit. -/
theorem getLsbD_mask (hbit : bit < 32) : (1#32 <<< bit).getLsbD pin = decide (pin = bit) := by
  rw [BitVec.getLsbD_shiftLeft, BitVec.getLsbD_one]
  by_cases heq : pin = bit
  · simp [heq, hbit]
  · simp only [heq, decide_false]
    by_cases hlt : pin < bit
    · simp [hlt]
    · simp [show ¬pin - bit = 0 by omega]

include hquiet hbit

/-- Setting the bit of a pin in GPSET0 raises that pin, and no quiet pin besides. -/
theorem latch_set :
    (lamps.orReg host 7 (1#32 <<< bit)).block.latch pin = if pin = bit then true else lamps.block.latch pin := by
  change (if 0 ≤ pin ∧ pin < 0 + 32 ∧ (host.sense 7 lamps.block.reads ||| 1#32 <<< bit).getLsbD (pin - 0) then true
    else lamps.block.latch pin) = _
  rw [Nat.sub_zero, BitVec.getLsbD_or, (hquiet _).1, getLsbD_mask hbit, Bool.false_or]
  by_cases heq : pin = bit
  · rw [if_pos heq, if_pos ⟨Nat.zero_le pin, by omega, decide_eq_true heq⟩]
  · rw [if_neg heq, if_neg fun h => heq (of_decide_eq_true h.2.2)]

/-- Setting the bit of a pin in GPCLR0 lowers that pin, and no quiet pin besides. -/
theorem latch_clear :
    (lamps.orReg host 10 (1#32 <<< bit)).block.latch pin = if pin = bit then false else lamps.block.latch pin := by
  change (if 0 ≤ pin ∧ pin < 0 + 32 ∧ (host.sense 10 lamps.block.reads ||| 1#32 <<< bit).getLsbD (pin - 0) then false
    else lamps.block.latch pin) = _
  rw [Nat.sub_zero, BitVec.getLsbD_or, (hquiet _).2, getLsbD_mask hbit, Bool.false_or]
  by_cases heq : pin = bit
  · rw [if_pos heq, if_pos ⟨Nat.zero_le pin, by omega, decide_eq_true heq⟩]
  · rw [if_neg heq, if_neg fun h => heq (of_decide_eq_true h.2.2)]

end Latches

section Rounds

variable {pin : ℕ} (hquiet : Quiet host pin)

/-- What the latches of a pin are during the waits so far. -/
def Lamps.levels (pin : ℕ) : List Bool := lamps.shown.map fun latch => latch pin

/-- Merging a register is no wait. -/
@[simp] theorem levels_orReg (offset : ℕ) (mask : BitVec 32) :
    (lamps.orReg host offset mask).levels pin = lamps.levels pin := rfl

/-- Neither is printing a level. -/
@[simp] theorem levels_showLevel (line : Bool → BlinkLine) :
    (lamps.showLevel host line).levels pin = lamps.levels pin := rfl

/-- A wait shows the latch of the pin. -/
@[simp] theorem levels_sleep : lamps.sleep.levels pin = lamps.levels pin ++ [lamps.block.latch pin] :=
  List.map_append

/-- Printing a level changes no latch. -/
@[simp] theorem latch_showLevel (line : Bool → BlinkLine) :
    (lamps.showLevel host line).block.latch = lamps.block.latch := rfl

/-- Neither does a wait. -/
@[simp] theorem latch_sleep : lamps.sleep.block.latch = lamps.block.latch := rfl

include hquiet

/-- A round of `LED.c` raises and lowers GPIO 4, and then GPIO 17. -/
theorem levels_ledRound :
    (lamps.ledRound host).levels pin = lamps.levels pin ++
        [if pin = 4 then true else lamps.block.latch pin, if pin = 4 then false else lamps.block.latch pin,
          if pin = 17 then true else if pin = 4 then false else lamps.block.latch pin,
          if pin = 17 then false else if pin = 4 then false else lamps.block.latch pin] ∧
      (lamps.ledRound host).block.latch pin =
        if pin = 17 then false else if pin = 4 then false else lamps.block.latch pin := by
  have hset (lamps : Lamps) {bit : ℕ} (hbit : bit < 32) := latch_set host lamps hquiet hbit
  have hclear (lamps : Lamps) {bit : ℕ} (hbit : bit < 32) := latch_clear host lamps hquiet hbit
  rw [Lamps.ledRound]
  simp only [levels_sleep, levels_orReg, levels_showLevel, latch_sleep, latch_showLevel, hset, hclear, Nat.reduceLT,
    List.append_assoc, List.cons_append, List.nil_append]
  by_cases hfour : pin = 4 <;> by_cases hseventeen : pin = 17 <;> simp [hfour, hseventeen]

/-- A round of `LCD.c` raises and lowers GPIO 4. -/
theorem levels_lcdRound :
    (lamps.lcdRound host).levels pin = lamps.levels pin ++
        [if pin = 4 then true else lamps.block.latch pin, if pin = 4 then false else lamps.block.latch pin] ∧
      (lamps.lcdRound host).block.latch pin = if pin = 4 then false else lamps.block.latch pin := by
  have hset (lamps : Lamps) {bit : ℕ} (hbit : bit < 32) := latch_set host lamps hquiet hbit
  have hclear (lamps : Lamps) {bit : ℕ} (hbit : bit < 32) := latch_clear host lamps hquiet hbit
  rw [Lamps.lcdRound]
  simp only [levels_sleep, levels_orReg, latch_sleep, hset, hclear, Nat.reduceLT, List.append_assoc, List.cons_append,
    List.nil_append]
  by_cases hfour : pin = 4 <;> simp [hfour]

end Rounds

section Functions

/-- Merging the output bit into the field of a pin changes the function of no other pin. -/
theorem pinFunction_merge (regs : ℕ → BitVec 32) (pin other : ℕ) :
    pinFunction (Function.update regs (pin / 10) (regs (pin / 10) ||| placeField 32 (3 * (pin % 10)) 1#3)) other =
      if other = pin then pinFunction regs other ||| 1#3 else pinFunction regs other := by
  by_cases hpin : other = pin
  · subst hpin
    rw [if_pos rfl, pinFunction, Function.update_self, getField_or_placeField_same _ _ _ (by omega), pinFunction]
  · rw [if_neg hpin, pinFunction]
    by_cases hword : other / 10 = pin / 10
    · rw [hword, Function.update_self, getField_or_placeField_of_disjoint _ _ _ _ (by omega), pinFunction, hword]
    · rw [Function.update_of_ne hword, pinFunction]

/-- The registers after the setup of GPIO 4 and after that of GPIO 17. -/
def Lamps.setupFour : Lamps :=
  ((lamps.orReg host 0 (0#32 <<< 14)).orReg host 0 (0#32 <<< 13)).orReg host 0 (1#32 <<< 12)

def Lamps.setupSeventeen : Lamps :=
  ((lamps.orReg host 1 (0#32 <<< 23)).orReg host 1 (0#32 <<< 22)).orReg host 1 (1#32 <<< 21)

/-- A function-select register is read back when bits are set in it. -/
theorem regs_orReg {offset : ℕ} (hoffset : offset < 6) (mask : BitVec 32) :
    (lamps.orReg host offset mask).block.regs =
      Function.update lamps.block.regs offset (lamps.block.regs offset ||| mask) := by
  change Function.update lamps.block.regs offset (host.word lamps.block offset ||| mask) = _
  rw [Host.word, if_pos hoffset]

/-- A shifted zero sets nothing. -/
theorem regs_orReg_zero {offset : ℕ} (hoffset : offset < 6) (shift : ℕ) :
    (lamps.orReg host offset (0#32 <<< shift)).block.regs = lamps.block.regs := by
  rw [regs_orReg host lamps hoffset, BitVec.zero_shiftLeft, BitVec.or_zero, Function.update_eq_self]

/-- The setup of GPIO 4 merges its output bit. -/
theorem regs_setupFour :
    (lamps.setupFour host).block.regs = Function.update lamps.block.regs (4 / 10)
      (lamps.block.regs (4 / 10) ||| placeField 32 (3 * (4 % 10)) 1#3) := by
  rw [Lamps.setupFour, regs_orReg _ _ (by decide), regs_orReg_zero _ _ (by decide), regs_orReg_zero _ _ (by decide)]
  rfl

/-- The setup of GPIO 17 merges its output bit. -/
theorem regs_setupSeventeen :
    (lamps.setupSeventeen host).block.regs = Function.update lamps.block.regs (17 / 10)
      (lamps.block.regs (17 / 10) ||| placeField 32 (3 * (17 % 10)) 1#3) := by
  rw [Lamps.setupSeventeen, regs_orReg _ _ (by decide), regs_orReg_zero _ _ (by decide),
    regs_orReg_zero _ _ (by decide)]
  rfl

/-- The other registers do not touch the functions. -/
theorem pinFunction_orReg_of_le {offset : ℕ} (hoffset : 6 ≤ offset) (mask : BitVec 32) {pin : ℕ} (hpin : pin < 60) :
    pinFunction (lamps.orReg host offset mask).block.regs pin = pinFunction lamps.block.regs pin := by
  rw [pinFunction, pinFunction]
  change getField (Function.update lamps.block.regs offset _ (pin / 10)) _ _ = _
  rw [Function.update_of_ne (by omega)]

/-- Rounds do not touch the functions. -/
theorem pinFunction_ledRound {pin : ℕ} (hpin : pin < 60) :
    pinFunction (lamps.ledRound host).block.regs pin = pinFunction lamps.block.regs pin := by
  have hkeep (lamps : Lamps) {offset : ℕ} (hoffset : 6 ≤ offset) (mask : BitVec 32) :=
    pinFunction_orReg_of_le host lamps hoffset mask hpin
  have hlevel (lamps : Lamps) (line : Bool → BlinkLine) :
      (lamps.showLevel host line).block.regs = lamps.block.regs := rfl
  have hsleep (lamps : Lamps) : lamps.sleep.block.regs = lamps.block.regs := rfl
  rw [Lamps.ledRound]
  simp only [hsleep, hlevel, hkeep, Nat.reduceLeDiff]

/-- Rounds do not touch the functions. -/
theorem pinFunction_lcdRound {pin : ℕ} (hpin : pin < 60) :
    pinFunction (lamps.lcdRound host).block.regs pin = pinFunction lamps.block.regs pin := by
  have hkeep (lamps : Lamps) {offset : ℕ} (hoffset : 6 ≤ offset) (mask : BitVec 32) :=
    pinFunction_orReg_of_le host lamps hoffset mask hpin
  have hsleep (lamps : Lamps) : lamps.sleep.block.regs = lamps.block.regs := rfl
  rw [Lamps.lcdRound]
  simp only [hsleep, hkeep, Nat.reduceLeDiff]

end Functions

/-- The memory is opened and the block mapped. -/
def Host.Maps : Prop := 0 ≤ host.fd ∧ host.mapped.isSome

/-- Without the block the programs end with status -1, and have accessed no register. -/
theorem run_withBlock_of_not_maps (hmaps : ¬host.Maps) (body : ℕ → BlinkProg Unit) :
    (withBlock body).run host.handler lamps = (.error ⟨-1⟩, lamps) := by
  change (if host.fd < 0 then _ else _ : BlinkProg ℤ).run host.handler lamps = _
  by_cases hfd : host.fd < 0
  · rw [if_pos hfd]
    rfl
  · rw [if_neg hfd]
    cases hmapped : host.mapped with
    | none =>
      change (match host.mapped with | none => _ | some address => _ : BlinkProg ℤ).run host.handler lamps = _
      rw [hmapped]
      rfl
    | some address => exact absurd ⟨not_lt.mp hfd, by rw [hmapped]; rfl⟩ hmaps

/-- With the block they run their body and return 0. -/
theorem run_withBlock {address : ℕ} (hfd : 0 ≤ host.fd) (hmapped : host.mapped = some address)
    {body : ℕ → BlinkProg Unit} {lamps' : Lamps} (hbody : (body address).run host.handler lamps = (.ok (), lamps')) :
    (withBlock body).run host.handler lamps = (.ok 0, lamps') := by
  change (if host.fd < 0 then _ else _ : BlinkProg ℤ).run host.handler lamps = _
  rw [if_neg (not_lt.mpr hfd)]
  change (match host.mapped with | none => _ | some address => _ : BlinkProg ℤ).run host.handler lamps = _
  rw [hmapped]
  change (body address >>= fun _ => _ : BlinkProg ℤ).run host.handler lamps = _
  rw [Prog.run_bind_of_ok _ _ hbody]
  rfl

/-- The lines of the rounds of `LED.c`, from the number of reads before. -/
def roundLines (reads : ℕ) : List BlinkLine :=
  [.afterSet ((host.sense 13 (reads + 1)).getLsbD 3), .afterClear ((host.sense 13 (reads + 3)).getLsbD 3)]

/-- For every result of opening and mapping, every block and all words read from it: without the block
`LED.c` ends with status -1 and has accessed no register. Otherwise it returns 0, merges the output bit
into the functions of GPIO 4 and GPIO 17 and leaves the others as they are, and prints the levels of
GPIO 3, whatever GPIO 4 does. If GPSET0 and GPCLR0 never read as one at a pin, its latch is high during
the first of four waits for GPIO 4 and during the third for GPIO 17, three times over, and the latches
of the other pins stay as they are. -/
theorem led_blinks (block : Block) :
    (¬host.Maps → ledMain.run host.handler ⟨block, [], []⟩ = (.error ⟨-1⟩, ⟨block, [], []⟩)) ∧
      (host.Maps → ∃ lamps, ledMain.run host.handler ⟨block, [], []⟩ = (.ok 0, lamps) ∧
        (∀ pin < 60, pinFunction lamps.block.regs pin =
          if pin = 4 ∨ pin = 17 then pinFunction block.regs pin ||| 1#3 else pinFunction block.regs pin) ∧
        lamps.printed = roundLines host (block.reads + 6) ++ roundLines host (block.reads + 12) ++
          roundLines host (block.reads + 18) ∧
        ∀ pin, Quiet host pin → lamps.levels pin =
          if pin = 4 then [true, false, false, false, true, false, false, false, true, false, false, false]
          else if pin = 17 then
            [block.latch 17, block.latch 17, true, false, false, false, true, false, false, false, true, false]
          else List.replicate 12 (block.latch pin)) := by
  refine ⟨fun hmaps => run_withBlock_of_not_maps host _ hmaps _, fun hmaps => ?_⟩
  obtain ⟨address, hmapped⟩ := Option.isSome_iff_exists.mp hmaps.2
  let ready : Lamps := (Lamps.setupFour host ⟨block, [], []⟩).setupSeventeen host
  have hrounds := run_rounds host ready (run_ledRound host) (List.range 3)
  have hbody : (setupFour >>= fun _ => setupSeventeen >>= fun _ => forM (List.range 3) fun _ => ledRound).run
      host.handler ⟨block, [], []⟩ = (.ok (), ((ready.ledRound host).ledRound host).ledRound host) := hrounds
  refine ⟨_, run_withBlock host _ hmaps.1 hmapped hbody, fun pin hpin => ?_, rfl, fun pin hquiet => ?_⟩
  · rw [pinFunction_ledRound _ _ hpin, pinFunction_ledRound _ _ hpin, pinFunction_ledRound _ _ hpin,
      regs_setupSeventeen, pinFunction_merge, regs_setupFour, pinFunction_merge]
    by_cases hfour : pin = 4 <;> by_cases hseventeen : pin = 17 <;> simp [hfour, hseventeen]
  · have hlatch : ready.block.latch = block.latch := rfl
    have hlevels : ready.levels pin = [] := rfl
    obtain ⟨hfirst, hfirst'⟩ := levels_ledRound host ready hquiet
    obtain ⟨hsecond, hsecond'⟩ := levels_ledRound host (ready.ledRound host) hquiet
    obtain ⟨hthird, -⟩ := levels_ledRound host ((ready.ledRound host).ledRound host) hquiet
    rw [hthird, hsecond', hsecond, hfirst', hfirst, hlatch, hlevels]
    by_cases hfour : pin = 4 <;> by_cases hseventeen : pin = 17 <;> simp [hfour, hseventeen]

/-- For every result of opening and mapping, every block and all words read from it: `LCD.c` behaves as
`LED.c` does, with GPIO 4 alone and two waits for each round, and prints addresses. -/
theorem lcd_blinks (block : Block) :
    (¬host.Maps → lcdMain.run host.handler ⟨block, [], []⟩ = (.error ⟨-1⟩, ⟨block, [], []⟩)) ∧
      (host.Maps → ∃ lamps address, lcdMain.run host.handler ⟨block, [], []⟩ = (.ok 0, lamps) ∧
        (∀ pin < 60, pinFunction lamps.block.regs pin =
          if pin = 4 then pinFunction block.regs pin ||| 1#3 else pinFunction block.regs pin) ∧
        lamps.printed = [.address .base address, .address .gpfsel0 (address + GPFSEL0),
          .address .gpset0 (address + GPSET0), .address .gpclr0 (address + GPCLR0)] ∧
        ∀ pin, Quiet host pin → lamps.levels pin =
          if pin = 4 then [true, false, true, false, true, false] else List.replicate 6 (block.latch pin)) := by
  refine ⟨fun hmaps => run_withBlock_of_not_maps host _ hmaps _, fun hmaps => ?_⟩
  obtain ⟨address, hmapped⟩ := Option.isSome_iff_exists.mp hmaps.2
  let ready : Lamps := Lamps.setupFour host ⟨block, [], []⟩
  let last : Lamps := ((ready.lcdRound host).lcdRound host).lcdRound host
  have hbody : (setupFour >>= fun _ => (forM (List.range 3) fun _ => lcdRound) >>= fun _ => do
      printf (.address .base address)
      printf (.address .gpfsel0 (address + GPFSEL0))
      printf (.address .gpset0 (address + GPSET0))
      printf (.address .gpclr0 (address + GPCLR0))).run host.handler ⟨block, [], []⟩ =
        (.ok (), { last with printed := [.address .base address, .address .gpfsel0 (address + GPFSEL0),
          .address .gpset0 (address + GPSET0), .address .gpclr0 (address + GPCLR0)] }) := rfl
  refine ⟨_, address, run_withBlock host _ hmaps.1 hmapped hbody, fun pin hpin => ?_, rfl, fun pin hquiet => ?_⟩
  · change pinFunction last.block.regs pin = _
    rw [pinFunction_lcdRound _ _ hpin, pinFunction_lcdRound _ _ hpin, pinFunction_lcdRound _ _ hpin, regs_setupFour,
      pinFunction_merge]
  · have hlatch : ready.block.latch = block.latch := rfl
    have hlevels : ready.levels pin = [] := rfl
    obtain ⟨hfirst, hfirst'⟩ := levels_lcdRound host ready hquiet
    obtain ⟨hsecond, hsecond'⟩ := levels_lcdRound host (ready.lcdRound host) hquiet
    obtain ⟨hthird, -⟩ := levels_lcdRound host ((ready.lcdRound host).lcdRound host) hquiet
    change last.levels pin = _
    rw [hthird, hsecond', hsecond, hfirst', hfirst, hlatch, hlevels]
    by_cases hfour : pin = 4 <;> simp [hfour]

end Maestro.Gpio.Blink
