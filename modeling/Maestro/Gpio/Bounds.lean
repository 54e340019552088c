import Maestro.Gpio.FunctionMap

/-!
# Table accesses and unmapped pins

For arbitrary pin numbers, modes and values: which calls stay inside the driver's tables
and leave the block alone when the pin is not mapped. `pinMode` uses the padding entry -1
as an index, and `digitalWrite` never consults the table.
-/

namespace Maestro.Gpio

open Effect Word

/-- A call stays inside the tables, and has no effect if its pin is not mapped. -/
def Contained (pin : ℤ) (prog : DriverProg Unit) : Prop :=
  ∀ (sense : ℕ → ℕ → BitVec 32) (block : Block),
    (∀ table index, (prog.run (device DriverLine sense) block).1 ≠ .error (.outOfBounds table index)) ∧
      (¬Mapped pin →
        (prog.run (device DriverLine sense) block).2.regs = block.regs ∧
          (prog.run (device DriverLine sense) block).2.latch = block.latch)

/-- An unmapped pin number is outside the first table or reads a padding entry there. -/
theorem entry_gpioPin_of_not_mapped {pin : ℤ} (hpin : ¬Mapped pin) :
    entry .pinToGpio gpioPin pin = .stop (.outOfBounds .pinToGpio pin) ∨
      entry .pinToGpio gpioPin pin = .ret (-1) := by
  by_cases houtside : pin < 0 ∨ gpioPin.length ≤ pin.toNat
  · exact Or.inl (entry_of_outside _ _ houtside)
  · right
    obtain ⟨hnonneg, hlen⟩ := not_or.mp houtside
    have hget := List.getElem?_eq_getElem (not_le.mp hlen)
    have hcode : gpioPin[pin.toNat] = -1 := by
      by_contra hcode
      exact hpin ⟨by omega, _, hget, hcode⟩
    have hentry := entry_of_getElem? Table.pinToGpio gpioPin (hget.trans (congrArg some hcode))
    rwa [Int.toNat_of_nonneg (by omega)] at hentry

/-- On an unmapped pin `pinMode` reads outside one of its tables. -/
theorem pinMode_of_not_mapped {pin : ℤ} (hpin : ¬Mapped pin) (mode : ℤ) :
    ∃ table index, pinMode pin mode = .stop (.outOfBounds table index) := by
  rcases entry_gpioPin_of_not_mapped hpin with hstop | hpadding
  · exact ⟨.pinToGpio, pin, by rw [pinMode, hstop, Prog.stop_bind]⟩
  · refine ⟨.gpioToGPFSEL, -1, ?_⟩
    rw [pinMode, hpadding, Prog.ret_bind, entry_of_outside _ _ (Or.inl (by decide)), Prog.stop_bind]

/-- `pinMode` is contained exactly on the mapped pins. -/
theorem contained_pinMode_iff (pin mode : ℤ) : Contained pin (pinMode pin mode) ↔ Mapped pin := by
  constructor
  · intro hcontained
    by_contra hpin
    obtain ⟨table, index, hstop⟩ := pinMode_of_not_mapped hpin mode
    apply (hcontained (fun _ _ => 0) ⟨fun _ => 0, fun _ => false, 0⟩).1 table index
    rw [hstop, Prog.run_stop]
  · intro hmapped sense block
    refine ⟨fun table index => ?_, fun hpin => absurd hmapped hpin⟩
    obtain ⟨p, rfl⟩ := (mapped_iff pin).mp hmapped
    rw [run_pinMode]
    exact fun h => by cases h

/-- No word is its own complement, so every write overwrites some register contents. -/
theorem word_ne_not (word : BitVec 32) : word ≠ ~~~word := by
  intro h
  have hbit := congrArg (fun w : BitVec 32 => w.getLsbD 0) h
  simp at hbit

/-- The registers after a `digitalWrite` of LOW or HIGH. -/
theorem regs_digitalWrite (sense : ℕ → ℕ → BitVec 32) (block : Block) (pin value : ℤ)
    (hvalue : value = LOW ∨ value = HIGH) :
    ((digitalWrite pin value).run (device DriverLine sense) block).2.regs =
      Function.update block.regs (if value = LOW then 10 else 7)
        (1#32 <<< (BitVec.ofInt 32 pin &&& 31#32)) := by
  rcases hvalue with rfl | rfl
  · rfl
  · rfl

/-- `digitalWrite` is contained exactly on the mapped pins and for values other than LOW and
HIGH. -/
theorem contained_digitalWrite_iff (pin value : ℤ) :
    Contained pin (digitalWrite pin value) ↔ Mapped pin ∨ (value ≠ LOW ∧ value ≠ HIGH) := by
  constructor
  · intro hcontained
    by_contra hnot
    obtain ⟨hpin, hvalue⟩ := not_or.mp hnot
    have hdrives : value = LOW ∨ value = HIGH := by tauto
    let mask : BitVec 32 := 1#32 <<< (BitVec.ofInt 32 pin &&& 31#32)
    have hregs := ((hcontained (fun _ _ => 0) ⟨fun _ => ~~~mask, fun _ => false, 0⟩).2 hpin).1
    rw [regs_digitalWrite _ _ _ _ hdrives] at hregs
    have hword := congrFun hregs (if value = LOW then 10 else 7)
    rw [Function.update_self] at hword
    exact word_ne_not mask hword
  · intro hok sense block
    refine ⟨fun table index => ?_, fun hpin => ?_⟩
    · rw [(run_digitalWrite sense block pin value).1]
      exact fun h => by cases h
    · obtain ⟨hlow, hhigh⟩ := hok.resolve_left hpin
      rw [digitalWrite, if_neg hlow, if_neg hhigh]
      exact ⟨rfl, rfl⟩

/-- For every pin number and every mode or value: `pinMode` reads only inside its tables and
spares unmapped pins if and only if the pin is mapped, and `digitalWrite` does so if and only
if the pin is mapped or the value is neither LOW nor HIGH. -/
theorem driver_contained_iff (pin setting : ℤ) :
    (Contained pin (pinMode pin setting) ↔ Mapped pin) ∧
      (Contained pin (digitalWrite pin setting) ↔ Mapped pin ∨ (setting ≠ LOW ∧ setting ≠ HIGH)) :=
  ⟨contained_pinMode_iff pin setting, contained_digitalWrite_iff pin setting⟩

/-- Pin number 17 is padding: `pinMode` then reads entry -1 of a table, and `digitalWrite` sets
the latch of BCM pin 17. -/
theorem driver_escapes_on_padding :
    ¬Mapped 17 ∧ ¬Contained 17 (pinMode 17 OUTPUT) ∧ ¬Contained 17 (digitalWrite 17 HIGH) := by
  have hpin : ¬Mapped 17 := by
    rw [mapped_iff]
    rintro ⟨p, hp⟩
    omega
  refine ⟨hpin, fun hcontained => ?_, fun hcontained => ?_⟩
  · exact (hcontained (fun _ _ => 0) ⟨fun _ => 0, fun _ => false, 0⟩).1 .gpioToGPFSEL (-1) (by rfl)
  · have hlatch := ((hcontained (fun _ _ => 0) ⟨fun _ => 0, fun _ => false, 0⟩).2 hpin).2
    have hbit := congrFun hlatch 17
    revert hbit
    decide

end Maestro.Gpio
