import Maestro.Combine.GpioTest
import Maestro.Effect.Total

/-!
# The reset of the GPIO pins

`resetGPIO` puts the 17 pins of the GPIO test back in input mode. It is meant to leave a low
level on twelve of them and a high level on the five of `HighPin`. Its second loop takes the
pin for the mode from `HighPin` and the pin for the level from `pins`, so the five are never
written, and five of the twelve end up high.
-/

namespace Maestro.Combine.Reset

open Effect

/-- What the reset prints. -/
inductive ResetLine where
  | completed
deriving DecidableEq

/-- The printed text. -/
def ResetLine.text : ResetLine → String
  | completed => "GPIO reset completed.\n"

abbrev ResetProg (ε α : Type) := Prog (PinCalls ResetLine) ε α

/-- The pins that are to be low. -/
def pins : Vector ℕ 12 := #v[0, 2, 3, 23, 25, 4, 5, 6, 31, 27, 28, 29]

/-- The pins that are to be high. -/
def HighPin : Vector ℕ 5 := #v[7, 21, 22, 15, 16]

/-- `resetGPIO`; the second loop writes to the first five of `pins`. -/
def resetGpio {ε : Type} : ResetProg ε Unit := do
  forM (List.finRange 12) fun i => do
    pinMode pins[i] .INPUT
    digitalWrite pins[i] LOW
  forM (List.finRange 5) fun i => do
    pinMode HighPin[i] .INPUT
    digitalWrite pins[i] HIGH
  printf .completed

/-- What the reset is for: all pins of the test are inputs, the listed pins have the levels of
their lists, and no other pin is changed. -/
structure Restored (before after : Bench) : Prop where
  inputs : ∀ pin ∈ Combine.pins, after.mode pin = .INPUT
  high : ∀ pin ∈ HighPin.toList, after.latch pin = HIGH
  low : ∀ pin ∈ pins.toList, after.latch pin = LOW
  others : ∀ pin ∉ Combine.pins, after.mode pin = before.mode pin ∧ after.latch pin = before.latch pin

/-- Writing a value to one place and then to those of a list. -/
theorem ite_mem_update {β : Type} (f : ℕ → β) (first : ℕ) (rest : List ℕ) (value : β) :
    (fun k => if k ∈ rest then value else Function.update f first value k) =
      fun k => if k ∈ first :: rest then value else f k := by
  funext k
  by_cases hrest : k ∈ rest
  · rw [if_pos hrest, if_pos (List.mem_cons_of_mem first hrest)]
  · rw [if_neg hrest]
    by_cases hfirst : k = first
    · rw [if_pos (List.mem_cons.mpr (.inl hfirst)), hfirst, Function.update_self]
    · have hnot : k ∉ first :: rest := fun h => (List.mem_cons.mp h).elim hfirst hrest
      rw [if_neg hnot, Function.update_of_ne hfirst]

section Run

variable (board : Board) (bench : Bench)

/-- A loop that puts pins in one mode and writes one level to pins has done so at its end, and
has changed nothing else. -/
theorem eval_loop {ι : Type} (target written : ι → ℕ) (mode : PinMode) (level : ℤ) (indices : List ι) :
    (forM indices fun i => do
        pinMode (target i) mode
        digitalWrite (written i) level : ResetProg Empty Unit).eval (board.handler ResetLine) bench =
      ((), ⟨fun pin => if pin ∈ indices.map target then mode else bench.mode pin,
        fun pin => if pin ∈ indices.map written then (if level = LOW then LOW else HIGH)
          else bench.latch pin⟩) := by
  induction indices generalizing bench with
  | nil => rfl
  | cons i indices ih =>
    rw [List.forM_cons, Prog.eval_bind, ih, List.map_cons, List.map_cons, ← ite_mem_update,
      ← ite_mem_update]
    rfl

/-- The two loops one after the other. -/
theorem eval_resetGpio :
    resetGpio.eval (board.handler ResetLine) bench =
      ((), ⟨fun pin => if pin ∈ HighPin.toList then .INPUT
          else if pin ∈ pins.toList then .INPUT else bench.mode pin,
        fun pin => if pin ∈ pins.toList.take 5 then HIGH
          else if pin ∈ pins.toList then LOW else bench.latch pin⟩) := by
  have htwelve : (List.finRange 12).map (fun i => pins[i]) = pins.toList := rfl
  have hfive : (List.finRange 5).map (fun i => HighPin[i]) = HighPin.toList := rfl
  have hwritten : (List.finRange 5).map (fun i : Fin 5 => pins[i]) = pins.toList.take 5 := rfl
  rw [resetGpio, Prog.eval_bind, Prog.eval_bind, eval_loop board bench (fun i : Fin 12 => pins[i]) fun i => pins[i],
    eval_loop board _ (fun i : Fin 5 => HighPin[i]) fun i => pins[i], htwelve, hfive, hwritten]
  rfl

/-- The pins of the test are those of the two lists. -/
theorem mem_pins_iff (pin : ℕ) : pin ∈ Combine.pins ↔ pin ∈ HighPin.toList ∨ pin ∈ pins.toList := by
  have hsub : ∀ pin ∈ Combine.pins, pin ∈ HighPin.toList ∨ pin ∈ pins.toList := by decide
  have hsup : ∀ pin ∈ HighPin.toList ++ pins.toList, pin ∈ Combine.pins := by decide
  exact ⟨hsub pin, fun h => hsup pin (List.mem_append.mpr h)⟩

/-- The modes are as they are meant to be: input for the pins of the test, and as before for all
others. -/
theorem mode_after_reset (pin : ℕ) :
    (resetGpio.eval (board.handler ResetLine) bench).2.mode pin =
      if pin ∈ Combine.pins then .INPUT else bench.mode pin := by
  rw [eval_resetGpio]
  change (if pin ∈ HighPin.toList then PinMode.INPUT else if pin ∈ pins.toList then .INPUT else bench.mode pin) = _
  by_cases hhigh : pin ∈ HighPin.toList
  · rw [if_pos hhigh, if_pos ((mem_pins_iff pin).mpr (.inl hhigh))]
  · rw [if_neg hhigh]
    exact if_congr ((or_iff_right hhigh).symm.trans (mem_pins_iff pin).symm) rfl rfl

/-- The levels: the first five of `pins` are high, the other seven low, and all other pins, those
of `HighPin` among them, have the level they had. -/
theorem latch_after_reset (pin : ℕ) :
    (resetGpio.eval (board.handler ResetLine) bench).2.latch pin =
      if pin ∈ [0, 2, 3, 23, 25] then HIGH
      else if pin ∈ [4, 5, 6, 31, 27, 28, 29] then LOW else bench.latch pin := by
  have hsplit : pins.toList = [0, 2, 3, 23, 25] ++ [4, 5, 6, 31, 27, 28, 29] := rfl
  rw [eval_resetGpio]
  change (if pin ∈ [0, 2, 3, 23, 25] then HIGH else if pin ∈ pins.toList then LOW else bench.latch pin) = _
  by_cases hfirst : pin ∈ [0, 2, 3, 23, 25]
  · rw [if_pos hfirst, if_pos hfirst]
  · rw [if_neg hfirst, if_neg hfirst, hsplit]
    exact if_congr (List.mem_append.trans (or_iff_right hfirst)) rfl rfl

/-- Whatever modes and levels the pins start with, the reset never leaves them as it is meant to:
pin 0 is to be low and is high. -/
theorem reset_never_restores : ¬Restored bench (resetGpio.eval (board.handler ResetLine) bench).2 := by
  intro hrestored
  have hmem : 0 ∈ pins.toList := by decide
  have hwritten : 0 ∈ [0, 2, 3, 23, 25] := by decide
  have hlow := hrestored.low 0 hmem
  rw [latch_after_reset, if_pos hwritten] at hlow
  exact absurd hlow (by decide)

end Run

/-- With all pins low outputs at the start, pin 7 stays low and pin 0 becomes high. -/
theorem reset_of_low_outputs :
    ¬Restored ⟨fun _ => .OUTPUT, fun _ => LOW⟩
      (resetGpio.eval (Board.handler ⟨0, fun _ => .healthy, fun _ => LOW⟩ ResetLine)
        ⟨fun _ => .OUTPUT, fun _ => LOW⟩).2 := by
  intro hrestored
  have hmem : 7 ∈ HighPin.toList := by decide
  have hhigh := hrestored.high 7 hmem
  rw [latch_after_reset] at hhigh
  exact absurd hhigh (by decide)

end Maestro.Combine.Reset
