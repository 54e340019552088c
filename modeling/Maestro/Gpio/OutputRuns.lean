import Maestro.Gpio.FunctionMap
import Maestro.Gpio.ScriptModel

/-!
# Which pin the driver's two operations mean

`pinMode` takes a pin number to the BCM pin behind it, and so does the script model for
every operation. `digitalWrite` uses the pin number as the BCM pin. The theorems below
follow runs of both operations on mapped pins from any block and say exactly when a
`digitalWrite` nevertheless leaves the latches as a write to the mapped pin would, and
which calls perform the register write of the script.
-/

namespace Maestro.Gpio

open Effect Word

/-- A call of the driver on a mapped pin. -/
inductive DriverCall where
  | pinMode (pin : MappedPin) (mode : ℤ)
  | digitalWrite (pin : MappedPin) (value : ℤ)
deriving DecidableEq

/-- The program of a call. -/
def DriverCall.prog : DriverCall → DriverProg Unit
  | .pinMode pin mode => Gpio.pinMode pin.val mode
  | .digitalWrite pin value => Gpio.digitalWrite pin.val value

/-- The register write of the script model for the same call, if it has one. -/
def DriverCall.script (regs : ℕ → BitVec 32) : DriverCall → List RegisterWrite
  | .pinMode pin mode =>
    if mode = INPUT then (Script.pinModeInput pin.val regs).toList
    else if mode = OUTPUT then (Script.pinModeOutput pin.val regs).toList
    else []
  | .digitalWrite pin value =>
    if value = LOW then (Script.valueLow pin.val).toList
    else if value = HIGH then (Script.valueHigh pin.val).toList
    else []

/-- The block after one call. -/
def DriverCall.after (sense : ℕ → ℕ → BitVec 32) (block : Block) (call : DriverCall) : Block :=
  (call.prog.run (device DriverLine sense) block).2

/-- The register writes of one call. -/
def DriverCall.writes (sense : ℕ → ℕ → BitVec 32) (block : Block) (call : DriverCall) :
    List RegisterWrite :=
  registerWrites (call.prog.trace (device DriverLine sense) block)

/-- The block after a sequence of calls. -/
def afterCalls (sense : ℕ → ℕ → BitVec 32) (block : Block) (calls : List DriverCall) : Block :=
  ((forM calls DriverCall.prog : DriverProg Unit).run (device DriverLine sense) block).2

/-- A property of every step of a run: of each call and the block in which it is made. -/
def AlongRun (sense : ℕ → ℕ → BitVec 32) (block : Block) (calls : List DriverCall)
    (property : Block → DriverCall → Prop) : Prop :=
  ∀ past call rest, calls = past ++ call :: rest → property (afterCalls sense block past) call

/-- The latch of the mapped BCM pin takes the written value and all other latches stay. -/
def LatchRight (sense : ℕ → ℕ → BitVec 32) (block : Block) : DriverCall → Prop
  | .pinMode _ _ => True
  | .digitalWrite pin value => value = LOW ∨ value = HIGH →
    (DriverCall.after sense block (.digitalWrite pin value)).latch (bcm pin) = decide (value = HIGH) ∧
      ∀ other ≠ bcm pin,
        (DriverCall.after sense block (.digitalWrite pin value)).latch other = block.latch other

/-- The call performs the register write of the script model and no other. -/
def WritesAsScript (sense : ℕ → ℕ → BitVec 32) (block : Block) (call : DriverCall) : Prop :=
  call.writes sense block = call.script block.regs

/-- The written value is already on the latches of both the BCM pin that has the number `pin`
and the BCM pin that it maps to. -/
def AlreadyThere (block : Block) : DriverCall → Prop
  | .pinMode _ _ => True
  | .digitalWrite pin value => value = LOW ∨ value = HIGH →
    block.latch pin = decide (value = HIGH) ∧ block.latch (bcm pin) = decide (value = HIGH)

/-- The call is a `digitalWrite` of LOW or HIGH. -/
def DriverCall.Drives : DriverCall → Prop
  | .pinMode _ _ => False
  | .digitalWrite _ value => value = LOW ∨ value = HIGH

section Calls

variable (sense : ℕ → ℕ → BitVec 32) (block : Block)

/-- Every call on a mapped pin completes. -/
theorem call_ok (call : DriverCall) : (call.prog.run (device DriverLine sense) block).1 = .ok () := by
  cases call with
  | pinMode pin mode => rw [DriverCall.prog, run_pinMode]
  | digitalWrite pin value => exact (run_digitalWrite sense block pin.val value).1

/-- A run goes from block to block by the effects of its calls. -/
theorem afterCalls_eq_foldl (calls : List DriverCall) :
    afterCalls sense block calls = calls.foldl (DriverCall.after sense) block := by
  rw [afterCalls, Prog.run_forM _ _ fun call block => call_ok sense block call]
  rfl

/-- The item of the pin list. -/
theorem item_pinToGpio (pin : MappedPin) : Script.item Script.pinToGpio pin.val = some (bcm pin : ℤ) := by
  revert pin
  decide

/-- The item of the list of registers. -/
theorem item_gpioToGPFSEL (pin : MappedPin) :
    Script.item Script.gpioToGPFSEL (bcm pin) = some (bcm pin / 10) := by
  revert pin
  decide

/-- The item of the list of shifts. -/
theorem item_gpioToShift (pin : MappedPin) :
    Script.item Script.gpioToShift (bcm pin) = some (3 * (bcm pin % 10)) := by
  revert pin
  decide

/-- The script clears or sets the bit of the mapped BCM pin. -/
theorem script_value (pin : MappedPin) :
    Script.valueLow pin.val = some ⟨10, 1#32 <<< bcm pin⟩ ∧
      Script.valueHigh pin.val = some ⟨7, 1#32 <<< bcm pin⟩ := by
  revert pin
  decide

/-- The mode writes of the driver are those of the script. -/
theorem writesAsScript_pinMode (pin : MappedPin) (mode : ℤ) :
    WritesAsScript sense block (.pinMode pin mode) := by
  have hmodes : ¬OUTPUT = INPUT := by decide
  rw [WritesAsScript, DriverCall.writes, DriverCall.prog, registerWrites_pinMode, DriverCall.script,
    functionCode]
  by_cases hinput : mode = INPUT
  · simp only [if_pos hinput, Script.pinModeInput, item_pinToGpio, item_gpioToGPFSEL,
      item_gpioToShift, Option.bind_eq_bind, Option.bind_some, and_not_mask]
    rfl
  · by_cases houtput : mode = OUTPUT
    · simp only [if_neg hinput, if_pos houtput, Script.pinModeOutput, Script.pinModeInput,
        item_pinToGpio, item_gpioToGPFSEL, item_gpioToShift, Option.bind_eq_bind, Option.bind_some,
        and_not_mask, setField_zero_or_one]
      rfl
    · simp only [if_neg hinput, if_neg houtput]

/-- A set or clear write with one bit reaches the latch of that pin alone. -/
theorem latchWord_one (latch : ℕ → Bool) (pin : ℕ) (hpin : pin < 32) (level : Bool) :
    latchWord latch 0 (1#32 <<< pin) level = Function.update latch pin level := by
  funext other
  by_cases hother : other = pin
  · subst hother
    simp [latchWord, hpin]
  · rw [Function.update_of_ne hother, latchWord, if_neg]
    rintro ⟨-, hlt, hbit⟩
    rw [BitVec.getLsbD_shiftLeft, BitVec.getLsbD_one] at hbit
    simp only [Bool.and_eq_true, Bool.not_eq_true', decide_eq_true_eq, decide_eq_false_iff_not] at hbit
    omega

/-- `digitalWrite` sets the latch of the BCM pin that has the number it was given. -/
theorem latch_digitalWrite (pin : MappedPin) (value : ℤ) (hvalue : value = LOW ∨ value = HIGH) :
    (DriverCall.after sense block (.digitalWrite pin value)).latch =
      Function.update block.latch pin.val (decide (value = HIGH)) := by
  have hlt : pin.val < 32 := by omega
  rw [DriverCall.after, DriverCall.prog, (run_digitalWrite sense block pin.val value).2,
    writeMask_mapped, latchWord_one _ _ hlt, latchWord_one _ _ hlt]
  rcases hvalue with rfl | rfl
  · rfl
  · rfl

/-- One `digitalWrite` acts as a write to the mapped pin exactly when nothing had to change. -/
theorem latchRight_iff (call : DriverCall) : LatchRight sense block call ↔ AlreadyThere block call := by
  cases call with
  | pinMode pin mode => exact Iff.rfl
  | digitalWrite pin value =>
    refine forall_congr' fun hvalue => ?_
    have hpins : bcm pin ≠ pin.val := bcm_ne_self pin
    rw [latch_digitalWrite _ _ _ _ hvalue, Function.update_of_ne hpins]
    constructor
    · rintro ⟨hmapped, hothers⟩
      have hself := hothers pin.val hpins.symm
      rw [Function.update_self] at hself
      exact ⟨hself.symm, hmapped⟩
    · rintro ⟨hself, hmapped⟩
      refine ⟨hmapped, fun other _ => ?_⟩
      by_cases hother : other = pin.val
      · rw [hother, Function.update_self, hself]
      · rw [Function.update_of_ne hother]

/-- One call performs the script's write exactly when it does not drive a pin. -/
theorem writesAsScript_iff (call : DriverCall) : WritesAsScript sense block call ↔ ¬call.Drives := by
  cases call with
  | pinMode pin mode => exact iff_of_true (writesAsScript_pinMode sense block pin mode) not_false
  | digitalWrite pin value =>
    have hbits : (1#32 <<< pin.val : BitVec 32) ≠ 1#32 <<< bcm pin := by revert pin; decide
    rw [WritesAsScript, DriverCall.writes, DriverCall.prog, registerWrites_digitalWrite,
      DriverCall.script, DriverCall.Drives, writeMask_mapped, (script_value pin).1, (script_value pin).2]
    by_cases hlow : value = LOW
    · simp [hlow, hbits]
    · by_cases hhigh : value = HIGH
      · have hne : ¬HIGH = LOW := by decide
        simp [hhigh, hne, hbits]
      · simp [hlow, hhigh]

/-- In every run of the two operations on mapped pins, every `digitalWrite` has the effect of a
write to the mapped pin if and only if every one of them found the value already on both
latches; and every call performs the script's register write if and only if no call drives
a pin. -/
theorem run_latchRight_iff (calls : List DriverCall) :
    (AlongRun sense block calls (LatchRight sense) ↔ AlongRun sense block calls AlreadyThere) ∧
      (AlongRun sense block calls (WritesAsScript sense) ↔ ∀ call ∈ calls, ¬call.Drives) := by
  constructor
  · simp only [AlongRun, latchRight_iff]
  · simp only [AlongRun, writesAsScript_iff]
    constructor
    · intro hrun call hcall
      obtain ⟨past, rest, hsplit⟩ := List.append_of_mem hcall
      exact hrun past call rest hsplit
    · rintro hcalls past call rest rfl
      exact hcalls call (by simp)

/-- Driving pin number 16 high from a cleared block sets another latch than that of its BCM pin
15, with another register write than the script's. -/
theorem digitalWrite_drives_other_pin :
    ¬AlongRun (fun _ _ => 0) ⟨fun _ => 0, fun _ => false, 0⟩ [.digitalWrite 16 HIGH]
        (LatchRight fun _ _ => 0) ∧
      ¬AlongRun (fun _ _ => 0) ⟨fun _ => 0, fun _ => false, 0⟩ [.digitalWrite 16 HIGH]
        (WritesAsScript fun _ _ => 0) := by
  constructor
  · intro hrun
    have hlatch := (hrun [] _ [] rfl (Or.inr rfl)).1
    revert hlatch
    decide
  · intro hrun
    have hwrites := hrun [] _ [] rfl
    revert hwrites
    unfold WritesAsScript
    decide

end Calls

end Maestro.Gpio
