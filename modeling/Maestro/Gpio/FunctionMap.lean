import Maestro.Gpio.Driver

/-!
# Sequences of `pinMode` calls as updates of a pin map

What `pinMode` is for: an assignment of functions to BCM pins, changed at one pin by each
call. The register file refines this map. Reading the function fields after any sequence
of calls gives the map that the calls build, whatever the registers held before, and
nothing outside the written fields changes.
-/

namespace Maestro.Gpio

open Effect Word

/-- Functions of the BCM pins, as the mode calls are meant to assign them. -/
abbrev FunctionMap := ℕ → BitVec 3

/-- The intended effect of one mode call; a mode other than INPUT and OUTPUT is ignored. -/
def FunctionMap.assign (functions : FunctionMap) (call : MappedPin × ℤ) : FunctionMap :=
  match functionCode call.2 with
  | some code => Function.update functions (bcm call.1) code
  | none => functions

/-- Make the calls in order. -/
def pinModes (calls : List (MappedPin × ℤ)) : DriverProg Unit :=
  forM calls fun call => pinMode call.1.val call.2

/-- The block after a sequence of mode calls. -/
def afterPinModes (sense : ℕ → ℕ → BitVec 32) (block : Block) (calls : List (MappedPin × ℤ)) : Block :=
  ((pinModes calls).run (device DriverLine sense) block).2

/-- The mode of the last call on a pin that had mode INPUT or OUTPUT. -/
def lastMode (pin : MappedPin) (calls : List (MappedPin × ℤ)) : Option ℤ :=
  (calls.filter fun call => call.1 = pin ∧ (call.2 = INPUT ∨ call.2 = OUTPUT)).getLast?.map Prod.snd

section Calls

variable (sense : ℕ → ℕ → BitVec 32) (block : Block) (calls : List (MappedPin × ℤ))

/-- A mode is ignored exactly when it is neither INPUT nor OUTPUT. -/
theorem functionCode_eq_none_iff (mode : ℤ) : functionCode mode = none ↔ mode ≠ INPUT ∧ mode ≠ OUTPUT := by
  unfold functionCode
  split
  · simp_all
  · split <;> simp_all

/-- The registers after one mode call. -/
theorem regs_pinMode (pin : MappedPin) (mode : ℤ) :
    ((pinMode pin.val mode).run (device DriverLine sense) block).2.regs =
      match functionCode mode with
      | some code => setFunction block.regs (bcm pin) code
      | none => block.regs := by
  rw [run_pinMode]
  cases functionCode mode <;> rfl

/-- A sequence of mode calls on mapped pins always completes. -/
theorem pinModes_ok : ((pinModes calls).run (device DriverLine sense) block).1 = .ok () := by
  rw [pinModes, Prog.run_forM]
  intro call block
  rw [run_pinMode]

/-- Without calls the block is as at the start. -/
theorem afterPinModes_nil : afterPinModes sense block [] = block := rfl

/-- The first call of a sequence acts on the initial block. -/
theorem afterPinModes_cons (call : MappedPin × ℤ) :
    afterPinModes sense block (call :: calls) =
      afterPinModes sense ((pinMode call.1.val call.2).run (device DriverLine sense) block).2 calls := by
  have hfirst : (pinMode call.1.val call.2).run (device DriverLine sense) block =
      (.ok (), ((pinMode call.1.val call.2).run (device DriverLine sense) block).2) := by
    rw [run_pinMode]
  rw [afterPinModes, pinModes, List.forM_cons, Prog.run_bind_of_ok _ _ hfirst]
  rfl

/-- One mode call refines one update of the pin map. -/
theorem pinFunction_pinMode (call : MappedPin × ℤ) :
    pinFunction ((pinMode call.1.val call.2).run (device DriverLine sense) block).2.regs =
      FunctionMap.assign (pinFunction block.regs) call := by
  rw [regs_pinMode, FunctionMap.assign]
  cases functionCode call.2 with
  | none => rfl
  | some code => exact pinFunction_setFunction _ _ _

/-- The registers refine the pin map over every sequence of mode calls. -/
theorem pinFunction_afterPinModes :
    pinFunction (afterPinModes sense block calls).regs =
      calls.foldl FunctionMap.assign (pinFunction block.regs) := by
  induction calls generalizing block with
  | nil => rfl
  | cons call rest ih => rw [afterPinModes_cons, ih, pinFunction_pinMode, List.foldl_cons]

/-- A property of the registers that every function-field rewrite keeps holds after any
sequence of mode calls. -/
theorem regs_afterPinModes_invariant (Inv : (ℕ → BitVec 32) → Prop)
    (hkeep : ∀ regs (pin : MappedPin) code, Inv regs → Inv (setFunction regs (bcm pin) code))
    (hblock : Inv block.regs) : Inv (afterPinModes sense block calls).regs := by
  induction calls generalizing block with
  | nil => exact hblock
  | cons call rest ih =>
    rw [afterPinModes_cons]
    apply ih
    rw [regs_pinMode]
    cases functionCode call.2 with
    | none => exact hblock
    | some code => exact hkeep _ _ _ hblock

/-- The pin map built by the calls has the last mode of each mapped pin. -/
theorem foldl_assign_bcm (functions : FunctionMap) (pin : MappedPin) :
    calls.foldl FunctionMap.assign functions (bcm pin) =
      match lastMode pin calls with
      | some mode => if mode = INPUT then 0#3 else 1#3
      | none => functions (bcm pin) := by
  induction calls using List.reverseRecOn with
  | nil => rfl
  | append_singleton calls call ih =>
    rw [List.foldl_append, List.foldl_cons, List.foldl_nil, lastMode, List.filter_append]
    by_cases hpin : call.1 = pin
    · by_cases hinput : call.2 = INPUT
      · simp [FunctionMap.assign, functionCode, hpin, hinput]
      · by_cases houtput : call.2 = OUTPUT
        · have hne : ¬OUTPUT = INPUT := by decide
          simp [FunctionMap.assign, functionCode, hpin, houtput, hne]
        · simp only [FunctionMap.assign, functionCode, if_neg hinput, if_neg houtput, ih, lastMode]
          simp [hinput, houtput]
    · have hbcm : bcm pin ≠ bcm call.1 := fun h => hpin (bcm_injective h).symm
      have hassign : FunctionMap.assign (calls.foldl FunctionMap.assign functions) call (bcm pin) =
          calls.foldl FunctionMap.assign functions (bcm pin) := by
        rw [FunctionMap.assign]
        cases functionCode call.2 with
        | none => rfl
        | some code => exact Function.update_of_ne hbcm _ _
      rw [hassign, ih, lastMode]
      simp [hpin]

/-- Pins that no pin number maps to keep their function. -/
theorem foldl_assign_of_unmapped (functions : FunctionMap) (other : ℕ)
    (hother : ∀ pin, bcm pin ≠ other) : calls.foldl FunctionMap.assign functions other = functions other := by
  induction calls generalizing functions with
  | nil => rfl
  | cons call rest ih =>
    rw [List.foldl_cons, ih, FunctionMap.assign]
    cases functionCode call.2 with
    | none => rfl
    | some code => exact Function.update_of_ne (Ne.symm (hother call.1)) _ _

/-- Everything a sequence of mode calls may ask for: register writes go to GPFSEL0 to GPFSEL5. -/
theorem pinModes_allCalls :
    (pinModes calls).AllCalls fun request : MmioCall DriverLine =>
      match request with
      | .write offset _ => offset < 6
      | _ => True := by
  apply Prog.AllCalls.forM
  intro call
  have hword : bcm call.1 / 10 < 6 := by have := bcm_lt call.1; omega
  rw [pinMode_mapped]
  cases functionCode call.2 with
  | none => exact ⟨trivial, fun _ => ⟨trivial, fun _ => trivial⟩⟩
  | some code =>
    exact ⟨trivial, fun _ => ⟨hword, fun _ => ⟨trivial, fun _ => ⟨trivial, fun _ => trivial⟩⟩⟩⟩

/-- All register writes of a sequence of mode calls go to function-select registers. -/
theorem registerWrites_pinModes (write : RegisterWrite)
    (hwrite : write ∈ registerWrites ((pinModes calls).trace (device DriverLine sense) block)) :
    write.offset < 6 := by
  obtain ⟨step, hstep, hrequest⟩ := List.mem_filterMap.mp hwrite
  have hcall := (pinModes_allCalls calls).of_mem_trace (device DriverLine sense) block step hstep
  obtain ⟨state, request, reply⟩ := step
  cases request with
  | write offset value =>
    simp only [Option.some.injEq] at hrequest
    exact hrequest ▸ hcall
  | _ => simp at hrequest

/-- Calls on different pins leave the same registers in either order. -/
theorem regs_afterPinModes_comm (left right : MappedPin × ℤ) (hpins : left.1 ≠ right.1) :
    (afterPinModes sense block [left, right]).regs = (afterPinModes sense block [right, left]).regs := by
  have hbcm : bcm left.1 ≠ bcm right.1 := fun h => hpins (bcm_injective h)
  simp only [afterPinModes_cons, afterPinModes_nil, regs_pinMode]
  cases functionCode left.2 with
  | none => rfl
  | some first =>
    cases functionCode right.2 with
    | none => rfl
    | some second => exact setFunction_comm _ _ _ _ _ hbcm

/-- Repeating a call changes nothing more. -/
theorem regs_afterPinModes_idem (call : MappedPin × ℤ) :
    (afterPinModes sense block [call, call]).regs = (afterPinModes sense block [call]).regs := by
  simp only [afterPinModes_cons, afterPinModes_nil, regs_pinMode]
  cases functionCode call.2 with
  | none => rfl
  | some code => exact setFunction_setFunction_same _ _ _ _

/-- After any sequence of mode calls from any block contents, the function field of each mapped
pin is the one of the last call with mode INPUT or OUTPUT, all other fields, the top bits of
the words and the other registers are as before, and only function-select registers were
written; ignored modes change nothing, calls on different pins commute, and repeating a call
has no further effect. -/
theorem pinModes_refine :
    ((pinModes calls).run (device DriverLine sense) block).1 = .ok () ∧
      (∀ pin, pinFunction (afterPinModes sense block calls).regs (bcm pin) =
        match lastMode pin calls with
        | some mode => if mode = INPUT then 0#3 else 1#3
        | none => pinFunction block.regs (bcm pin)) ∧
      (∀ other ≤ 53, (∀ pin, bcm pin ≠ other) →
        pinFunction (afterPinModes sense block calls).regs other = pinFunction block.regs other) ∧
      (∀ word < 6, getField ((afterPinModes sense block calls).regs word) 30 2 =
        getField (block.regs word) 30 2) ∧
      (∀ write ∈ registerWrites ((pinModes calls).trace (device DriverLine sense) block),
        write.offset < 6) ∧
      (∀ offset, 6 ≤ offset → (afterPinModes sense block calls).regs offset = block.regs offset) ∧
      (∀ pin mode, mode ≠ INPUT → mode ≠ OUTPUT →
        (afterPinModes sense block [(pin, mode)]).regs = block.regs ∧
          registerWrites ((pinModes [(pin, mode)]).trace (device DriverLine sense) block) = []) ∧
      (∀ left right : MappedPin × ℤ, left.1 ≠ right.1 →
        (afterPinModes sense block [left, right]).regs =
          (afterPinModes sense block [right, left]).regs) ∧
      ∀ call, (afterPinModes sense block [call, call]).regs = (afterPinModes sense block [call]).regs := by
  refine ⟨pinModes_ok sense block calls, fun pin => ?_, fun other _ hother => ?_, fun word _ => ?_,
    registerWrites_pinModes sense block calls, fun offset hoffset => ?_, fun pin mode hin hout => ?_,
    regs_afterPinModes_comm sense block, regs_afterPinModes_idem sense block⟩
  · rw [pinFunction_afterPinModes, foldl_assign_bcm]
  · rw [pinFunction_afterPinModes, foldl_assign_of_unmapped _ _ _ hother]
  · refine regs_afterPinModes_invariant sense block calls
      (fun regs => getField (regs word) 30 2 = getField (block.regs word) 30 2) ?_ rfl
    intro regs pin code hregs
    rw [topBits_setFunction, hregs]
  · refine regs_afterPinModes_invariant sense block calls
      (fun regs => regs offset = block.regs offset) ?_ rfl
    intro regs pin code hregs
    have hpin := bcm_lt pin
    rw [setFunction_of_ne _ _ _ _ (by omega), hregs]
  · have hcode : functionCode mode = none := (functionCode_eq_none_iff mode).mpr ⟨hin, hout⟩
    constructor
    · rw [afterPinModes_cons, afterPinModes_nil, regs_pinMode, hcode]
    · have hwrites := registerWrites_pinMode pin mode sense block
      rw [hcode] at hwrites
      rw [pinModes, List.forM_cons, List.forM_nil, Prog.trace_bind_of_ok _ _ (run_pinMode pin mode sense block)]
      simpa using hwrites

end Calls

end Maestro.Gpio
