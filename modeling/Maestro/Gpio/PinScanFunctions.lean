import Maestro.Gpio.PinScan

/-!
# The pin functions while levels are sampled

The level of a pin says something about the test only while the pin is an output. Since
the tests merge the output bit into the function field, the first pin of each register is
sampled with whatever its field held before; the later ones find a zeroed register. The
loop invariant records which registers have been zeroed and where the shift count stands.
-/

namespace Maestro.Gpio.PinScan

open Effect Word

/-- The function-select registers of a block have the given contents. -/
def HasFunctions (words : ℕ → BitVec 32) (block : Block) : Prop := ∀ word < 6, block.regs word = words word

/-- The contents when pins below `i` have been tested: their registers are zeroed. -/
def tested (words : ℕ → BitVec 32) (i : ℕ) : ℕ → BitVec 32 :=
  fun word => if 10 * word < i then 0#32 else words word

/-- The contents in which pin `j` is sampled. -/
def merged (words : ℕ → BitVec 32) (j : ℕ) : ℕ → BitVec 32 :=
  Function.update (tested words j) (j / 10) (tested words j (j / 10) ||| 1#32 <<< (3 * (j % 10)))

/-- Each of the two level samples of each pin is taken while the pin's function is output. -/
def SampledAsOutput {α : Type} (sense : ℕ → ℕ → BitVec 32) (block : Block) (prog : ScanProg α) : Prop :=
  ∀ j < 27, ∀ b < 2, ∃ sampled,
    (levelSamples (prog.trace (device ScanLine sense) block))[2 * j + b]? = some sampled ∧
      pinFunction sampled.regs j = 1#3

/-- Every branch of the loop tests its pin in the register and at the shift where the pin's
function field is. -/
theorem scanPin_eq_testPin (scan : Scan) (j : ℕ) (hj : j < 27)
    (hk : j = 10 ∨ j = 20 ∨ scan.k = 3 * (j % 10)) :
    ∃ gpfsel, gpfsel / 4 = j / 10 ∧ j / 10 < 6 ∧
      scanPin scan j =
        testPin gpfsel (3 * (j % 10)) j scan.check >>= fun check => Prog.ret ⟨3 * (j % 10) + 3, check⟩ := by
  by_cases hfirst : j < 10
  · have hshift : scan.k = 3 * (j % 10) := by omega
    refine ⟨GPFSEL0, by simp only [GPFSEL0]; omega, by omega, ?_⟩
    rw [scanPin, if_pos hfirst, hshift]
    rfl
  · by_cases hsecond : j < 20
    · have hshift : (if j = 10 then 0 else scan.k) = 3 * (j % 10) := by split <;> omega
      refine ⟨GPFSEL1, by simp only [GPFSEL1]; omega, by omega, ?_⟩
      rw [scanPin, if_neg hfirst, if_pos hsecond, hshift]
      rfl
    · have hshift : (if j = 20 then 0 else scan.k) = 3 * (j % 10) := by split <;> omega
      refine ⟨GPFSEL2, by simp only [GPFSEL2]; omega, by omega, ?_⟩
      rw [scanPin, if_neg hfirst, if_neg hsecond, hshift]
      rfl

section Requests

variable (sense : ℕ → ℕ → BitVec 32) (block : Block) {words : ℕ → BitVec 32}
  (hwords : HasFunctions words block)

/-- The level samples of two traces, one after the other. -/
theorem levelSamples_append (left right : List (Step (Mmio ScanLine) Block)) :
    levelSamples (left ++ right) = levelSamples left ++ levelSamples right :=
  List.filterMap_append

/-- Reading and rewriting a register other than GPLEV0 samples no level. -/
theorem levelSamples_orReg (offset : ℕ) (hoffset : offset ≠ GPLEV0 / 4) (mask : BitVec 32) :
    levelSamples ((orReg offset mask).trace (device ScanLine sense) block) = [] := by
  change List.filterMap _ [_, _] = []
  simp [hoffset]

/-- Clearing bits of another register samples no level. -/
theorem levelSamples_andReg (offset : ℕ) (hoffset : offset ≠ GPLEV0 / 4) (mask : BitVec 32) :
    levelSamples ((andReg offset mask).trace (device ScanLine sense) block) = [] := by
  change List.filterMap _ [_, _] = []
  simp [hoffset]

/-- A sample is taken of the block as it is. -/
theorem levelSamples_sampleLevel (j : ℕ) :
    levelSamples ((sampleLevel j).trace (device ScanLine sense) block) = [block] := rfl

/-- A report samples no level. -/
theorem levelSamples_report (wrong : Bool) (j check : ℕ) :
    levelSamples ((report wrong j check).trace (device ScanLine sense) block) = [] := by
  cases wrong <;> rfl

/-- A sample is the bit of its pin. -/
theorem eval_sampleLevel (j : ℕ) :
    (sampleLevel j).eval (device ScanLine sense) block =
      (sense (GPLEV0 / 4) block.reads >>> j &&& 1#32, block.tick) := rfl

/-- A report notes a wrong level. -/
theorem eval_report (wrong : Bool) (j check : ℕ) :
    (report wrong j check).eval (device ScanLine sense) block = (if wrong then 1 else check, block) := by
  cases wrong <;> rfl

/-- A wait leaves the block as it is. -/
theorem eval_sleep (seconds : ℕ) :
    (sleep seconds : ScanProg Unit).eval (device ScanLine sense) block = ((), block) := rfl

/-- A wait samples no level. -/
theorem levelSamples_sleep (seconds : ℕ) :
    levelSamples ((sleep seconds : ScanProg Unit).trace (device ScanLine sense) block) = [] := rfl

include hwords

/-- Merging bits into a function-select register. -/
theorem hasFunctions_orReg (offset : ℕ) (hoffset : offset < 6) (mask : BitVec 32) :
    HasFunctions (Function.update words offset (words offset ||| mask))
      ((orReg offset mask).eval (device ScanLine sense) block).2 := by
  intro word hword
  change Function.update block.regs offset ((if offset < 6 then _ else _) ||| mask) word = _
  rw [if_pos hoffset, hwords offset hoffset]
  by_cases heq : word = offset
  · rw [heq, Function.update_self, Function.update_self]
  · rw [Function.update_of_ne heq, Function.update_of_ne heq, hwords word hword]

/-- Merging bits into another register leaves the function-select registers alone. -/
theorem hasFunctions_orReg_of_le (offset : ℕ) (hoffset : 6 ≤ offset) (mask : BitVec 32) :
    HasFunctions words ((orReg offset mask).eval (device ScanLine sense) block).2 := by
  intro word hword
  change Function.update block.regs offset _ word = _
  rw [Function.update_of_ne (by omega), hwords word hword]

/-- Masking a function-select register with zero clears it. -/
theorem hasFunctions_andReg (offset : ℕ) :
    HasFunctions (Function.update words offset 0#32)
      ((andReg offset 0#32).eval (device ScanLine sense) block).2 := by
  intro word hword
  change Function.update block.regs offset (_ &&& 0#32) word = _
  rw [BitVec.and_zero]
  by_cases heq : word = offset
  · rw [heq, Function.update_self, Function.update_self]
  · rw [Function.update_of_ne heq, Function.update_of_ne heq, hwords word hword]

/-- Masking another register leaves the function-select registers alone. -/
theorem hasFunctions_andReg_of_le (offset : ℕ) (hoffset : 6 ≤ offset) (mask : BitVec 32) :
    HasFunctions words ((andReg offset mask).eval (device ScanLine sense) block).2 := by
  intro word hword
  change Function.update block.regs offset _ word = _
  rw [Function.update_of_ne (by omega), hwords word hword]

/-- A read leaves the functions as they are. -/
theorem hasFunctions_tick : HasFunctions words block.tick := hwords

/-- The test of one pin samples its level twice while its register holds the merged function
bit, and leaves that register zero. -/
theorem testPin_samples (gpfsel k j check : ℕ) (hsel : gpfsel / 4 < 6) :
    ∃ first second,
      levelSamples ((testPin gpfsel k j check).trace (device ScanLine sense) block) = [first, second] ∧
      HasFunctions (Function.update words (gpfsel / 4) (words (gpfsel / 4) ||| 1#32 <<< k)) first ∧
      HasFunctions (Function.update words (gpfsel / 4) (words (gpfsel / 4) ||| 1#32 <<< k)) second ∧
      HasFunctions (Function.update words (gpfsel / 4) 0#32)
        ((testPin gpfsel k j check).eval (device ScanLine sense) block).2 := by
  have hlevel : gpfsel / 4 ≠ GPLEV0 / 4 := by simp only [GPLEV0]; omega
  simp only [testPin, Prog.trace_bind, Prog.eval_bind, levelSamples_append,
    levelSamples_orReg _ _ _ hlevel, levelSamples_orReg _ _ (GPSET0 / 4) (by decide),
    levelSamples_orReg _ _ (GPCLR0 / 4) (by decide), levelSamples_andReg _ _ _ hlevel,
    levelSamples_andReg _ _ (GPSET0 / 4) (by decide), levelSamples_andReg _ _ (GPCLR0 / 4) (by decide),
    levelSamples_sampleLevel, levelSamples_report, levelSamples_sleep, eval_sampleLevel, eval_report,
    eval_sleep, List.nil_append, List.singleton_append]
  -- The contents of the function-select registers, followed through the statements in order.
  have hmerge := hasFunctions_orReg sense block hwords (gpfsel / 4) hsel (1#32 <<< k)
  have hset := hasFunctions_orReg_of_le sense _ hmerge (GPSET0 / 4) (by decide) (1#32 <<< j)
  have hclear := hasFunctions_orReg_of_le sense _ (hasFunctions_tick _ hset) (GPCLR0 / 4) (by decide)
    (1#32 <<< j)
  have hzero := hasFunctions_andReg sense _ (hasFunctions_tick _ hclear) (gpfsel / 4)
  rw [Function.update_idem] at hzero
  have hdone := hasFunctions_andReg_of_le sense _ hzero (GPSET0 / 4) (by decide) 0#32
  exact ⟨_, _, rfl, hset, hclear, hasFunctions_andReg_of_le sense _ hdone (GPCLR0 / 4) (by decide) 0#32⟩

/-- One iteration of the loop tests the pin in its own register, whatever branch it takes. -/
theorem scanPin_samples (scan : Scan) (j : ℕ) (hj : j < 27)
    (hk : j = 10 ∨ j = 20 ∨ scan.k = 3 * (j % 10)) :
    ((scanPin scan j).eval (device ScanLine sense) block).1.k = 3 * (j % 10) + 3 ∧
    ∃ first second,
      levelSamples ((scanPin scan j).trace (device ScanLine sense) block) = [first, second] ∧
      HasFunctions (Function.update words (j / 10) (words (j / 10) ||| 1#32 <<< (3 * (j % 10)))) first ∧
      HasFunctions (Function.update words (j / 10) (words (j / 10) ||| 1#32 <<< (3 * (j % 10)))) second ∧
      HasFunctions (Function.update words (j / 10) 0#32)
        ((scanPin scan j).eval (device ScanLine sense) block).2 := by
  obtain ⟨gpfsel, hword, hsel, heq⟩ := scanPin_eq_testPin scan j hj hk
  have hpin := testPin_samples sense block hwords gpfsel (3 * (j % 10)) j scan.check (hword ▸ hsel)
  rw [hword] at hpin
  rw [heq, Prog.trace_bind, Prog.eval_bind, Prog.trace_ret, List.append_nil]
  exact ⟨rfl, hpin⟩

end Requests

/-- The function of a pin in the block in which it is sampled: only the first pin of a register
still shows what its field held before. -/
theorem pinFunction_merged (words : ℕ → BitVec 32) (j : ℕ) :
    pinFunction (merged words j) j = if j % 10 = 0 then pinFunction words j ||| 1#3 else 1#3 := by
  rw [pinFunction, merged, Function.update_self]
  change getField (_ ||| placeField 32 _ 1#3) _ 3 = _
  rw [getField_or_placeField_same _ _ _ (by omega)]
  by_cases hfirst : j % 10 = 0
  · rw [if_pos hfirst, tested, if_neg (by omega), pinFunction]
  · rw [if_neg hfirst, tested, if_pos (by omega)]
    have hzero : getField 0#32 (3 * (j % 10)) 3 = 0#3 := BitVec.extractLsb'_zero
    rw [hzero]
    rfl

/-- Testing pin `j` zeroes its register, so the invariant moves on to the next pin. -/
theorem tested_succ (words : ℕ → BitVec 32) (j : ℕ) :
    Function.update (tested words j) (j / 10) 0#32 = tested words (j + 1) := by
  funext word
  by_cases hword : word = j / 10
  · rw [hword, Function.update_self, tested, if_pos (by omega)]
  · rw [Function.update_of_ne hword, tested, tested]
    have hiff : 10 * word < j ↔ 10 * word < j + 1 := by omega
    simp only [hiff]

/-- Pairs laid out one after the other take twice as many places. -/
theorem length_flatMap_pairs {α : Type} (f : ℕ → List α) (n : ℕ) (hf : ∀ i < n, (f i).length = 2) :
    ((List.range n).flatMap f).length = 2 * n := by
  induction n with
  | zero => rfl
  | succ n ih =>
    rw [List.range_succ, List.flatMap_append, List.flatMap_singleton, List.length_append,
      ih fun i hi => hf i (by omega), hf n (by omega)]
    omega

/-- Of pairs laid out one after the other, pair `i` is at the places `2 * i` and `2 * i + 1`. -/
theorem getElem?_flatMap_pairs {α : Type} (f : ℕ → List α) (n : ℕ) (hf : ∀ i < n, (f i).length = 2)
    (i b : ℕ) (hi : i < n) (hb : b < 2) : ((List.range n).flatMap f)[2 * i + b]? = (f i)[b]? := by
  induction n with
  | zero => omega
  | succ n ih =>
    have hprefix : ∀ i < n, (f i).length = 2 := fun i hi => hf i (by omega)
    have hlength := length_flatMap_pairs f n hprefix
    rw [List.range_succ, List.flatMap_append, List.flatMap_singleton]
    by_cases hlast : i = n
    · rw [hlast, List.getElem?_append_right (by omega), hlength, Nat.add_sub_cancel_left]
    · rw [List.getElem?_append_left (by omega), ih hprefix (by omega)]

section Loop

variable (sense : ℕ → ℕ → BitVec 32) (block : Block)

/-- The shift count and the zeroed registers at the start of each iteration. -/
theorem scan_invariant (i : ℕ) (hi : i ≤ 27) :
    (i = 10 ∨ i = 20 ∨
      (Prog.atIteration (device ScanLine sense) scanPin ⟨0, 0⟩ block i).1.k = 3 * (i % 10)) ∧
    HasFunctions (tested block.regs i)
      (Prog.atIteration (device ScanLine sense) scanPin ⟨0, 0⟩ block i).2 := by
  refine Prog.atIteration_invariant _ _ _ _
    (fun i (scan : Scan) block' => (i = 10 ∨ i = 20 ∨ scan.k = 3 * (i % 10)) ∧
      HasFunctions (tested block.regs i) block') ⟨Or.inr (Or.inr rfl), fun _ _ => rfl⟩ 27 ?_ i hi
  rintro j hj scan block' ⟨hk, hwords⟩
  obtain ⟨hnext, first, second, -, -, -, hafter⟩ := scanPin_samples sense block' hwords scan j hj hk
  rw [tested_succ] at hafter
  exact ⟨by rw [hnext]; omega, hafter⟩

/-- The outer loop runs the pin loop once. -/
theorem pinLoop_eq : pinLoop = (List.range 27).foldlM scanPin ⟨0, 0⟩ :=
  bind_pure _

/-- The two samples of one iteration, with the contents in which they are taken. -/
theorem iteration_samples (i : ℕ) (hi : i < 27) :
    ∃ first second,
      levelSamples ((scanPin (Prog.atIteration (device ScanLine sense) scanPin ⟨0, 0⟩ block i).1 i).trace
        (device ScanLine sense) (Prog.atIteration (device ScanLine sense) scanPin ⟨0, 0⟩ block i).2) =
        [first, second] ∧
      HasFunctions (merged block.regs i) first ∧ HasFunctions (merged block.regs i) second := by
  obtain ⟨hk, hwords⟩ := scan_invariant sense block i (by omega)
  obtain ⟨-, first, second, hsamples, hfirst, hsecond, -⟩ := scanPin_samples sense _ hwords _ i hi hk
  exact ⟨first, second, hsamples, hfirst, hsecond⟩

/-- The samples of pin `j` are those numbered `2 * j` and `2 * j + 1`, and both are taken with
the merged contents. -/
theorem pinLoop_samples (j : ℕ) (hj : j < 27) (b : ℕ) (hb : b < 2) :
    ∃ sampled, (levelSamples (pinLoop.trace (device ScanLine sense) block))[2 * j + b]? = some sampled ∧
      pinFunction sampled.regs j = pinFunction (merged block.regs j) j := by
  have hword : j / 10 < 6 := by omega
  rw [pinLoop_eq, Prog.trace_foldlM_range_total, levelSamples, List.filterMap_flatMap]
  rw [getElem?_flatMap_pairs _ 27 _ j b hj hb]
  · obtain ⟨first, second, hsamples, hfirst, hsecond⟩ := iteration_samples sense block j hj
    rw [levelSamples] at hsamples
    rw [hsamples]
    interval_cases b
    · exact ⟨first, rfl, by rw [pinFunction, pinFunction, hfirst _ hword]⟩
    · exact ⟨second, rfl, by rw [pinFunction, pinFunction, hsecond _ hword]⟩
  · intro i hi
    obtain ⟨first, second, hsamples, -, -⟩ := iteration_samples sense block i hi
    rw [levelSamples] at hsamples
    rw [hsamples]
    rfl

/-- A function field merged with the output bit is the output code exactly if it was input or
output before. -/
theorem or_one_eq_one_iff (code : BitVec 3) : code ||| 1#3 = 1#3 ↔ code = 0#3 ∨ code = 1#3 := by
  revert code
  decide

/-- A program with the samples of the pin loop samples outputs only exactly if the first pins of
the three registers were inputs or outputs. -/
theorem sampledAsOutput_iff {α : Type} (prog : ScanProg α)
    (hsame : levelSamples (prog.trace (device ScanLine sense) block) =
      levelSamples (pinLoop.trace (device ScanLine sense) block)) :
    SampledAsOutput sense block prog ↔
      ∀ j ∈ [0, 10, 20], pinFunction block.regs j = 0#3 ∨ pinFunction block.regs j = 1#3 := by
  have hpin (j : ℕ) (hj : j < 27) :
      (∀ b < 2, ∃ sampled,
        (levelSamples (prog.trace (device ScanLine sense) block))[2 * j + b]? = some sampled ∧
          pinFunction sampled.regs j = 1#3) ↔
        (j % 10 = 0 → pinFunction block.regs j = 0#3 ∨ pinFunction block.regs j = 1#3) := by
    rw [hsame, ← or_one_eq_one_iff]
    constructor
    · intro hall hfirst
      obtain ⟨sampled, hget, houtput⟩ := hall 0 (by decide)
      obtain ⟨sampled', hget', hmerged⟩ := pinLoop_samples sense block j hj 0 (by decide)
      rw [hget, Option.some.injEq] at hget'
      rw [← hget', houtput, pinFunction_merged, if_pos hfirst] at hmerged
      exact hmerged.symm
    · intro hfield b hb
      obtain ⟨sampled, hget, hmerged⟩ := pinLoop_samples sense block j hj b hb
      refine ⟨sampled, hget, ?_⟩
      rw [hmerged, pinFunction_merged]
      split
      · rename_i hfirst
        exact hfield hfirst
      · rfl
  constructor
  · intro hall j hj
    have hfirst : j < 27 ∧ j % 10 = 0 := by
      revert j
      decide
    exact (hpin j hfirst.1).mp (hall j hfirst.1) hfirst.2
  · intro hfields j hj
    refine (hpin j hj).mpr fun hfirst => hfields j ?_
    simp only [List.mem_cons, List.not_mem_nil, or_false]
    omega

/-- The verdict line samples no level. -/
theorem levelSamples_verdict (scan : Scan) :
    levelSamples ((verdict scan).trace (device ScanLine sense) block) = [] := by
  rw [verdict]
  split <;> rfl

/-- Only the pin loop of `main` samples levels. -/
theorem levelSamples_main :
    levelSamples (main.trace (device ScanLine sense) block) =
      levelSamples (pinLoop.trace (device ScanLine sense) block) := by
  rw [main, Prog.trace_bind, levelSamples_append, levelSamples_verdict, List.append_nil]

/-- So it is in `Gpio_Test`. -/
theorem levelSamples_Gpio_Test :
    levelSamples (Gpio_Test.trace (device ScanLine sense) block) =
      levelSamples (pinLoop.trace (device ScanLine sense) block) := by
  change levelSamples ((pinLoop >>= fun scan => verdict scan >>= fun _ => printf .finish).trace _ _) = _
  rw [Prog.trace_bind, Prog.trace_bind, levelSamples_append, levelSamples_append, levelSamples_verdict]
  exact List.append_nil _

/-- The contents of the function-select registers after the setup of `LED.c`: or-ing a shifted
zero clears nothing. -/
theorem hasFunctions_ledSetup :
    HasFunctions
      (Function.update (Function.update block.regs 0 (block.regs 0 ||| placeField 32 12 1#3)) 1
        (block.regs 1 ||| placeField 32 21 1#3))
      (ledSetup.eval (device ScanLine sense) block).2 := by
  have hwords : HasFunctions block.regs block := fun _ _ => rfl
  have hzero (shift : ℕ) : 0#32 <<< shift = 0#32 := BitVec.zero_shiftLeft shift
  have hfirst := hasFunctions_orReg sense _ (hasFunctions_orReg sense _ (hasFunctions_orReg sense _ hwords
    (GPFSEL0 / 4) (by decide) (0#32 <<< 14)) (GPFSEL0 / 4) (by decide) (0#32 <<< 13))
    (GPFSEL0 / 4) (by decide) (1#32 <<< 12)
  have hsecond := hasFunctions_orReg sense _ (hasFunctions_orReg sense _ (hasFunctions_orReg sense _ hfirst
    (GPFSEL1 / 4) (by decide) (0#32 <<< 23)) (GPFSEL1 / 4) (by decide) (0#32 <<< 22))
    (GPFSEL1 / 4) (by decide) (1#32 <<< 21)
  intro word hword
  have hcontents := hsecond word hword
  simp only [ledSetup, Prog.eval_bind]
  rw [hcontents]
  simp only [GPFSEL0, GPFSEL1, hzero, BitVec.or_zero, Function.update_idem, Function.update_self,
    Nat.zero_div, Nat.reduceDiv, Function.update_of_ne (by decide : (1 : ℕ) ≠ 0)]
  rfl

/-- The setup of `LED.c` merges the output bit into the fields of GPIO 4 and GPIO 17. -/
theorem pinFunction_ledSetup :
    pinFunction (ledSetup.eval (device ScanLine sense) block).2.regs 4 =
        pinFunction block.regs 4 ||| 1#3 ∧
      pinFunction (ledSetup.eval (device ScanLine sense) block).2.regs 17 =
        pinFunction block.regs 17 ||| 1#3 := by
  have hwords := hasFunctions_ledSetup sense block
  constructor
  · rw [pinFunction, hwords (4 / 10) (by decide)]
    exact getField_or_placeField_same (block.regs 0) 12 1#3 (by decide)
  · rw [pinFunction, hwords (17 / 10) (by decide)]
    exact getField_or_placeField_same (block.regs 1) 21 1#3 (by decide)

/-- For every initial contents of the registers and whatever all other reads return: the pin
loop of `GPIOTest.c`, and its copy `Gpio_Test`, sample every level of every pin 0 to 26 with that
pin an output if and only if the fields of pins 0, 10 and 20 were input or output before; and the
setup of `LED.c` makes GPIO 4 and GPIO 17 outputs if and only if their fields were. -/
theorem pins_are_outputs_iff :
    (SampledAsOutput sense block main ↔
      ∀ j ∈ [0, 10, 20], pinFunction block.regs j = 0#3 ∨ pinFunction block.regs j = 1#3) ∧
    (SampledAsOutput sense block Gpio_Test ↔
      ∀ j ∈ [0, 10, 20], pinFunction block.regs j = 0#3 ∨ pinFunction block.regs j = 1#3) ∧
    ((∀ j ∈ [4, 17], pinFunction (ledSetup.eval (device ScanLine sense) block).2.regs j = 1#3) ↔
      ∀ j ∈ [4, 17], pinFunction block.regs j = 0#3 ∨ pinFunction block.regs j = 1#3) := by
  refine ⟨sampledAsOutput_iff sense block main (levelSamples_main sense block),
    sampledAsOutput_iff sense block Gpio_Test (levelSamples_Gpio_Test sense block), ?_⟩
  obtain ⟨hfour, hseventeen⟩ := pinFunction_ledSetup sense block
  simp only [List.forall_mem_cons, List.not_mem_nil, false_imp_iff, implies_true, and_true,
    hfour, hseventeen, or_one_eq_one_iff]

end Loop

/-- With GPIO 0 and GPIO 4 in alternate function 0, the first level of pin 0 is sampled in
alternate function 1, and the setup of `LED.c` leaves GPIO 4 in that function. -/
theorem alternate_function_survives :
    ¬SampledAsOutput (fun _ _ => 0) ⟨fun _ => 0x4004#32, fun _ => false, 0⟩ main ∧
      ¬SampledAsOutput (fun _ _ => 0) ⟨fun _ => 0x4004#32, fun _ => false, 0⟩ Gpio_Test ∧
      ¬∀ j ∈ [4, 17], pinFunction (ledSetup.eval (device ScanLine fun _ _ => 0)
        ⟨fun _ => 0x4004#32, fun _ => false, 0⟩).2.regs j = 1#3 := by
  refine ⟨?_, ?_, fun houtputs => ?_⟩
  · rw [sampledAsOutput_iff _ _ main (levelSamples_main _ _)]
    decide
  · rw [sampledAsOutput_iff _ _ Gpio_Test (levelSamples_Gpio_Test _ _)]
    decide
  · have hfour := houtputs 4 (by decide)
    rw [(pinFunction_ledSetup _ _).1] at hfour
    revert hfour
    decide

end Maestro.Gpio.PinScan
