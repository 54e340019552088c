import Maestro.Gpio.PinScanFunctions

/-!
# What the pin test prints

The words read from GPLEV0 are supplied one after the other, two for each pin; all other reads are
answered with anything. A sample is wrong if the bit of the pin is clear in the first word or set in
the second. Each wrong sample prints the number of its pin, and the flag that decides the verdict
records whether there was one.
-/

namespace Maestro.Gpio.PinScan

open Effect Word

/-- How many words have been read from GPLEV0 and from the other registers. -/
structure Served where
  levels : ℕ
  others : ℕ

/-- The hardware as the source of the words: `levels` are those read from GPLEV0. -/
def levelSource (levels : ℕ → BitVec 32) (other : ℕ → ℕ → BitVec 32) : Handler (Mmio ScanLine) Served where
  answer
    | .read offset, served =>
      if offset = GPLEV0 / 4 then (levels served.levels, { served with levels := served.levels + 1 })
      else (other offset served.others, { served with others := served.others + 1 })
    | .write _ _, served => ((), served)
    | .printf _, served => ((), served)
    | .sleep _, served => ((), served)

/-- The lines printed in a run, in order. -/
def printed {σ : Type} (steps : List (Step (Mmio ScanLine) σ)) : List ScanLine :=
  steps.filterMap fun step =>
    match step.request with
    | .printf line => some line
    | _ => none

/-- How many of the two samples of a pin are wrong. -/
def wrongSamples (levels : ℕ → BitVec 32) (j : ℕ) : ℕ :=
  (!(levels (2 * j)).getLsbD j).toNat + ((levels (2 * j + 1)).getLsbD j).toNat

/-- Both samples of each pin are right. -/
def AllRight (levels : ℕ → BitVec 32) : Prop :=
  ∀ j < 27, (levels (2 * j)).getLsbD j = true ∧ (levels (2 * j + 1)).getLsbD j = false

instance (levels : ℕ → BitVec 32) : Decidable (AllRight levels) := Nat.decidableBallLT 27 _

/-- The pins below `n`, each as often as it has wrong samples. -/
def wrongPins (levels : ℕ → BitVec 32) (n : ℕ) : List ℕ :=
  (List.range n).flatMap fun j => List.replicate (wrongSamples levels j) j

section Pins

variable (levels : ℕ → BitVec 32)

/-- One more pin. -/
theorem wrongPins_succ (n : ℕ) :
    wrongPins levels (n + 1) = wrongPins levels n ++ List.replicate (wrongSamples levels n) n := by
  rw [wrongPins, List.range_succ, List.flatMap_append, List.flatMap_singleton]
  rfl

/-- Only the pins of the loop are listed. -/
theorem lt_of_mem_wrongPins {n j : ℕ} (hmem : j ∈ wrongPins levels n) : j < n := by
  obtain ⟨i, hi, hj⟩ := List.mem_flatMap.mp hmem
  rw [List.eq_of_mem_replicate hj]
  exact List.mem_range.mp hi

/-- The pins are listed in ascending order. -/
theorem wrongPins_pairwise (n : ℕ) : (wrongPins levels n).Pairwise (· ≤ ·) := by
  induction n with
  | zero => exact List.Pairwise.nil
  | succ n ih =>
    rw [wrongPins_succ, List.pairwise_append]
    refine ⟨ih, List.pairwise_replicate.mpr (Or.inr le_rfl), fun i hi j hj => ?_⟩
    rw [List.eq_of_mem_replicate hj]
    exact (lt_of_mem_wrongPins levels hi).le

/-- Each pin is listed as often as it has wrong samples. -/
theorem count_wrongPins (n j : ℕ) :
    (wrongPins levels n).count j = if j < n then wrongSamples levels j else 0 := by
  induction n with
  | zero => rfl
  | succ n ih =>
    rw [wrongPins_succ, List.count_append, ih, List.count_replicate]
    by_cases heq : n = j
    · rw [heq]
      simp
    · have hlt : j < n + 1 ↔ j < n := by omega
      simp [heq, hlt]

/-- No pin is listed exactly when all samples are right. -/
theorem allRight_iff : AllRight levels ↔ ∀ j < 27, wrongSamples levels j = 0 := by
  have hpin (j : ℕ) : wrongSamples levels j = 0 ↔
      (levels (2 * j)).getLsbD j = true ∧ (levels (2 * j + 1)).getLsbD j = false := by
    rw [wrongSamples, Nat.add_eq_zero_iff, Bool.toNat_eq_zero, Bool.toNat_eq_zero, Bool.not_eq_false']
  simp only [AllRight, hpin]

end Pins

/-- The sampled level of a pin is the bit of the pin. -/
theorem level_eq_zero (word : BitVec 32) (j : ℕ) : (word >>> j &&& 1#32 == 0#32) = !word.getLsbD j := by
  rw [BitVec.and_one_eq_setWidth_ofBool_getLsbD, BitVec.getLsbD_ushiftRight, Nat.add_zero]
  cases word.getLsbD j <;> rfl

section Report

variable (levels : ℕ → BitVec 32) (other : ℕ → ℕ → BitVec 32) (served : Served)

/-- The lines of two traces, one after the other. -/
theorem printed_append {σ : Type} (left right : List (Step (Mmio ScanLine) σ)) :
    printed (left ++ right) = printed left ++ printed right :=
  List.filterMap_append

/-- A read of another register takes no word from the sequence. -/
theorem levelSource_other {offset : ℕ} (hoffset : offset ≠ GPLEV0 / 4) :
    (levelSource levels other).answer (.read offset) served =
      (other offset served.others, { served with others := served.others + 1 }) :=
  if_neg hoffset

/-- Rewriting another register takes no word from the sequence. -/
theorem served_orReg {offset : ℕ} (hoffset : offset ≠ GPLEV0 / 4) (mask : BitVec 32) :
    (orReg offset mask).eval (levelSource levels other) served =
      ((), { served with others := served.others + 1 }) := by
  change ((), ((levelSource levels other).answer (.read offset) served).2) = _
  rw [levelSource_other levels other served hoffset]

/-- Clearing bits of another register reads one word that is no level. -/
theorem served_andReg {offset : ℕ} (hoffset : offset ≠ GPLEV0 / 4) (mask : BitVec 32) :
    (andReg offset mask).eval (levelSource levels other) served =
      ((), { served with others := served.others + 1 }) := by
  change ((), ((levelSource levels other).answer (.read offset) served).2) = _
  rw [levelSource_other levels other served hoffset]

/-- Setting bits prints nothing. -/
theorem printed_orReg (offset : ℕ) (mask : BitVec 32) :
    printed ((orReg offset mask).trace (levelSource levels other) served) = [] := rfl

/-- Neither does clearing them. -/
theorem printed_andReg (offset : ℕ) (mask : BitVec 32) :
    printed ((andReg offset mask).trace (levelSource levels other) served) = [] := rfl

/-- A sample is the next word of the sequence. -/
theorem served_sampleLevel (j : ℕ) :
    (sampleLevel j).eval (levelSource levels other) served =
      (levels served.levels >>> j &&& 1#32, { served with levels := served.levels + 1 }) := rfl

/-- Neither does a sample. -/
theorem printed_sampleLevel (j : ℕ) :
    printed ((sampleLevel j).trace (levelSource levels other) served) = [] := rfl

/-- A wrong level sets the flag and prints the pin. -/
theorem served_report (wrong : Bool) (j check : ℕ) :
    (report wrong j check).eval (levelSource levels other) served = (if wrong then 1 else check, served) := by
  cases wrong <;> rfl

/-- A wrong level prints its pin. -/
theorem printed_report (wrong : Bool) (j check : ℕ) :
    printed ((report wrong j check).trace (levelSource levels other) served) =
      List.replicate wrong.toNat (.pin j) := by
  cases wrong <;> rfl

/-- A wait reads nothing. -/
theorem served_sleep (seconds : ℕ) :
    (sleep seconds : ScanProg Unit).eval (levelSource levels other) served = ((), served) := rfl

/-- A wait prints nothing. -/
theorem printed_sleep (seconds : ℕ) :
    printed ((sleep seconds : ScanProg Unit).trace (levelSource levels other) served) = [] := rfl

/-- The test of one pin takes two words and prints the pin once for each that is wrong. -/
theorem testPin_report (gpfsel k j check : ℕ) (hsel : gpfsel / 4 ≠ GPLEV0 / 4)
    (hserved : served.levels = 2 * j) :
    printed ((testPin gpfsel k j check).trace (levelSource levels other) served) =
        List.replicate (wrongSamples levels j) (.pin j) ∧
      ((testPin gpfsel k j check).eval (levelSource levels other) served).1 =
        (if wrongSamples levels j = 0 then check else 1) ∧
      ((testPin gpfsel k j check).eval (levelSource levels other) served).2.levels = 2 * (j + 1) := by
  have hset : GPSET0 / 4 ≠ GPLEV0 / 4 := by decide
  have hclear : GPCLR0 / 4 ≠ GPLEV0 / 4 := by decide
  simp only [testPin, Prog.trace_bind, Prog.eval_bind, printed_append, printed_orReg, printed_andReg,
    printed_sampleLevel, printed_report, printed_sleep, served_orReg levels other _ hsel,
    served_orReg levels other _ hset, served_orReg levels other _ hclear, served_andReg levels other _ hsel,
    served_andReg levels other _ hset, served_andReg levels other _ hclear, served_sampleLevel, served_report,
    served_sleep, hserved, bne, level_eq_zero, Bool.not_not]
  rw [wrongSamples]
  cases (levels (2 * j)).getLsbD j <;> cases (levels (2 * j + 1)).getLsbD j <;> exact ⟨rfl, rfl, rfl⟩

/-- Every branch of the loop tests its pin, in a register that is not GPLEV0. -/
theorem scanPin_branch (scan : Scan) (j : ℕ) :
    ∃ gpfsel k, gpfsel / 4 ≠ GPLEV0 / 4 ∧
      scanPin scan j = testPin gpfsel k j scan.check >>= fun check => Prog.ret ⟨k + 3, check⟩ := by
  by_cases hfirst : j < 10
  · refine ⟨GPFSEL0, scan.k, by decide, ?_⟩
    rw [scanPin, if_pos hfirst]
    rfl
  · by_cases hsecond : j < 20
    · refine ⟨GPFSEL1, if j = 10 then 0 else scan.k, by decide, ?_⟩
      rw [scanPin, if_neg hfirst, if_pos hsecond]
      rfl
    · refine ⟨GPFSEL2, if j = 20 then 0 else scan.k, by decide, ?_⟩
      rw [scanPin, if_neg hfirst, if_neg hsecond]
      rfl

/-- One iteration takes two words, prints its pin for each wrong one, and sets the flag if there is one. -/
theorem scanPin_report (scan : Scan) (j : ℕ) (hserved : served.levels = 2 * j) :
    printed ((scanPin scan j).trace (levelSource levels other) served) =
        List.replicate (wrongSamples levels j) (.pin j) ∧
      ((scanPin scan j).eval (levelSource levels other) served).1.check =
        (if wrongSamples levels j = 0 then scan.check else 1) ∧
      ((scanPin scan j).eval (levelSource levels other) served).2.levels = 2 * (j + 1) := by
  obtain ⟨gpfsel, k, hsel, hbranch⟩ := scanPin_branch scan j
  obtain ⟨hprinted, hcheck, hlevels⟩ := testPin_report levels other served gpfsel k j scan.check hsel hserved
  rw [hbranch, Prog.trace_bind, Prog.eval_bind, Prog.trace_ret, List.append_nil]
  exact ⟨hprinted, hcheck, hlevels⟩

/-- At the start of each iteration two words have been taken for each pin so far, and the flag is set
if one of them was wrong. -/
theorem report_invariant (others i : ℕ) (hi : i ≤ 27) :
    (Prog.atIteration (levelSource levels other) scanPin ⟨0, 0⟩ ⟨0, others⟩ i).1.check =
        (if ∀ j < i, wrongSamples levels j = 0 then 0 else 1) ∧
      (Prog.atIteration (levelSource levels other) scanPin ⟨0, 0⟩ ⟨0, others⟩ i).2.levels = 2 * i := by
  apply Prog.atIteration_invariant _ _ _ _
    (fun i (scan : Scan) (served : Served) =>
      scan.check = (if ∀ j < i, wrongSamples levels j = 0 then 0 else 1) ∧ served.levels = 2 * i)
    ⟨rfl, rfl⟩ 27 ?_ i hi
  intro i _ scan served hstart
  obtain ⟨-, hcheck, hlevels⟩ := scanPin_report levels other served scan i hstart.2
  refine ⟨?_, hlevels⟩
  rw [hcheck, hstart.1]
  by_cases hright : wrongSamples levels i = 0
  · have hnext : (∀ j < i + 1, wrongSamples levels j = 0) ↔ ∀ j < i, wrongSamples levels j = 0 := by
      rw [Nat.forall_lt_succ_right, and_iff_left hright]
    simp only [if_pos hright, hnext]
  · rw [if_neg hright, if_neg fun hall => hright (hall i (Nat.lt_succ_self i))]

/-- The pin loop prints the pins with wrong samples and takes 54 words. -/
theorem pinLoop_report (others : ℕ) :
    printed (pinLoop.trace (levelSource levels other) ⟨0, others⟩) = (wrongPins levels 27).map .pin ∧
      (pinLoop.eval (levelSource levels other) ⟨0, others⟩).1.check = (if AllRight levels then 0 else 1) ∧
      (pinLoop.eval (levelSource levels other) ⟨0, others⟩).2.levels = 54 := by
  obtain ⟨hcheck, hlevels⟩ := report_invariant levels other others 27 le_rfl
  rw [pinLoop_eq, Prog.eval_foldlM_range, Prog.trace_foldlM_range_total]
  refine ⟨?_, ?_, hlevels⟩
  · rw [printed, List.filterMap_flatMap, wrongPins, List.map_flatMap]
    apply List.flatMap_congr
    intro j hj
    obtain ⟨-, hserved⟩ := report_invariant levels other others j (List.mem_range.mp hj).le
    rw [List.map_replicate]
    exact (scanPin_report levels other _ _ j hserved).1
  · rw [hcheck]
    simp only [allRight_iff]

/-- The verdict line. -/
theorem printed_verdict (scan : Scan) :
    printed ((verdict scan).trace (levelSource levels other) served) =
      [if scan.check = 0 then .success else .fail] := by
  rw [verdict]
  by_cases hcheck : scan.check = 0
  · rw [if_neg (not_not.mpr hcheck), if_pos hcheck]
    rfl
  · rw [if_pos hcheck, if_neg hcheck]
    rfl

/-- The verdict reads nothing. -/
theorem served_verdict (scan : Scan) :
    (verdict scan).eval (levelSource levels other) served = ((), served) := by
  rw [verdict]
  split <;> rfl

/-- `main` prints the wrong pins, and success if there is none. -/
theorem printed_main (others : ℕ) :
    printed (main.trace (levelSource levels other) ⟨0, others⟩) =
      (wrongPins levels 27).map .pin ++ [if AllRight levels then .success else .fail] := by
  obtain ⟨hprinted, hcheck, -⟩ := pinLoop_report levels other others
  rw [main, Prog.trace_bind, printed_append, hprinted, printed_verdict, hcheck]
  by_cases hright : AllRight levels <;> simp [hright]

/-- The copy prints its banner lines around the pin loop and the verdict. -/
theorem printed_Gpio_Test :
    printed (Gpio_Test.trace (levelSource levels other) served) =
      [.start, .pinTestStart] ++ printed (main.trace (levelSource levels other) served) ++ [.finish] := by
  have hcopy : (pinLoop >>= fun scan => verdict scan >>= fun _ => printf .finish) =
      (main >>= fun _ => printf .finish : ScanProg Unit) := (bind_assoc pinLoop verdict _).symm
  change .start :: .pinTestStart ::
    printed ((pinLoop >>= fun scan => verdict scan >>= fun _ => printf .finish).trace _ served) = _
  rw [hcopy, Prog.trace_bind, printed_append]
  rfl

/-- Only the pin loop of either program takes words. -/
theorem served_main :
    (main.eval (levelSource levels other) served).2 = (pinLoop.eval (levelSource levels other) served).2 := by
  rw [main, Prog.eval_bind, served_verdict]

/-- `Gpio_Test` reads what its pin loop reads. -/
theorem served_Gpio_Test :
    (Gpio_Test.eval (levelSource levels other) served).2 =
      (pinLoop.eval (levelSource levels other) served).2 := by
  change ((pinLoop >>= fun scan => verdict scan >>= fun _ => printf .finish).eval _ served).2 = _
  rw [Prog.eval_bind, Prog.eval_bind, served_verdict]
  rfl

end Report

/-- For every sequence of words read from GPLEV0 and whatever all other reads return: there is one list
of pins, in ascending order and with each pin from 0 to 26 as often as it has wrong samples, such that
`main` prints exactly this list and then the verdict, which is success if and only if all samples are
right, and `Gpio_Test` prints the same between its banner lines. Both read GPLEV0 54 times. -/
theorem wrong_pins_reported (levels : ℕ → BitVec 32) (other : ℕ → ℕ → BitVec 32) :
    ∃ pins : List ℕ, pins.Pairwise (· ≤ ·) ∧
      (∀ j, pins.count j = if j < 27 then wrongSamples levels j else 0) ∧
      printed (main.trace (levelSource levels other) ⟨0, 0⟩) =
        pins.map .pin ++ [if AllRight levels then .success else .fail] ∧
      printed (Gpio_Test.trace (levelSource levels other) ⟨0, 0⟩) =
        [.start, .pinTestStart] ++ pins.map .pin ++ [if AllRight levels then .success else .fail, .finish] ∧
      (main.eval (levelSource levels other) ⟨0, 0⟩).2.levels = 54 ∧
      (Gpio_Test.eval (levelSource levels other) ⟨0, 0⟩).2.levels = 54 := by
  have hscan := printed_main levels other 0
  obtain ⟨-, -, htaken⟩ := pinLoop_report levels other 0
  refine ⟨wrongPins levels 27, wrongPins_pairwise levels 27, count_wrongPins levels 27, hscan, ?_, ?_, ?_⟩
  · rw [printed_Gpio_Test, hscan, List.append_assoc, List.append_assoc, List.append_assoc]
    rfl
  · rw [served_main, htaken]
  · rw [served_Gpio_Test, htaken]

end Maestro.Gpio.PinScan
