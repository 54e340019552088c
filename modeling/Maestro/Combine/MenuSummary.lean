import Maestro.Combine.Menu

/-!
# What the summary of `CombineCode` shows

The counters add up over all batches since the start, while `n` stays 1, so the two numbers
of a row never speak about the same runs after the first batch. The rows of the tests that
are commented out show one failure each. Whichever calls a summary is meant to cover, it is
wrong: the result says that all rows are right exactly when none is printed.
-/

namespace Maestro.Combine

open Effect

/-- Every printed row satisfies `P`, together with the tests called before it. -/
def AllRows {σ : Type} (P : List (Test × Fin 2) → Test → ℤ → ℤ → Prop)
    (steps : List (Step MenuCalls (Console σ))) : Prop :=
  ∀ step ∈ steps, ∀ test pass fail, step.request = .printf (.row test pass fail) →
    P step.state.calls test pass fail

section Rows

variable {σ : Type} (scan : σ → Scan × σ) (verdict : ℕ → Fin 2)
  (P : List (Test × Fin 2) → Test → ℤ → ℤ → Prop)

/-- The rows of two stretches of steps. -/
theorem allRows_append (first second : List (Step MenuCalls (Console σ))) :
    AllRows P (first ++ second) ↔ AllRows P first ∧ AllRows P second :=
  List.forall_mem_append

/-- The rows of a run are those of its iterations. -/
theorem allRows_flatMap (fuel : ℕ) (steps : ℕ → List (Step MenuCalls (Console σ))) :
    AllRows P ((List.range fuel).flatMap steps) ↔ ∀ i < fuel, AllRows P (steps i) := by
  simp only [AllRows, List.mem_flatMap, List.mem_range]
  exact ⟨fun h i hi step hstep => h step ⟨i, hi, hstep⟩,
    fun h step ⟨i, hi, hstep⟩ => h i hi step hstep⟩

/-- A batch prints nothing. -/
theorem allRows_batch (counts : Counts) (now : Console σ) :
    AllRows P ((batch counts).trace (console scan verdict) now) := by
  have hround (counts : Counts) :
      (round counts).AllCalls fun request => ∀ line, request ≠ MenuCall.printf line := by
    simp [round, runTest, resetGPIO, Prog.AllCalls, Prog.perform]
  have hall : (batch counts).AllCalls fun request => ∀ line, request ≠ MenuCall.printf line :=
    (hround counts).bind fun _ => trivial
  intro step hstep test pass fail hrow
  exact absurd hrow (hall.of_mem_trace _ _ step hstep _)

/-- The lines of a summary. -/
def summaryLines (counts : Counts) : List MenuLine :=
  [.ruler, .title, .ruler] ++
    summaryRows.map (fun test => .row test (counts.of test) (n - counts.of test)) ++ [.total n]

/-- The steps of a summary are its lines. -/
theorem trace_putSummary (counts : Counts) (now : Console σ) :
    (putSummary counts).trace (console scan verdict) now =
      (summaryLines counts).map fun line => ⟨now, .printf line, ()⟩ := rfl

/-- A summary has a row for each test. -/
theorem row_mem_summaryLines (counts : Counts) (test : Test) (pass fail : ℤ) :
    .row test pass fail ∈ summaryLines counts ↔ pass = counts.of test ∧ fail = n - counts.of test := by
  have hlisted : test ∈ summaryRows := by cases test <;> decide
  simp only [summaryLines, List.mem_append, List.mem_cons, List.mem_map, List.not_mem_nil, reduceCtorEq,
    MenuLine.row.injEq, false_or, or_false]
  constructor
  · intro h
    obtain ⟨other, _, rfl, rfl, rfl⟩ := h
    exact ⟨rfl, rfl⟩
  · intro h
    exact ⟨test, hlisted, rfl, h.1.symm, h.2.symm⟩

/-- A summary prints the row of each test once. -/
theorem allRows_putSummary (counts : Counts) (now : Console σ) :
    AllRows P ((putSummary counts).trace (console scan verdict) now) ↔
      ∀ test, P now.calls test (counts.of test) (n - counts.of test) := by
  rw [trace_putSummary]
  constructor
  · intro h test
    exact h ⟨now, .printf (.row test (counts.of test) (n - counts.of test)), ()⟩
      (List.mem_map_of_mem ((row_mem_summaryLines counts test _ _).mpr ⟨rfl, rfl⟩)) _ _ _ rfl
  · intro h step hstep test pass fail hrow
    obtain ⟨line, hline, rfl⟩ := List.mem_map.mp hstep
    obtain rfl := MenuCall.printf.inj hrow
    obtain ⟨rfl, rfl⟩ := (row_mem_summaryLines counts test pass fail).mp hline
    exact h test

/-- The rows of one iteration are those after its batch, if it runs one. -/
theorem allRows_menuBody (globals : Globals) (now : Console σ) :
    AllRows P ((menuBody globals).trace (console scan verdict) now) ↔
      ((scan now.input).1.assign globals.m = 0 → ∀ test,
        P ((menuBody globals).eval (console scan verdict) now).2.calls test
          (((menuBody globals).eval (console scan verdict) now).1.counts.of test)
          (n - ((menuBody globals).eval (console scan verdict) now).1.counts.of test)) := by
  rw [eval_menuBody]
  change AllRows P ([⟨now, .printf .prompt, ()⟩, ⟨now, .scanf, (scan now.input).1⟩] ++
    (if (scan now.input).1.assign globals.m = 0 then _ else _ : MenuProg Globals).trace
      (console scan verdict) { now with input := (scan now.input).2 }) ↔ _
  have hread : AllRows P [⟨now, .printf .prompt, ()⟩, ⟨now, .scanf, (scan now.input).1⟩] := by
    intro step hstep test pass fail hrow
    rcases List.mem_pair.mp hstep with rfl | rfl <;> simp at hrow
  rw [allRows_append, and_iff_right hread]
  by_cases hm : (scan now.input).1.assign globals.m = 0
  · rw [if_pos hm, if_pos hm, Prog.trace_bind, Prog.trace_bind, allRows_append, allRows_append,
      and_iff_right (allRows_batch scan verdict P _ _), allRows_putSummary, and_iff_left,
      forall_prop_of_true hm]
    exact fun _ hstep => absurd hstep List.not_mem_nil
  · rw [if_neg hm]
    exact iff_of_true (fun _ hstep => absurd hstep List.not_mem_nil) fun h => absurd h hm

/-- The rows of a run are those after its batches. -/
theorem allRows_main (fuel : ℕ) (start : Console σ) :
    AllRows P ((main fuel).trace (console scan verdict) start) ↔
      ∀ k < fuel,
        (scan (menuAt scan verdict start k).2.input).1.assign (menuAt scan verdict start k).1.m = 0 →
        ∀ test, P (menuAt scan verdict start (k + 1)).2.calls test
          ((menuAt scan verdict start (k + 1)).1.counts.of test)
          (n - (menuAt scan verdict start (k + 1)).1.counts.of test) := by
  have hmenu : AllRows P [(⟨start, .printf .menu, ()⟩ : Step MenuCalls (Console σ))] := by
    intro step hstep test pass fail hrow
    obtain rfl := List.mem_singleton.mp hstep
    simp at hrow
  rw [trace_main, ← List.singleton_append, allRows_append, and_iff_right hmenu, allRows_flatMap]
  simp only [allRows_menuBody, menuAt_succ]

/-- Every row ever printed shows the passes of its test since the start, and their difference
from 1. -/
theorem rows_of_main (fuel : ℕ) (input : σ) :
    AllRows (fun calls test pass fail => pass = calls.count (test, 1) ∧ fail = 1 - pass)
      ((main fuel).trace (console scan verdict) ⟨input, []⟩) := by
  rw [allRows_main]
  intro i _ _ test
  exact ⟨(tallied_menuAt scan verdict ⟨input, []⟩ rfl (i + 1)).passes test, rfl⟩

/-- The calls of a test are its passed and its failed ones. -/
theorem count_pass_add_fail (calls : List (Test × Fin 2)) (test : Test) :
    calls.count (test, 1) + calls.count (test, 0) = (calls.map Prod.fst).count test := by
  induction calls with
  | nil => rfl
  | cons call rest ih =>
    obtain ⟨called, value⟩ := call
    have hvalue : value = 0 ∨ value = 1 := by
      revert value
      decide
    rw [List.map_cons, List.count_cons, List.count_cons, List.count_cons, ← ih]
    rcases hvalue with rfl | rfl
    · by_cases hcalled : called = test <;> simp [hcalled]
      omega
    · by_cases hcalled : called = test <;> simp [hcalled]
      omega

/-- The numbers of a row are those of the passed and of the failed calls of the test. -/
def RowRight (covered : List (Test × Fin 2)) (test : Test) (pass fail : ℤ) : Prop :=
  pass = covered.count (test, 1) ∧ fail = covered.count (test, 0)

/-- Read as covering all calls since the start, a row is right exactly when its test has been
called once: for the tests of the batch after the first batch only, for the others never. -/
theorem rowRight_since_start (fuel : ℕ) (input : σ) :
    AllRows (fun calls test pass fail =>
        RowRight calls test pass fail ↔ (calls.map Prod.fst).count test = 1)
      ((main fuel).trace (console scan verdict) ⟨input, []⟩) := by
  intro step hstep test pass fail hrow
  obtain ⟨hpass, hfail⟩ := rows_of_main scan verdict fuel input step hstep test pass fail hrow
  have hcalled := count_pass_add_fail step.state.calls test
  rw [RowRight, hfail, hpass, and_iff_right rfl]
  omega

end Rows

/-- What a summary may be meant to cover: the calls from some point on. -/
structure Coverage where
  covered : List (Test × Fin 2) → List (Test × Fin 2)
  isSuffix : ∀ calls, covered calls <:+ calls

/-- The selections as input: each is stored in turn. -/
def enter : List ℤ → Scan × List ℤ
  | [] => (.eof, [])
  | value :: rest => (.stored value, rest)

/-- All rows printed up to the last selection are right. -/
def SummariesRight (coverage : Coverage) (selections : List ℤ) (verdict : ℕ → Fin 2) : Prop :=
  AllRows (fun calls => RowRight (coverage.covered calls))
    ((main selections.length).trace (console enter verdict) ⟨selections, []⟩)

/-- Iteration `k` reads selection `k`. -/
theorem input_menuAt (selections : List ℤ) (verdict : ℕ → Fin 2) (k : ℕ) :
    (menuAt enter verdict ⟨selections, []⟩ k).2.input = selections.drop k := by
  induction k with
  | zero => rfl
  | succ k ih =>
    have hrest : ∀ input : List ℤ, (enter input).2 = input.drop 1 := fun input => by
      cases input <;> rfl
    rw [menuAt_succ, eval_menuBody, ih, hrest, List.drop_drop]
    split
    · rw [input_batch]
    · rfl

/-- A selection within the list is assigned to `m`. -/
theorem assign_enter (selections : List ℤ) (i : ℕ) (hi : i < selections.length) (m : ℤ) :
    (enter (selections.drop i)).1.assign m = selections[i] := by
  rw [List.drop_eq_getElem_cons hi]
  rfl

/-- After a batch the wifi row is wrong, whatever it is meant to cover: the test was not called. -/
theorem not_rowRight_wifi (coverage : Coverage) {counts : Counts} {calls : List (Test × Fin 2)}
    (hcalls : Tallied counts calls) :
    ¬RowRight (coverage.covered calls) .wifiTest (counts.of .wifiTest) (n - counts.of .wifiTest) := by
  intro hright
  have hnever (verdict : Fin 2) : (.wifiTest, verdict) ∉ calls := fun hcall =>
    absurd (hcalls.active _ hcall) (by simp [batchTests])
  have hpasses := hcalls.passes .wifiTest
  rw [List.count_eq_zero_of_not_mem (hnever 1)] at hpasses
  have hfails := hright.2
  rw [List.count_eq_zero_of_not_mem fun hcall => hnever 0 ((coverage.isSuffix calls).mem hcall),
    hpasses] at hfails
  exact absurd hfails (by decide)

/-- The summaries are right exactly when none is printed: 0 is never selected. -/
theorem summariesRight_iff (coverage : Coverage) (selections : List ℤ) (verdict : ℕ → Fin 2) :
    SummariesRight coverage selections verdict ↔ 0 ∉ selections := by
  rw [SummariesRight, allRows_main]
  simp only [input_menuAt]
  constructor
  · intro hright hzero
    obtain ⟨i, hi, hselected⟩ := List.getElem_of_mem hzero
    have hrow := hright i hi (by rw [assign_enter selections i hi, hselected]) .wifiTest
    exact not_rowRight_wifi coverage (tallied_menuAt enter verdict _ rfl (i + 1)) hrow
  · intro hzero i hi hassigned
    rw [assign_enter selections i hi] at hassigned
    exact absurd (hassigned ▸ List.getElem_mem hi) hzero

/-- One selection of 0 with all tests passing: the wifi row shows a failure, for every coverage. -/
theorem wifi_shown_as_failed :
    ¬∃ coverage : Coverage, ∀ (selections : List ℤ) (verdict : ℕ → Fin 2),
      SummariesRight coverage selections verdict := by
  intro h
  obtain ⟨coverage, hall⟩ := h
  have hright := hall [0] fun _ => 1
  rw [SummariesRight, allRows_main] at hright
  exact not_rowRight_wifi coverage (tallied_menuAt enter _ _ rfl 1) (hright 0 (by decide) rfl .wifiTest)

end Maestro.Combine
