import Maestro.Combine.Menu
import Mathlib.Algebra.Order.Ring.Int

/-!
# What the menu of `CombineCode` does with its input

The law asks for one batch for each 0 that is read, and for the loop to end at a 5 or at the
end of the input. The loop has no exit, and a failed match acts on the old value of `m`,
which is 0 at the start. The main result describes the texts for which the law holds: they
block `scanf` forever, and only after a nonzero number.
-/

namespace Maestro.Combine

open Effect

/-- White space in the C locale. -/
def isSpace (c : Char) : Bool := c ∈ [' ', '\t', '\n', '\x0b', '\x0c', '\r']

/-- The value of a run of decimal digits. -/
def decimal (digits : List Char) : ℕ := digits.foldl (fun value c => 10 * value + (c.toNat - '0'.toNat)) 0

/-- `scanf("%d", &m)` on the rest of a text: skip white space, then match an optional sign and
digits. A sign without digits is consumed. `conv` is the conversion to `int`. -/
def scanInt (conv : ℤ → ℤ) (text : List Char) : Scan × List Char :=
  match text.dropWhile isSpace with
  | [] => (.eof, [])
  | c :: rest =>
    let sign : ℤ := if c = '-' then -1 else 1
    let body := if c = '-' ∨ c = '+' then rest else c :: rest
    let digits := body.takeWhile Char.isDigit
    if digits = [] then (.mismatch, body)
    else (.stored (conv (sign * decimal digits)), body.dropWhile Char.isDigit)

section Law

variable {σ : Type} (scan : σ → Scan × σ) (input : σ)

/-- The input that is left for call `k` of `scanf`. -/
def remaining : ℕ → σ
  | 0 => input
  | k + 1 => (scan (remaining k)).2

/-- The reply to call `k` of `scanf`. -/
def reply (k : ℕ) : Scan := (scan (remaining scan input k)).1

/-- The loop is to be left: `scanf` reads the number of the Exit entry, or the input is exhausted. -/
def Ends (scan : Scan) : Prop := scan = .stored 5 ∨ scan = .eof

/-- The number stored last before call `k` exists and is not 0. -/
def HoldsNonzero (k : ℕ) : Prop :=
  ∃ j < k, ∃ value ≠ 0, reply scan input j = .stored value ∧
    ∀ i, j < i → i < k → ∀ later, reply scan input i ≠ .stored later

/-- The law of the menu. -/
structure MenuLaw (verdict : ℕ → Fin 2) : Prop where
  batches : ∀ fuel, (∀ k < fuel, ¬Ends (reply scan input k)) →
    ((main fuel).eval (console scan verdict) ⟨input, []⟩).2.calls.map Prod.fst =
      (List.range fuel).flatMap fun k => if reply scan input k = .stored 0 then batchTests else []
  leaves : ∀ k, Ends (reply scan input k) → (∀ j < k, ¬Ends (reply scan input j)) →
    ∃ fuel, ((main fuel).eval (console scan verdict) ⟨input, []⟩).1.isSome

variable (verdict : ℕ → Fin 2)

/-- Iteration `k` makes call `k` of `scanf`. -/
theorem input_eq_remaining (k : ℕ) :
    (menuAt scan verdict ⟨input, []⟩ k).2.input =
      remaining scan input k := by
  induction k with
  | zero => rfl
  | succ k ih =>
    rw [menuAt_succ, eval_menuBody, ih]
    split
    · rw [input_batch]
      rfl
    · rfl

/-- After call `k` the variable `m` holds what the call assigns. -/
theorem m_succ (k : ℕ) :
    (menuAt scan verdict ⟨input, []⟩ (k + 1)).1.m =
      (reply scan input k).assign (menuAt scan verdict ⟨input, []⟩ k).1.m := by
  rw [menuAt_succ, eval_menuBody, input_eq_remaining]
  split <;> rfl

/-- An iteration calls the tests of a batch when `m` is 0 after its `scanf`. -/
theorem calls_succ (k : ℕ) :
    (menuAt scan verdict ⟨input, []⟩ (k + 1)).2.calls.map Prod.fst =
      (menuAt scan verdict ⟨input, []⟩ k).2.calls.map Prod.fst ++
        if (menuAt scan verdict ⟨input, []⟩ (k + 1)).1.m = 0
          then batchTests else [] := by
  rw [m_succ, reply, menuAt_succ, eval_menuBody, input_eq_remaining]
  split
  · rw [calls_batch]
  · rw [List.append_nil]

/-- A stored number decides what is held after the call. -/
theorem holdsNonzero_succ_of_stored (k : ℕ) (value : ℤ) (hstored : reply scan input k = .stored value) :
    HoldsNonzero scan input (k + 1) ↔ value ≠ 0 := by
  constructor
  · intro h
    obtain ⟨j, hj, last, hlast, hreply, hlater⟩ := h
    rcases Nat.lt_or_eq_of_le (Nat.le_of_lt_succ hj) with hlt | rfl
    · exact absurd hstored (hlater k hlt (Nat.lt_succ_self k) value)
    · rw [hstored, Scan.stored.injEq] at hreply
      rwa [hreply]
  · intro hvalue
    exact ⟨k, Nat.lt_succ_self k, value, hvalue, hstored, fun i hki hi => absurd hi (by omega)⟩

/-- A call that stores nothing leaves what is held. -/
theorem holdsNonzero_succ_of_not_stored (k : ℕ) (hstored : ∀ value, reply scan input k ≠ .stored value) :
    HoldsNonzero scan input (k + 1) ↔ HoldsNonzero scan input k := by
  constructor
  · intro h
    obtain ⟨j, hj, last, hlast, hreply, hlater⟩ := h
    have hjk : j ≠ k := fun h => hstored last (h ▸ hreply)
    exact ⟨j, by omega, last, hlast, hreply, fun i hji hi => hlater i hji (by omega)⟩
  · intro h
    obtain ⟨j, hj, last, hlast, hreply, hlater⟩ := h
    refine ⟨j, by omega, last, hlast, hreply, fun i hji hi => ?_⟩
    rcases Nat.lt_or_eq_of_le (Nat.le_of_lt_succ hi) with hlt | rfl
    · exact hlater i hji hlt
    · exact hstored

/-- Before call `k`, `m` is nonzero exactly when the number stored last is. -/
theorem m_ne_zero_iff (k : ℕ) :
    (menuAt scan verdict ⟨input, []⟩ k).1.m ≠ 0 ↔
      HoldsNonzero scan input k := by
  induction k with
  | zero =>
    refine iff_of_false (fun h => h rfl) fun h => ?_
    obtain ⟨j, hj, _⟩ := h
    omega
  | succ k ih =>
    rw [m_succ]
    cases hreply : reply scan input k with
    | stored value => rw [holdsNonzero_succ_of_stored scan input k value hreply, Scan.assign]
    | mismatch =>
      rw [holdsNonzero_succ_of_not_stored scan input k (by simp [hreply])]
      exact ih
    | eof =>
      rw [holdsNonzero_succ_of_not_stored scan input k (by simp [hreply])]
      exact ih

/-- The tests called in a run, iteration by iteration. -/
theorem calls_main (fuel : ℕ) :
    ((main fuel).eval (console scan verdict) ⟨input, []⟩).2.calls.map Prod.fst =
      (List.range fuel).flatMap fun k =>
        if (menuAt scan verdict ⟨input, []⟩ (k + 1)).1.m = 0
          then batchTests else [] := by
  have hcalls : (menuAt scan verdict ⟨input, []⟩ fuel).2.calls.map Prod.fst =
      (List.range fuel).flatMap fun k =>
        if (menuAt scan verdict ⟨input, []⟩ (k + 1)).1.m = 0
          then batchTests else [] := by
    induction fuel with
    | zero => rfl
    | succ fuel ih =>
      rw [calls_succ, ih, List.range_succ, List.flatMap_append, List.flatMap_singleton]
  rw [eval_main]
  exact hcalls

/-- If no call ends the input and failed matches keep a nonzero number, `m` is 0 after a call
exactly when the call stores 0. -/
theorem m_succ_eq_zero_iff (k : ℕ) (hends : ¬Ends (reply scan input k))
    (hmismatch : reply scan input k = .mismatch → HoldsNonzero scan input k) :
    (menuAt scan verdict ⟨input, []⟩ (k + 1)).1.m = 0 ↔
      reply scan input k = .stored 0 := by
  rw [m_succ]
  cases hreply : reply scan input k with
  | stored value => rw [Scan.assign, Scan.stored.injEq]
  | mismatch =>
    have hm := (m_ne_zero_iff scan input verdict k).mpr (hmismatch hreply)
    exact iff_of_false hm (by simp)
  | eof => exact absurd (.inr hreply) hends

/-- Under the law no call ends the input, for the loop is never left. -/
theorem not_ends_of_menuLaw (hlaw : MenuLaw scan input verdict) (k : ℕ) : ¬Ends (reply scan input k) := by
  induction k using Nat.strong_induction_on with
  | _ k ih =>
    intro hend
    obtain ⟨fuel, hleft⟩ := hlaw.leaves k hend ih
    rw [eval_main] at hleft
    exact absurd hleft (by simp)

/-- Under the law the calls of each iteration are those the reply asks for. -/
theorem calls_of_menuLaw (hlaw : MenuLaw scan input verdict) (k : ℕ) :
    (if (menuAt scan verdict ⟨input, []⟩ (k + 1)).1.m = 0 then batchTests else []) =
      if reply scan input k = .stored 0 then batchTests else [] := by
  -- They are the difference of two runs.
  have hends := not_ends_of_menuLaw scan input verdict hlaw
  have hbefore := hlaw.batches k fun j _ => hends j
  have hafter := hlaw.batches (k + 1) fun j _ => hends j
  rw [calls_main] at hbefore hafter
  rwa [List.range_succ, List.flatMap_append, List.flatMap_append, hbefore, List.append_cancel_left_eq,
    List.flatMap_singleton, List.flatMap_singleton] at hafter

/-- Under the law a failed match finds a nonzero number. -/
theorem holdsNonzero_of_menuLaw (hlaw : MenuLaw scan input verdict) (k : ℕ)
    (hmismatch : reply scan input k = .mismatch) : HoldsNonzero scan input k := by
  have hcalls := calls_of_menuLaw scan input verdict hlaw k
  rw [m_succ, hmismatch, Scan.assign] at hcalls
  rw [← m_ne_zero_iff scan input verdict]
  intro hm
  rw [if_pos hm] at hcalls
  exact absurd hcalls (by decide)

/-- The law holds exactly when no call of `scanf` reads a 5 or finds the end, and every failed
match comes after a stored number, the last of which is not 0. -/
theorem menuLaw_iff_replies :
    MenuLaw scan input verdict ↔
      (∀ k, ¬Ends (reply scan input k)) ∧
        ∀ k, reply scan input k = .mismatch → HoldsNonzero scan input k := by
  constructor
  · intro hlaw
    exact ⟨not_ends_of_menuLaw scan input verdict hlaw, holdsNonzero_of_menuLaw scan input verdict hlaw⟩
  · intro h
    refine ⟨fun fuel _ => ?_, fun k hend _ => absurd hend (h.1 k)⟩
    rw [calls_main]
    refine List.flatMap_congr fun k _ => ?_
    simp only [m_succ_eq_zero_iff scan input verdict k (h.1 k) (h.2 k)]

end Law

section Text

variable (conv : ℤ → ℤ) (verdict : ℕ → Fin 2)

/-- A stored number takes at least one character. -/
theorem length_scanInt_of_stored (text : List Char) (value : ℤ)
    (hstored : (scanInt conv text).1 = .stored value) :
    (scanInt conv text).2.length < text.length := by
  have hspace : (text.dropWhile isSpace).length ≤ text.length := (List.dropWhile_suffix isSpace).length_le
  rw [scanInt] at hstored ⊢
  cases hrest : text.dropWhile isSpace with
  | nil => simp [hrest] at hstored
  | cons c rest =>
    simp only [hrest] at hstored ⊢ hspace
    have hbody : (if c = '-' ∨ c = '+' then rest else c :: rest).length ≤ (c :: rest).length := by
      split <;> simp
    generalize (if c = '-' ∨ c = '+' then rest else c :: rest) = body at hstored hbody ⊢
    by_cases hdigits : body.takeWhile Char.isDigit = []
    · simp [hdigits] at hstored
    · have hsplit := congrArg List.length (List.takeWhile_append_dropWhile (p := Char.isDigit) (l := body))
      have hpos := List.length_pos_iff.mpr hdigits
      rw [List.length_append] at hsplit
      rw [if_neg hdigits]
      change (body.dropWhile Char.isDigit).length < _
      omega

/-- A text on which no match fails is read to its end, unless a 5 comes first. -/
theorem exists_ends_of_no_mismatch (text : List Char)
    (hmatch : ∀ k, reply (scanInt conv) text k ≠ .mismatch) :
    ∃ k, Ends (reply (scanInt conv) text k) := by
  by_contra hnone
  have hlength : ∀ k, (remaining (scanInt conv) text k).length + k ≤ text.length := by
    intro k
    induction k with
    | zero => exact le_rfl
    | succ k ih =>
      cases hreply : reply (scanInt conv) text k with
      | stored value =>
        have := length_scanInt_of_stored conv _ value hreply
        change (scanInt conv (remaining (scanInt conv) text k)).2.length + (k + 1) ≤ _
        omega
      | mismatch => exact absurd hreply (hmatch k)
      | eof => exact absurd ⟨k, .inr hreply⟩ hnone
  have := hlength (text.length + 1)
  omega

/-- Under the law some match fails: the law holds for no text of numbers. -/
theorem exists_mismatch_of_menuLaw (text : List Char) (hlaw : MenuLaw (scanInt conv) text verdict) :
    ∃ k, reply (scanInt conv) text k = .mismatch := by
  by_contra hnone
  obtain ⟨k, hend⟩ := exists_ends_of_no_mismatch conv text fun k hk => hnone ⟨k, hk⟩
  exact ((menuLaw_iff_replies (scanInt conv) text verdict).mp hlaw).1 k hend

/-- The law for a text on standard input: exactly the texts that never let `scanf` read a 5 or
find the end, and on which a match fails only after a number, the last of them not 0. -/
theorem menuLaw_text_iff (text : List Char) :
    MenuLaw (scanInt conv) text verdict ↔
      (∀ k, ¬Ends (reply (scanInt conv) text k)) ∧
        ∀ k, reply (scanInt conv) text k = .mismatch → HoldsNonzero (scanInt conv) text k :=
  menuLaw_iff_replies (scanInt conv) text verdict

end Text

/-- The Exit entry does not leave the menu. -/
theorem exit_does_not_leave :
    ¬∀ (verdict : ℕ → Fin 2) (text : List Char),
      MenuLaw (scanInt fun value => value.bmod (2 ^ 32)) text verdict := by
  intro hall
  have hlaw := hall (fun _ => 1) ['5', '\n']
  obtain ⟨fuel, hleft⟩ := hlaw.leaves 0 (.inl (by decide)) fun j hj => absurd hj (by omega)
  rw [eval_main] at hleft
  exact absurd hleft (by simp)

end Maestro.Combine
