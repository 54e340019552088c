import Maestro.Effect.Program

/-!
# Loops of programs

A while loop runs on fuel: it returns `none` when the fuel is used up while its
condition still holds, so a loop that never ends returns `none` for every amount of
fuel. A counted loop is a monadic fold over the counter values. Both are described by
the sequence of local states and environments at the start of each iteration: if every
iteration leads from one entry of the sequence to the next, the loop ends at the last
entry and its steps are those of the iterations in order.
-/

namespace Effect.Prog

variable {I : Interface} {ε α β σ : Type}

/-- Repeat the body while the condition holds, at most `fuel` times. -/
def whileDo (cond : α → Bool) (body : α → Prog I ε α) : ℕ → α → Prog I ε (Option α)
  | 0, a => if cond a then ret none else ret (some a)
  | fuel + 1, a => if cond a then body a >>= whileDo cond body fuel else ret (some a)

section While

variable (h : Handler I σ) (cond : α → Bool) (body : α → Prog I ε α) (n : ℕ) (a : ℕ → α) (s : ℕ → σ)
  (hcond : ∀ i < n, cond (a i) = true)
  (hbody : ∀ i < n, (body (a i)).run h (s i) = (.ok (a (i + 1)), s (i + 1)))

include hcond hbody

/-- With exactly the fuel for `n` iterations the loop is at entry `n` of its sequence, and has
returned if the condition fails there. -/
theorem run_whileDo :
    (whileDo cond body n (a 0)).run h (s 0) =
      (.ok (if cond (a n) then none else some (a n)), s n) := by
  induction n generalizing a s with
  | zero => cases hc : cond (a 0) <;> simp [whileDo, hc]
  | succ n ih =>
    have hfirst := hbody 0 (Nat.succ_pos n)
    rw [whileDo, if_pos (hcond 0 (Nat.succ_pos n)), run_bind_of_ok h (s 0) hfirst]
    exact ih (fun i => a (i + 1)) (fun i => s (i + 1))
      (fun i hi => hcond (i + 1) (by omega)) (fun i hi => hbody (i + 1) (by omega))

/-- The steps of the loop are those of its first `n` iterations, in order. -/
theorem trace_whileDo :
    (whileDo cond body n (a 0)).trace h (s 0) =
      (List.range n).flatMap fun i => (body (a i)).trace h (s i) := by
  induction n generalizing a s with
  | zero => cases hc : cond (a 0) <;> simp [whileDo, hc]
  | succ n ih =>
    have hfirst := hbody 0 (Nat.succ_pos n)
    rw [whileDo, if_pos (hcond 0 (Nat.succ_pos n)), trace_bind_of_ok h (s 0) hfirst,
      List.range_succ_eq_map, List.flatMap_cons, List.flatMap_map]
    exact congrArg _ (ih (fun i => a (i + 1)) (fun i => s (i + 1))
      (fun i hi => hcond (i + 1) (by omega)) (fun i hi => hbody (i + 1) (by omega)))

end While

section Counted

variable (h : Handler I σ) (body : α → ℕ → Prog I ε α) (n : ℕ) (a : ℕ → α) (s : ℕ → σ)
  (hbody : ∀ i < n, (body (a i) i).run h (s i) = (.ok (a (i + 1)), s (i + 1)))

include hbody

/-- A counted loop ends at the last entry of its sequence. -/
theorem run_foldlM_range :
    ((List.range n).foldlM body (a 0)).run h (s 0) = (.ok (a n), s n) := by
  induction n with
  | zero => rfl
  | succ n ih =>
    have hrest := ih fun i hi => hbody i (by omega)
    rw [List.range_succ, List.foldlM_append, run_bind_of_ok h (s 0) hrest, List.foldlM_cons,
      run_bind_of_ok h (s n) (hbody n (Nat.lt_succ_self n))]
    rfl

/-- The steps of a counted loop are those of its iterations, in order. -/
theorem trace_foldlM_range :
    ((List.range n).foldlM body (a 0)).trace h (s 0) =
      (List.range n).flatMap fun i => (body (a i) i).trace h (s i) := by
  induction n with
  | zero => rfl
  | succ n ih =>
    have hprefix : ∀ i < n, (body (a i) i).run h (s i) = (.ok (a (i + 1)), s (i + 1)) :=
      fun i hi => hbody i (by omega)
    have hlast := hbody n (Nat.lt_succ_self n)
    rw [List.range_succ, List.foldlM_append, List.flatMap_append,
      trace_bind_of_ok h (s 0) (run_foldlM_range h body n a s hprefix), ih hprefix,
      List.foldlM_cons, trace_bind_of_ok h (s n) hlast]
    simp

end Counted

section Fold

variable (h : Handler I σ) (body : α → β → Prog I ε α) (f : α → β → α)

/-- If the value each iteration returns does not depend on the environment, the value of the
loop is a fold. -/
theorem run_foldlM_value (hbody : ∀ a b s, ((body a b).run h s).1 = .ok (f a b)) (values : List β)
    (a : α) (s : σ) : ((values.foldlM body a).run h s).1 = .ok (values.foldl f a) := by
  induction values generalizing a s with
  | nil => rfl
  | cons b rest ih =>
    rw [List.foldlM_cons, run_bind_of_ok h s (Prod.ext (hbody a b s) rfl), ih, List.foldl_cons]

/-- What every iteration may ask for is all that the whole fold may ask for. -/
theorem AllCalls.foldlM {P : I.Call → Prop} (hbody : ∀ a b, (body a b).AllCalls P) (values : List β)
    (a : α) : (values.foldlM body a).AllCalls P := by
  induction values generalizing a with
  | nil => trivial
  | cons b rest ih =>
    rw [List.foldlM_cons]
    exact (hbody a b).bind ih

end Fold

section Each

variable (h : Handler I σ) (body : β → Prog I ε Unit)

/-- Running a program for each value of a list goes through the states its runs leave. -/
theorem run_forM (hbody : ∀ b s, ((body b).run h s).1 = .ok ()) (values : List β) (s : σ) :
    (forM values body).run h s = (.ok (), values.foldl (fun s b => ((body b).run h s).2) s) := by
  induction values generalizing s with
  | nil => rfl
  | cons b rest ih =>
    rw [List.forM_cons, run_bind_of_ok h s (Prod.ext (hbody b s) rfl), ih, List.foldl_cons]

/-- What every run for a single value may ask for is all that the whole loop may ask for. -/
theorem AllCalls.forM {P : I.Call → Prop} (hbody : ∀ b, (body b).AllCalls P) (values : List β) :
    (forM values body : Prog I ε Unit).AllCalls P := by
  induction values with
  | nil => trivial
  | cons b rest ih =>
    rw [List.forM_cons]
    exact (hbody b).bind fun _ => ih

end Each

end Effect.Prog
