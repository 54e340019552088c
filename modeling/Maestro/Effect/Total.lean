import Maestro.Effect.Loop

/-!
# Programs that always return

A program whose stop reasons form an empty type returns a value in every environment.
Its evaluation is a function on states, which composes without case distinctions, and
the iterations of its loops are given by iterating the evaluation of the body.
-/

namespace Effect.Prog

variable {I : Interface} {α β σ : Type}

/-- The value a program returns and the environment it leaves behind. -/
def eval (h : Handler I σ) : Prog I Empty α → σ → α × σ
  | ret value, s => (value, s)
  | stop reason, _ => reason.elim
  | call request rest, s => (rest (h.answer request s).1).eval h (h.answer request s).2

section Eval

variable (h : Handler I σ) (s : σ)

/-- A returned value leaves the environment as it is. -/
@[simp] theorem eval_ret (value : α) : (ret value : Prog I Empty α).eval h s = (value, s) := rfl

/-- A request goes on with its reply. -/
@[simp] theorem eval_call (request : I.Call) (rest : I.Reply request → Prog I Empty α) :
    (call request rest).eval h s =
      (rest (h.answer request s).1).eval h (h.answer request s).2 := rfl

/-- A performed request has the answer of the environment. -/
@[simp] theorem eval_perform (request : I.Call) :
    (perform request : Prog I Empty (I.Reply request)).eval h s = h.answer request s := rfl

/-- Evaluation is the run of the program, which never ends in a stop. -/
theorem run_eq_eval (program : Prog I Empty α) :
    program.run h s = (.ok (program.eval h s).1, (program.eval h s).2) := by
  induction program generalizing s with
  | ret => rfl
  | stop reason => exact reason.elim
  | call request rest ih => exact ih _ _

/-- A run determines the evaluation. -/
theorem eval_eq_of_run {program : Prog I Empty α} {value : α} {s' : σ}
    (hrun : program.run h s = (.ok value, s')) : program.eval h s = (value, s') := by
  rw [run_eq_eval] at hrun
  simp only [Prod.mk.injEq, Except.ok.injEq] at hrun
  exact Prod.ext hrun.1 hrun.2

/-- Sequencing evaluates the continuation in the state its predecessor left. -/
@[simp] theorem eval_bind (program : Prog I Empty α) (next : α → Prog I Empty β) :
    (program >>= next).eval h s = (next (program.eval h s).1).eval h (program.eval h s).2 := by
  apply eval_eq_of_run
  rw [run_bind_of_ok h s (run_eq_eval h s program), run_eq_eval]

/-- The steps of a sequence, with the second part started in the state the first one left. -/
@[simp] theorem trace_bind (program : Prog I Empty α) (next : α → Prog I Empty β) :
    (program >>= next).trace h s =
      program.trace h s ++ (next (program.eval h s).1).trace h (program.eval h s).2 :=
  trace_bind_of_ok h s (run_eq_eval h s program)

end Eval

section Counted

variable (h : Handler I σ) (body : α → ℕ → Prog I Empty α) (a : α) (s : σ)

/-- The local state and environment at the start of each iteration of a counted loop. -/
def atIteration : ℕ → α × σ
  | 0 => (a, s)
  | i + 1 => (body (atIteration i).1 i).eval h (atIteration i).2

/-- A counted loop ends where the iteration after its last would start. -/
theorem eval_foldlM_range (n : ℕ) :
    ((List.range n).foldlM body a).eval h s = atIteration h body a s n :=
  eval_eq_of_run h s
    (run_foldlM_range h body n (fun i => (atIteration h body a s i).1)
      (fun i => (atIteration h body a s i).2) fun _ _ => run_eq_eval h _ _)

/-- The steps of a counted loop are those of its iterations. -/
theorem trace_foldlM_range_total (n : ℕ) :
    ((List.range n).foldlM body a).trace h s =
      (List.range n).flatMap fun i =>
        (body (atIteration h body a s i).1 i).trace h (atIteration h body a s i).2 :=
  trace_foldlM_range h body n (fun i => (atIteration h body a s i).1)
    (fun i => (atIteration h body a s i).2) fun _ _ => run_eq_eval h _ _

/-- What every iteration carries over to the next holds at the start of each. -/
theorem atIteration_invariant (Inv : ℕ → α → σ → Prop) (hstart : Inv 0 a s) (n : ℕ)
    (hbody : ∀ i < n, ∀ a s, Inv i a s →
      Inv (i + 1) ((body a i).eval h s).1 ((body a i).eval h s).2) :
    ∀ i ≤ n, Inv i (atIteration h body a s i).1 (atIteration h body a s i).2 := by
  intro i hi
  induction i with
  | zero => exact hstart
  | succ i ih => exact hbody i (by omega) _ _ (ih (by omega))

end Counted

section While

variable (h : Handler I σ) (cond : α → Bool) (body : α → Prog I Empty α) (a : α) (s : σ)

/-- The local state and environment at the start of each iteration of a while loop. -/
def atRepeat : ℕ → α × σ := atIteration h (fun a _ => body a) a s

/-- The next iteration starts where the body ends. -/
theorem atRepeat_succ (i : ℕ) :
    atRepeat h body a s (i + 1) = (body (atRepeat h body a s i).1).eval h (atRepeat h body a s i).2 := rfl

variable (n : ℕ) (hcond : ∀ i < n, cond (atRepeat h body a s i).1 = true)

include hcond

/-- With fuel for `n` iterations, all of them made, the loop stands where iteration `n` would
start, and has returned if its condition fails there. -/
theorem eval_whileDo :
    (whileDo cond body n a).eval h s =
      (if cond (atRepeat h body a s n).1 then none else some (atRepeat h body a s n).1,
        (atRepeat h body a s n).2) := by
  have hrun := run_whileDo h cond body n (fun i => (atRepeat h body a s i).1)
    (fun i => (atRepeat h body a s i).2) hcond fun _ _ => run_eq_eval h _ _
  exact eval_eq_of_run h s hrun

/-- The steps of the loop are those of its iterations. -/
theorem trace_whileDo_total :
    (whileDo cond body n a).trace h s =
      (List.range n).flatMap fun i => (body (atRepeat h body a s i).1).trace h (atRepeat h body a s i).2 :=
  trace_whileDo h cond body n (fun i => (atRepeat h body a s i).1)
    (fun i => (atRepeat h body a s i).2) hcond fun _ _ => run_eq_eval h _ _

end While

end Effect.Prog
