import Mathlib.Data.Int.Notation
import Mathlib.Data.List.Basic

/-!
# Programs that talk to an environment

A program is a finite tree of requests. Each request is answered by the environment,
and the rest of the program may depend on the reply. Running a program against a
handler gives its result, the final state of the environment, and the list of steps
taken, each with the state in which it was taken.

Programs end by returning a value or by stopping early with a reason. Nothing here
knows which requests exist; an interface supplies them.
-/

namespace Effect

/-- The requests a program may make, and the type of the reply to each. -/
structure Interface where
  Call : Type
  Reply : Call → Type

/-- A program over an interface, returning a value or stopping with a reason. -/
inductive Prog (I : Interface) (ε α : Type) where
  | ret (value : α)
  | stop (reason : ε)
  | call (request : I.Call) (next : I.Reply request → Prog I ε α)

/-- The reason for stopping of a C program that calls `exit`. -/
structure Exit where
  status : ℤ
deriving DecidableEq

/-- One answered request, with the state of the environment when it was made. -/
structure Step (I : Interface) (σ : Type) where
  state : σ
  request : I.Call
  reply : I.Reply request

/-- An environment: it answers every request in every state. -/
structure Handler (I : Interface) (σ : Type) where
  answer : (request : I.Call) → σ → I.Reply request × σ

namespace Prog

variable {I : Interface} {ε α β γ σ τ : Type}

/-- Continue with the returned value; an early stop skips the continuation. -/
protected def bind : Prog I ε α → (α → Prog I ε β) → Prog I ε β
  | ret value, next => next value
  | stop reason, _ => stop reason
  | call request rest, next => call request fun reply => (rest reply).bind next

instance : Monad (Prog I ε) where
  pure := ret
  bind := Prog.bind

/-- Returning is the unit of sequencing. -/
@[simp] theorem pure_eq (value : α) : (pure value : Prog I ε α) = ret value := rfl

/-- A returned value is handed to the continuation. -/
@[simp] theorem ret_bind (value : α) (next : α → Prog I ε β) : (ret value >>= next) = next value := rfl

/-- Nothing runs after an early stop. -/
@[simp] theorem stop_bind (reason : ε) (next : α → Prog I ε β) :
    ((stop reason : Prog I ε α) >>= next) = stop reason := rfl

/-- A request stays in front of whatever follows it. -/
@[simp] theorem call_bind (request : I.Call) (rest : I.Reply request → Prog I ε α)
    (next : α → Prog I ε β) :
    (call request rest >>= next) = call request fun reply => rest reply >>= next := rfl

/-- Returning the result unchanged adds nothing to a program. -/
protected theorem bind_ret (program : Prog I ε α) : program.bind ret = program := by
  induction program with
  | ret => rfl
  | stop => rfl
  | call request rest ih => exact congrArg (call request) (funext ih)

/-- Sequencing does not depend on how the parts are grouped. -/
protected theorem bind_bind (program : Prog I ε α) (next : α → Prog I ε β) (last : β → Prog I ε γ) :
    (program.bind next).bind last = program.bind fun value => (next value).bind last := by
  induction program with
  | ret => rfl
  | stop => rfl
  | call request rest ih => exact congrArg (call request) (funext ih)

instance : LawfulMonad (Prog I ε) :=
  LawfulMonad.mk' _ Prog.bind_ret (fun _ _ => rfl) Prog.bind_bind

/-- The program that makes one request and returns its reply. -/
def perform (request : I.Call) : Prog I ε (I.Reply request) := call request ret

/-- A performed request hands its reply to the continuation. -/
@[simp] theorem perform_bind (request : I.Call) (next : I.Reply request → Prog I ε β) :
    (perform request >>= next) = call request next := rfl

/-- The program that makes no request and ends as given. -/
def ofExcept : Except ε α → Prog I ε α
  | .ok value => ret value
  | .error reason => stop reason

/-- `exit(status)`. -/
def exit (status : ℤ) : Prog I Exit α := stop ⟨status⟩

/-- Nothing runs after `exit`. -/
@[simp] theorem exit_bind (status : ℤ) (next : α → Prog I Exit β) :
    ((exit status : Prog I Exit α) >>= next) = exit status := rfl

/-- The result of a program and the environment it leaves behind. -/
def run (h : Handler I σ) : Prog I ε α → σ → Except ε α × σ
  | ret value, s => (.ok value, s)
  | stop reason, s => (.error reason, s)
  | call request rest, s => (rest (h.answer request s).1).run h (h.answer request s).2

/-- The requests a program makes, in order, with their replies. -/
def trace (h : Handler I σ) : Prog I ε α → σ → List (Step I σ)
  | ret _, _ => []
  | stop _, _ => []
  | call request rest, s =>
    ⟨s, request, (h.answer request s).1⟩ :: (rest (h.answer request s).1).trace h (h.answer request s).2

section Run

variable (h : Handler I σ) (s : σ)

/-- A returned value leaves the environment as it is. -/
@[simp] theorem run_ret (value : α) : (ret value : Prog I ε α).run h s = (.ok value, s) := rfl

/-- So does a stop. -/
@[simp] theorem run_stop (reason : ε) : (stop reason : Prog I ε α).run h s = (.error reason, s) := rfl

/-- A request goes on with its reply. -/
@[simp] theorem run_call (request : I.Call) (rest : I.Reply request → Prog I ε α) :
    (call request rest).run h s =
      (rest (h.answer request s).1).run h (h.answer request s).2 := rfl

/-- A program without requests ends as given. -/
@[simp] theorem run_ofExcept (result : Except ε α) :
    (ofExcept result : Prog I ε α).run h s = (result, s) := by
  cases result <;> rfl

/-- Returning takes no step. -/
@[simp] theorem trace_ret (value : α) : (ret value : Prog I ε α).trace h s = [] := rfl

/-- Stopping takes no step. -/
@[simp] theorem trace_stop (reason : ε) : (stop reason : Prog I ε α).trace h s = [] := rfl

/-- A request is the first step. -/
@[simp] theorem trace_call (request : I.Call) (rest : I.Reply request → Prog I ε α) :
    (call request rest).trace h s =
      ⟨s, request, (h.answer request s).1⟩ ::
        (rest (h.answer request s).1).trace h (h.answer request s).2 := rfl

/-- Sequencing runs the continuation from the state its predecessor left. -/
theorem run_bind_of_ok {program : Prog I ε α} {next : α → Prog I ε β} {value : α} {s' : σ}
    (hrun : program.run h s = (.ok value, s')) :
    (program >>= next).run h s = (next value).run h s' := by
  induction program generalizing s with
  | ret =>
    simp only [run_ret, Prod.mk.injEq, Except.ok.injEq] at hrun
    obtain ⟨rfl, rfl⟩ := hrun
    rfl
  | stop => simp at hrun
  | call request rest ih => exact ih _ _ hrun

/-- A sequence whose first part stops ends there. -/
theorem run_bind_of_error {program : Prog I ε α} {next : α → Prog I ε β} {reason : ε} {s' : σ}
    (hrun : program.run h s = (.error reason, s')) :
    (program >>= next).run h s = (.error reason, s') := by
  induction program generalizing s with
  | ret => cases hrun
  | stop =>
    cases hrun
    rfl
  | call request rest ih => exact ih _ _ hrun

/-- A sequence that returns goes through both parts. -/
theorem run_of_bind_ok {program : Prog I ε α} {next : α → Prog I ε β} {last : β}
    (hrun : ((program >>= next).run h s).1 = .ok last) :
    ∃ value s', program.run h s = (.ok value, s') ∧ ((next value).run h s').1 = .ok last := by
  cases hfirst : program.run h s with
  | mk result s' =>
    cases result with
    | error reason =>
      rw [run_bind_of_error h s hfirst] at hrun
      cases hrun
    | ok value =>
      rw [run_bind_of_ok h s hfirst] at hrun
      exact ⟨value, s', rfl, hrun⟩

/-- The steps of a sequence whose first part stops are those of the first part. -/
theorem trace_bind_of_error {program : Prog I ε α} {next : α → Prog I ε β} {reason : ε} {s' : σ}
    (hrun : program.run h s = (.error reason, s')) :
    (program >>= next).trace h s = program.trace h s := by
  induction program generalizing s with
  | ret => cases hrun
  | stop => rfl
  | call request rest ih => exact congrArg (List.cons _) (ih _ _ hrun)

/-- The steps of a sequence are the steps of its parts, one after the other. -/
theorem trace_bind_of_ok {program : Prog I ε α} {next : α → Prog I ε β} {value : α} {s' : σ}
    (hrun : program.run h s = (.ok value, s')) :
    (program >>= next).trace h s = program.trace h s ++ (next value).trace h s' := by
  induction program generalizing s with
  | ret =>
    simp only [run_ret, Prod.mk.injEq, Except.ok.injEq] at hrun
    obtain ⟨rfl, rfl⟩ := hrun
    rfl
  | stop => simp at hrun
  | call request rest ih => exact congrArg (List.cons _) (ih _ _ hrun)

end Run

/-- Every request that can occur in the program, whatever the replies, satisfies `P`. -/
def AllCalls (P : I.Call → Prop) : Prog I ε α → Prop
  | ret _ => True
  | stop _ => True
  | call request rest => P request ∧ ∀ reply, (rest reply).AllCalls P

/-- Nothing is said about the requests of a program. -/
theorem allCalls_true (program : Prog I ε α) : program.AllCalls fun _ => True := by
  induction program with
  | ret => trivial
  | stop => trivial
  | call request rest ih => exact ⟨trivial, ih⟩

/-- Sequencing keeps a property that every request of both parts has. -/
theorem AllCalls.bind {P : I.Call → Prop} {program : Prog I ε α} {next : α → Prog I ε β}
    (hfirst : program.AllCalls P) (hnext : ∀ value, (next value).AllCalls P) :
    (program >>= next).AllCalls P := by
  induction program with
  | ret value => exact hnext value
  | stop => trivial
  | call request rest ih => exact ⟨hfirst.1, fun reply => ih reply (hfirst.2 reply)⟩

/-- Every step of a run makes one of the program's possible requests. -/
theorem AllCalls.of_mem_trace {P : I.Call → Prop} {program : Prog I ε α} (hall : program.AllCalls P)
    (h : Handler I σ) (s : σ) : ∀ step ∈ program.trace h s, P step.request := by
  induction program generalizing s with
  | ret => simp
  | stop => simp
  | call request rest ih =>
    intro step hstep
    rcases List.mem_cons.mp hstep with rfl | hrest
    · exact hall.1
    · exact ih _ (hall.2 _) _ step hrest

end Prog

end Effect
