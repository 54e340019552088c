import Maestro.Effect.Family
import Mathlib.Logic.Function.Basic

/-!
# Environments side by side

Environments for the members of a family are one environment for the family: each member has a state
of its own, which only its requests change. So a program over a member runs as it does alone, and
leaves the states of the others as they are. Programs that stop for different reasons come together
once the reasons are translated.
-/

namespace Effect

variable {ι : Type} [DecidableEq ι] {I : ι → Interface} {J : Interface} {σ : ι → Type} {ε δ τ α : Type}

/-- The environments of the members, each with its own state. -/
def Handler.family (h : (i : ι) → Handler (I i) (σ i)) : Handler (Interface.family I) ((i : ι) → σ i) where
  answer call s :=
    (((h call.1).answer call.2 (s call.1)).1,
      Function.update s call.1 ((h call.1).answer call.2 (s call.1)).2)

namespace Prog

/-- A program over a member runs as it does alone, and leaves the other states as they are. -/
theorem run_embed (h : (i : ι) → Handler (I i) (σ i)) {i : ι} (program : Prog (I i) ε α) (s : (i : ι) → σ i) :
    (program.embed i).run (Handler.family h) s =
      ((program.run (h i) (s i)).1, Function.update s i (program.run (h i) (s i)).2) := by
  induction program generalizing s with
  | ret value => exact Prod.ext rfl (Function.update_eq_self i s).symm
  | stop reason => exact Prod.ext rfl (Function.update_eq_self i s).symm
  | call request rest ih =>
    change ((rest _).embed i).run (Handler.family h) (Function.update s i _) = _
    rw [ih, Function.update_self, Function.update_idem]
    rfl

/-- The program with another type of reasons for stopping. -/
def mapStop (f : ε → δ) : Prog J ε α → Prog J δ α
  | ret value => ret value
  | stop reason => stop (f reason)
  | call request next => call request fun reply => (next reply).mapStop f

/-- Only the reason for stopping is translated. -/
theorem run_mapStop (f : ε → δ) (h : Handler J τ) (program : Prog J ε α) (s : τ) :
    (program.mapStop f).run h s = ((program.run h s).1.mapError f, (program.run h s).2) := by
  induction program generalizing s with
  | ret => rfl
  | stop => rfl
  | call request rest ih => exact ih _ _

end Prog

end Effect
