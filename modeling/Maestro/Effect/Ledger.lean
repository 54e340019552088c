import Maestro.Effect.Protocol
import Mathlib.Algebra.Order.Group.Multiset

/-!
# Accounting for handles

Events acquire handles, release them, or leave them alone. Releasing a handle that is not
open is a fault. Events that start with nothing open and leave some handles add exactly these
to whatever is open before, so what a sequence of calls leaves is the sum of what the calls
leave.
-/

namespace Effect

/-- What an event does to the open handles. -/
inductive HandleEvent (H : Type) where
  | keep
  | acquire (handle : H)
  | release (handle : H)
deriving DecidableEq

namespace Ledger

variable {H : Type} [DecidableEq H]

/-- The open handles after one event, if it is no fault. -/
def record (held : Multiset H) : HandleEvent H → Option (Multiset H)
  | .keep => some held
  | .acquire handle => some (handle ::ₘ held)
  | .release handle => if handle ∈ held then some (held.erase handle) else none

/-- The open handles after some events, if there is no fault. -/
def settle (events : List (HandleEvent H)) (held : Multiset H) : Option (Multiset H) :=
  events.foldlM record held

/-- Nothing happens. -/
@[simp] theorem settle_nil (held : Multiset H) : settle [] held = some held := rfl

/-- An event without effect is skipped. -/
@[simp] theorem settle_keep (events : List (HandleEvent H)) (held : Multiset H) :
    settle (.keep :: events) held = settle events held := rfl

/-- An acquired handle is held from then on. -/
@[simp] theorem settle_acquire (handle : H) (events : List (HandleEvent H)) (held : Multiset H) :
    settle (.acquire handle :: events) held = settle events (handle ::ₘ held) := rfl

/-- Releasing the handle acquired last. -/
@[simp] theorem settle_release (handle : H) (events : List (HandleEvent H)) (held : Multiset H) :
    settle (.release handle :: events) (handle ::ₘ held) = settle events held := by
  change (record (handle ::ₘ held) (.release handle)).bind (settle events) = _
  rw [record, if_pos (Multiset.mem_cons_self handle held), Multiset.erase_cons_head]
  rfl

/-- Events are settled one part after the other. -/
theorem settle_append (first last : List (HandleEvent H)) (held : Multiset H) :
    settle (first ++ last) held = (settle first held).bind (settle last) :=
  List.foldlM_append

/-- One event does the same with more handles open. -/
theorem record_add {held after : Multiset H} {event : HandleEvent H} (rest : Multiset H)
    (hrecord : record held event = some after) : record (held + rest) event = some (after + rest) := by
  cases event with
  | keep =>
    cases hrecord
    rfl
  | acquire handle =>
    cases hrecord
    rw [record, Multiset.cons_add]
  | release handle =>
    by_cases hmem : handle ∈ held
    · rw [record, if_pos hmem, Option.some.injEq] at hrecord
      rw [record, if_pos (Multiset.mem_add.mpr (.inl hmem)), Multiset.erase_add_left_pos rest hmem, hrecord]
    · rw [record, if_neg hmem] at hrecord
      cases hrecord

/-- Events do the same with more handles open. -/
theorem settle_add (events : List (HandleEvent H)) {held after : Multiset H} (rest : Multiset H)
    (hsettle : settle events held = some after) : settle events (held + rest) = some (after + rest) := by
  induction events generalizing held with
  | nil =>
    cases hsettle
    rfl
  | cons event events ih =>
    obtain ⟨next, hrecord, hnext⟩ := Option.bind_eq_some_iff.mp hsettle
    exact Option.bind_eq_some_iff.mpr ⟨next + rest, record_add rest hrecord, ih hnext⟩

/-- A log whose entries leave everything alone. -/
theorem settle_map_of_keep {E : Type} {event : E → HandleEvent H} {log : List E}
    (hkeep : ∀ entry ∈ log, event entry = .keep) (held : Multiset H) :
    settle (log.map event) held = some held := by
  induction log with
  | nil => rfl
  | cons entry log ih =>
    rw [List.map_cons, hkeep entry List.mem_cons_self, settle_keep]
    exact ih fun other hother => hkeep other (List.mem_cons_of_mem _ hother)

/-- The events release only what they acquire, at most once, and leave the rest of it open. -/
def Leaves (events : List (HandleEvent H)) (left : Multiset H) : Prop := settle events 0 = some left

/-- The open handles along a run; releasing a handle that is not open is not allowed. -/
def watch {I : Interface} (event : Exchange I → HandleEvent H) : Protocol I (Multiset H) where
  next held exchange := (record held (event exchange)).getD held
  Allows held exchange := (record held (event exchange)).isSome

/-- A run without a fault settles to the handles that are open after it. -/
theorem settle_of_keeps {I : Interface} {event : Exchange I → HandleEvent H} {held : Multiset H}
    {log : List (Exchange I)} (hkeeps : (watch event).Keeps held log) :
    settle (log.map event) held = some ((watch event).after held log) := by
  induction log generalizing held with
  | nil => rfl
  | cons exchange log ih =>
    obtain ⟨hallows, hrest⟩ := ((watch event).keeps_cons held).mp hkeeps
    obtain ⟨after, hafter⟩ := Option.isSome_iff_exists.mp hallows
    have hnext : (watch event).next held exchange = after := congrArg (Option.getD · held) hafter
    rw [hnext] at hrest
    rw [Protocol.after_cons, hnext, ← ih hrest]
    exact congrArg (Option.bind · (settle (log.map event))) hafter

/-- After the events the same handles are open as before, whatever these are. -/
def Restores (events : List (HandleEvent H)) : Prop := ∀ held, settle events held = some held

/-- What two parts leave adds up. -/
theorem Leaves.append {first last : List (HandleEvent H)} {left left' : Multiset H}
    (hfirst : Leaves first left) (hlast : Leaves last left') : Leaves (first ++ last) (left' + left) := by
  unfold Leaves
  rw [settle_append, hfirst, Option.bind_some]
  have hadd := settle_add last left hlast
  rwa [zero_add] at hadd

/-- The open handles are restored exactly if nothing is left. -/
theorem Leaves.restores_iff {events : List (HandleEvent H)} {left : Multiset H}
    (hleaves : Leaves events left) : Restores events ↔ left = 0 := by
  constructor
  · intro hrestores
    have hzero := hrestores 0
    rw [hleaves, Option.some.injEq] at hzero
    exact hzero
  · intro hleft held
    rw [hleft] at hleaves
    have hadd := settle_add events held hleaves
    rwa [zero_add] at hadd

/-- Two parts that restore the open handles do so together. -/
theorem Restores.append {first last : List (HandleEvent H)} (hfirst : Restores first)
    (hlast : Restores last) : Restores (first ++ last) := by
  intro held
  rw [settle_append, hfirst, Option.bind_some, hlast]

/-- If every call leaves some handles, a sequence of calls restores the open handles exactly if
none of them leaves any. -/
theorem restores_flatMap_iff {C : Type} (events : C → List (HandleEvent H)) (left : C → Multiset H)
    (hleaves : ∀ call, Leaves (events call) (left call)) (calls : List C) :
    Restores (calls.flatMap events) ↔ ∀ call ∈ calls, left call = 0 := by
  have hsum : Leaves (calls.flatMap events) (calls.map left).sum := by
    induction calls with
    | nil => rfl
    | cons call calls ih =>
      rw [List.flatMap_cons, List.map_cons, List.sum_cons, add_comm]
      exact (hleaves call).append ih
  rw [hsum.restores_iff]
  clear hsum
  induction calls with
  | nil => simp
  | cons call calls ih =>
    have hsplit : left call + (calls.map left).sum = 0 ↔ left call = 0 ∧ (calls.map left).sum = 0 := by
      rw [← Multiset.card_eq_zero, Multiset.card_add, Nat.add_eq_zero_iff, Multiset.card_eq_zero,
        Multiset.card_eq_zero]
    rw [List.map_cons, List.sum_cons, hsplit, List.forall_mem_cons]
    exact and_congr_right fun _ => ih

end Ledger

end Effect
