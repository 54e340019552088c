import Mathlib.Data.List.Basic

/-!
# Runs of a system under events

A system takes every event in every state. A property of its steps may refer to the state in
which an event comes, and a run has it when each of its steps does. Two such properties agree
on whole runs when they agree wherever an invariant holds that the second one preserves.
-/

namespace Effect

variable {σ ε : Type} (step : σ → ε → σ)

/-- The state that a system is in after a list of events. -/
def reached (start : σ) (events : List ε) : σ := events.foldl step start

/-- A property of every step of a run: of each event and the state in which it comes. -/
def EveryStep (start : σ) (events : List ε) (property : σ → ε → Prop) : Prop :=
  ∀ past event rest, events = past ++ event :: rest → property (reached step start past) event

variable {step} {start : σ} {property : σ → ε → Prop}

/-- There is no step in the empty run. -/
theorem everyStep_nil : EveryStep step start [] property := by
  intro past event rest hsplit
  cases past <;> cases hsplit

/-- The steps of a run are its first one and those of the run from there. -/
theorem everyStep_cons {event : ε} {events : List ε} :
    EveryStep step start (event :: events) property ↔
      property start event ∧ EveryStep step (step start event) events property := by
  constructor
  · intro hevery
    refine ⟨hevery [] event events rfl, fun past other rest hsplit => ?_⟩
    exact hevery (event :: past) other rest (congrArg (List.cons event) hsplit)
  · intro hevery past other rest hsplit
    cases past with
    | nil =>
      cases hsplit
      exact hevery.1
    | cons first past =>
      cases hsplit
      exact hevery.2 past other rest rfl

/-- Every step of a run has a property that holds under an invariant of the steps. -/
theorem everyStep_of_invariant (invariant : σ → Prop) (hproperty : ∀ s event, invariant s → property s event)
    (hkeep : ∀ s event, invariant s → invariant (step s event)) (hstart : invariant start) (events : List ε) :
    EveryStep step start events property := by
  induction events generalizing start with
  | nil => exact everyStep_nil
  | cons event events ih => exact everyStep_cons.mpr ⟨hproperty start event hstart, ih (hkeep start event hstart)⟩

/-- Properties that agree under an invariant agree on runs, if the second preserves the
invariant. -/
theorem everyStep_iff {condition : σ → ε → Prop} (invariant : σ → Prop)
    (hagree : ∀ s event, invariant s → (property s event ↔ condition s event))
    (hkeep : ∀ s event, invariant s → condition s event → invariant (step s event))
    (hstart : invariant start) (events : List ε) :
    EveryStep step start events property ↔ EveryStep step start events condition := by
  induction events generalizing start with
  | nil => exact iff_of_true everyStep_nil everyStep_nil
  | cons event events ih =>
    rw [everyStep_cons, everyStep_cons, hagree start event hstart]
    exact and_congr_right fun hcondition => ih (hkeep start event hstart hcondition)

end Effect
