import Mathlib.Data.List.Basic
import Mathlib.Logic.Function.Basic

/-!
# Values carried from line to line

A loop over lines assigns the values that it finds to variables, and prints the variable of
every line that asks for it. If a line asks for a value that is not found in it, the variable
still has the value of an earlier line, or none at all. The printed values are those of the lines
themselves only if every line that asks for a value has one.
-/

namespace Text

variable {K V : Type} [DecidableEq K]

/-- What is printed for the lines that ask for a value: each names its variable, and has a value for
it or not. -/
def carried (vars : K → Option V) : List (K × Option V) → List (K × Option V)
  | [] => []
  | asked :: rest =>
    let value := asked.2.or (vars asked.1)
    (asked.1, value) :: carried (Function.update vars asked.1 value) rest

/-- What is printed if a line without a value prints nothing. -/
def ownValues (asked : List (K × Option V)) : List (K × Option V) := asked.filter fun line => line.2.isSome

/-- Every line that asks for a value prints one. -/
theorem length_carried (vars : K → Option V) (asked : List (K × Option V)) :
    (carried vars asked).length = asked.length := by
  induction asked generalizing vars with
  | nil => rfl
  | cons line rest ih => rw [carried, List.length_cons, List.length_cons, ih]

/-- If every line has a value, the variables do not matter. -/
theorem carried_of_isSome (vars : K → Option V) {asked : List (K × Option V)}
    (hall : ∀ line ∈ asked, line.2.isSome = true) : carried vars asked = asked := by
  induction asked generalizing vars with
  | nil => rfl
  | cons line rest ih =>
    obtain ⟨value, hvalue⟩ := Option.isSome_iff_exists.mp (hall line List.mem_cons_self)
    rw [carried, ih _ fun other hother => hall other (List.mem_cons_of_mem line hother), hvalue, Option.some_or,
      ← hvalue]

/-- The lines print their own values exactly if all of them have one. -/
theorem carried_eq_ownValues_iff (vars : K → Option V) (asked : List (K × Option V)) :
    carried vars asked = ownValues asked ↔ ∀ line ∈ asked, line.2.isSome = true := by
  constructor
  · intro heq
    have hlength := congrArg List.length heq
    rw [length_carried, ownValues] at hlength
    exact List.length_filter_eq_length_iff.mp hlength.symm
  · intro hall
    rw [carried_of_isSome vars hall, ownValues, List.filter_eq_self.mpr hall]

end Text
