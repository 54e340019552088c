import Maestro.Effect.Program

/-!
# Programs that read and print

Of the state of an environment only two things matter to many programs: the input that is left, and
the lines that have been printed. What such a program does with an input is its result, the input
that it leaves and the lines that it prints; these compose when programs follow each other.
-/

namespace Effect

/-- An environment, with the input and the printed lines in its states. -/
structure Console (I : Interface) (σ τ Line : Type) where
  handler : Handler I σ
  input : σ → τ
  printed : σ → List Line

namespace Console

variable {I : Interface} {ε α β σ τ Line : Type} (console : Console I σ τ Line)

/-- In every state with the given input, a program comes to a result, leaves an input, and prints lines. -/
def Runs (program : Prog I ε α) (input : τ) (result : Except ε α) (left : τ) (lines : List Line) : Prop :=
  ∀ s, console.input s = input → ∃ after, program.run console.handler s = (result, after) ∧
    console.input after = left ∧ console.printed after = console.printed s ++ lines

/-- A returned value leaves everything as it is. -/
theorem runs_ret (value : α) (input : τ) : console.Runs (Prog.ret value : Prog I ε α) input (.ok value) input [] :=
  fun s hinput => ⟨s, rfl, hinput, (List.append_nil _).symm⟩

/-- So does an exit. -/
theorem runs_exit (status : ℤ) (input : τ) :
    console.Runs (Prog.exit status : Prog I Exit α) input (.error ⟨status⟩) input [] :=
  fun s hinput => ⟨s, rfl, hinput, (List.append_nil _).symm⟩

section Sequence

variable {console} {program : Prog I ε α} {next : α → Prog I ε β} {input middle left : τ} {lines lines' : List Line}

/-- The second part goes on with the input that the first one leaves. -/
theorem Runs.bind {value : α} {result : Except ε β} (hfirst : console.Runs program input (.ok value) middle lines)
    (hnext : console.Runs (next value) middle result left lines') :
    console.Runs (program >>= next) input result left (lines ++ lines') := by
  intro s hinput
  obtain ⟨between, hrun, hmiddle, hprinted⟩ := hfirst s hinput
  obtain ⟨after, hlast, hleft, hprinted'⟩ := hnext between hmiddle
  refine ⟨after, ?_, hleft, ?_⟩
  · rw [Prog.run_bind_of_ok _ _ hrun, hlast]
  · rw [hprinted', hprinted, List.append_assoc]

/-- Nothing follows a first part that stops. -/
theorem Runs.bind_error {reason : ε} (hfirst : console.Runs program input (.error reason) middle lines) :
    console.Runs (program >>= next) input (.error reason) middle lines := by
  intro s hinput
  obtain ⟨after, hrun, hafter⟩ := hfirst s hinput
  exact ⟨after, Prog.run_bind_of_error _ _ hrun, hafter⟩

/-- A first part that prints nothing. -/
theorem Runs.bind_silent {value : α} {result : Except ε β} (hfirst : console.Runs program input (.ok value) middle [])
    (hnext : console.Runs (next value) middle result left lines) :
    console.Runs (program >>= next) input result left lines :=
  hfirst.bind hnext

/-- A second part that prints nothing. -/
theorem Runs.bind_silent_right {value : α} {result : Except ε β}
    (hfirst : console.Runs program input (.ok value) middle lines)
    (hnext : console.Runs (next value) middle result left []) :
    console.Runs (program >>= next) input result left lines := by
  rw [← List.append_nil lines]
  exact hfirst.bind hnext

end Sequence

end Console

end Effect
