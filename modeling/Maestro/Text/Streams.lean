import Maestro.Effect.Console
import Maestro.Text.Lines

/-!
# Reading the output of commands

A command that can be run has its output in a new stream, and every read takes a line off its
stream. A console serves commands in this way if its states hold what is left of the streams.
-/

namespace Text

open Effect

/-- The line of a text that a read returns. -/
def lineOf (size : ℕ) (text : List Char) : Option (List Char) := (fgets size text).map fun read => cString read.1

/-- What a read leaves of a text. -/
def afterLine (size : ℕ) (text : List Char) : List Char := (fgets size text).elim text Prod.snd

/-- Nothing is read at the end of a text. -/
theorem lineOf_of_none {size : ℕ} {text : List Char} (hread : fgets size text = none) : lineOf size text = none := by
  rw [lineOf, hread, Option.map_none]

/-- A text of which nothing is read stays as it is. -/
theorem afterLine_of_none {size : ℕ} {text : List Char} (hread : fgets size text = none) :
    afterLine size text = text := by
  rw [afterLine, hread]
  rfl

/-- A piece of a text, as the functions on strings see it. -/
theorem lineOf_of_some {size : ℕ} {text line rest : List Char} (hread : fgets size text = some (line, rest)) :
    lineOf size text = some (cString line) := by
  rw [lineOf, hread, Option.map_some]

/-- What follows the piece is left. -/
theorem afterLine_of_some {size : ℕ} {text line rest : List Char} (hread : fgets size text = some (line, rest)) :
    afterLine size text = rest := by
  rw [afterLine, hread]
  rfl

/-- A new stream has the next number. -/
def openStream (streams : List (List Char)) : Option (List Char) → Option ℕ × List (List Char)
  | none => (none, streams)
  | some text => (some streams.length, streams ++ [text])

/-- A line is taken off a stream, if something is left of it. -/
def readStream (size : ℕ) (streams : List (List Char)) (fp : ℕ) : Option (List Char) × List (List Char) :=
  match (streams[fp]?).bind (fgets size) with
  | none => (none, streams)
  | some (line, rest) => (some (cString line), streams.set fp rest)

/-- A read returns the line of its stream and leaves what follows it. -/
theorem readStream_eq {size : ℕ} {streams : List (List Char)} {fp : ℕ} {text : List Char}
    (hstream : streams[fp]? = some text) :
    readStream size streams fp = (lineOf size text, streams.set fp (afterLine size text)) := by
  rw [readStream, hstream, Option.bind_some, lineOf, afterLine]
  cases fgets size text with
  | none =>
    obtain ⟨hfp, rfl⟩ := List.getElem?_eq_some_iff.mp hstream
    exact congrArg (Prod.mk none) (List.set_getElem_self hfp).symm
  | some read => rfl

/-- Commands are run and their output is read: what a console does for `popen` and `fgets`. -/
structure Serves {I : Interface} {σ Line ε : Type} (console : Console I σ (List (List Char)) Line)
    (output : String → Option (List Char)) (popen : String → String → Prog I ε (Option ℕ))
    (fgets : ℕ → ℕ → Prog I ε (Option (List Char))) : Prop where
  popen_runs : ∀ command mode streams, console.Runs (popen command mode) streams
    (.ok (openStream streams (output command)).1) (openStream streams (output command)).2 []
  fgets_runs : ∀ size fp streams, console.Runs (fgets size fp) streams
    (.ok (readStream size streams fp).1) (readStream size streams fp).2 []

section Serves

variable {I : Interface} {σ Line ε : Type} {console : Console I σ (List (List Char)) Line}
  {output : String → Option (List Char)} {popen : String → String → Prog I ε (Option ℕ)}
  {fgets : ℕ → ℕ → Prog I ε (Option (List Char))} (hserves : Serves console output popen fgets)

include hserves

/-- A read of a stream. -/
theorem Serves.read_runs (size : ℕ) {fp : ℕ} {streams : List (List Char)} {text : List Char}
    (hstream : streams[fp]? = some text) :
    console.Runs (fgets size fp) streams (.ok (lineOf size text)) (streams.set fp (afterLine size text)) [] := by
  have hread := hserves.fgets_runs size fp streams
  rw [readStream_eq hstream] at hread
  exact hread

/-- A command that cannot be run. -/
theorem Serves.open_none {command : String} (hnone : output command = none) (mode : String)
    (streams : List (List Char)) : console.Runs (popen command mode) streams (.ok none) streams [] := by
  have hopen := hserves.popen_runs command mode streams
  rw [hnone] at hopen
  exact hopen

/-- A command with an output. -/
theorem Serves.open_some {command : String} {text : List Char} (hsome : output command = some text) (mode : String)
    (streams : List (List Char)) :
    console.Runs (popen command mode) streams (.ok (some streams.length)) (streams ++ [text]) [] := by
  have hopen := hserves.popen_runs command mode streams
  rw [hsome] at hopen
  exact hopen

end Serves

end Text
