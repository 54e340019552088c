import Mathlib.Data.List.Basic
import Mathlib.Data.List.Infix
import Mathlib.Data.List.TakeWhile

/-!
# Reading a text line by line

`fgets` as C has it: the text up to the first newline, which is included, but no more than the
buffer holds. Repeated reads cut the text into pieces, of which there are finitely many; if every
line fits the buffer, the pieces are the lines. In a piece, `strstr` finds the first occurrence
of a word.
-/

namespace Text

/-- At most `n` characters, up to a newline, and what follows them. -/
def splitLine : ℕ → List Char → List Char × List Char
  | 0, text => ([], text)
  | _ + 1, [] => ([], [])
  | n + 1, c :: text => if c = '\n' then ([c], text) else (c :: (splitLine n text).1, (splitLine n text).2)

/-- A read into a buffer of the given size, which also holds a zero byte; nothing is read at the
end of the text. -/
def fgets (size : ℕ) (text : List Char) : Option (List Char × List Char) :=
  if text = [] then none else some (splitLine (size - 1) text)

/-- What the functions on strings see of a buffer. -/
def cString (buffer : List Char) : List Char := buffer.takeWhile (· ≠ '\x00')

/-- The text from the first occurrence of `word` on. -/
def strstr : List Char → List Char → Option (List Char)
  | [], word => if word = [] then some [] else none
  | c :: text, word => if word <+: c :: text then some (c :: text) else strstr text word

/-- Only from the empty text nothing is read. -/
theorem eq_nil_of_fgets {size : ℕ} {text : List Char} (hread : fgets size text = none) : text = [] := by
  by_contra hne
  rw [fgets, if_neg hne] at hread
  cases hread

/-- The pieces that at most `fuel` reads return. -/
def readLines (size : ℕ) : ℕ → List Char → List (List Char)
  | 0, _ => []
  | fuel + 1, text =>
    match fgets size text with
    | none => []
    | some (line, rest) => line :: readLines size fuel rest

/-- All pieces of a text; there are no more than characters. -/
def lines (size : ℕ) (text : List Char) : List (List Char) := readLines size text.length text

/-- A read leaves no more than there was. -/
theorem length_splitLine_le (n : ℕ) (text : List Char) : (splitLine n text).2.length ≤ text.length := by
  induction n generalizing text with
  | zero => exact Nat.le_refl _
  | succ n ih =>
    cases text with
    | nil => exact Nat.le_refl _
    | cons c text =>
      rw [splitLine]
      split
      · exact Nat.le_succ _
      · exact Nat.le_succ_of_le (ih text)

/-- A read takes something off a text. -/
theorem length_lt_of_fgets {size : ℕ} (hsize : 1 < size) {text line rest : List Char}
    (hread : fgets size text = some (line, rest)) : rest.length < text.length := by
  obtain ⟨n, rfl⟩ := Nat.exists_eq_add_of_le hsize
  cases text with
  | nil => cases hread
  | cons c text =>
    have hsplit : (splitLine (1 + 1 + n - 1) (c :: text)).2 = rest := congrArg Prod.snd (Option.some.inj hread)
    rw [← hsplit, Nat.add_right_comm, Nat.add_sub_cancel, Nat.add_comm 1 n, splitLine]
    split
    · exact Nat.lt_succ_self _
    · exact Nat.lt_succ_of_le (length_splitLine_le n text)

/-- Fuel for a text leaves enough for what follows a read. -/
theorem length_lt_of_fgets_of_lt_succ {size : ℕ} (hsize : 1 < size) {text line rest : List Char}
    (hread : fgets size text = some (line, rest)) {fuel : ℕ} (hfuel : text.length < fuel + 1) :
    rest.length < fuel :=
  Nat.lt_of_lt_of_le (length_lt_of_fgets hsize hread) (Nat.le_of_lt_succ hfuel)

/-- Nothing is read from an empty text. -/
theorem readLines_nil (size fuel : ℕ) : readLines size fuel [] = [] := by
  cases fuel <;> rfl

/-- Reads beyond the end of the text return nothing more. -/
theorem readLines_eq {size : ℕ} (hsize : 1 < size) {fuel fuel' : ℕ} {text : List Char}
    (hfuel : text.length ≤ fuel) (hfuel' : text.length ≤ fuel') :
    readLines size fuel text = readLines size fuel' text := by
  induction fuel generalizing fuel' text with
  | zero =>
    rw [List.eq_nil_of_length_eq_zero (Nat.le_zero.mp hfuel), readLines_nil, readLines_nil]
  | succ fuel ih =>
    cases fuel' with
    | zero =>
      rw [List.eq_nil_of_length_eq_zero (Nat.le_zero.mp hfuel'), readLines_nil, readLines_nil]
    | succ fuel' =>
      rw [readLines, readLines]
      split
      · rfl
      · rename_i line rest hread
        have hlt := length_lt_of_fgets hsize hread
        have hrest : readLines size fuel rest = readLines size fuel' rest := ih (by omega) (by omega)
        rw [hrest]

/-- There are no pieces at the end of a text. -/
theorem lines_of_none {size : ℕ} {text : List Char} (hread : fgets size text = none) : lines size text = [] := by
  rw [lines]
  cases text with
  | nil => rfl
  | cons c text =>
    rw [List.length_cons, readLines, hread]

/-- The first piece of a text is the one that is read, and the others are those of the rest. -/
theorem lines_of_some {size : ℕ} (hsize : 1 < size) {text line rest : List Char}
    (hread : fgets size text = some (line, rest)) : lines size text = line :: lines size rest := by
  have hlt : rest.length < text.length := length_lt_of_fgets hsize hread
  obtain ⟨fuel, hfuel⟩ := Nat.exists_eq_succ_of_ne_zero (Nat.ne_zero_of_lt hlt)
  rw [lines, hfuel, readLines, hread]
  exact congrArg (line :: ·) (readLines_eq hsize (Nat.le_of_lt_succ (hfuel ▸ hlt)) (Nat.le_refl _))

/-- The lines of a text, each with its newline; the last one may lack it. -/
def wholeLines : List Char → List (List Char)
  | [] => []
  | c :: text =>
    if c = '\n' then [c] :: wholeLines text
    else
      match wholeLines text with
      | [] => [[c]]
      | line :: rest => (c :: line) :: rest

/-- The lines make up the text. -/
theorem flatten_wholeLines (text : List Char) : (wholeLines text).flatten = text := by
  induction text with
  | nil => rfl
  | cons c text ih =>
    rw [wholeLines]
    split
    · exact congrArg (List.cons c) ih
    · split
      · rename_i hnone
        rw [hnone] at ih
        rw [← ih]
        rfl
      · rename_i line rest hsome
        rw [hsome] at ih
        exact congrArg (List.cons c) ih

/-- Only the empty text has no lines. -/
theorem wholeLines_eq_nil {text : List Char} (hnone : wholeLines text = []) : text = [] := by
  rw [← flatten_wholeLines text, hnone]
  rfl

/-- A read whose buffer holds the first line takes just this line. -/
theorem splitLine_of_wholeLines {n : ℕ} {text line : List Char} {others : List (List Char)}
    (hlines : wholeLines text = line :: others) (hfits : line.length ≤ n) :
    ∃ rest, splitLine n text = (line, rest) ∧ wholeLines rest = others := by
  induction text generalizing n line others with
  | nil => cases hlines
  | cons c text ih =>
    rw [wholeLines] at hlines
    by_cases hnewline : c = '\n'
    · rw [if_pos hnewline] at hlines
      cases hlines
      obtain ⟨m, rfl⟩ := Nat.exists_eq_add_of_le' hfits
      exact ⟨text, by rw [List.length_singleton, splitLine, if_pos hnewline], rfl⟩
    · rw [if_neg hnewline] at hlines
      cases hothers : wholeLines text with
      | nil =>
        rw [hothers] at hlines
        cases hlines
        obtain ⟨m, rfl⟩ := Nat.exists_eq_add_of_le' hfits
        refine ⟨[], ?_, rfl⟩
        rw [wholeLines_eq_nil hothers, List.length_singleton, splitLine, if_neg hnewline]
        cases m <;> rfl
      | cons first rest =>
        rw [hothers] at hlines
        cases hlines
        obtain ⟨m, rfl⟩ := Nat.exists_eq_add_of_le' hfits
        obtain ⟨left, hsplit, hleft⟩ := ih hothers (Nat.le_add_left first.length m)
        refine ⟨left, ?_, hleft⟩
        change splitLine (m + first.length + 1) (c :: text) = (c :: first, left)
        rw [splitLine, if_neg hnewline, hsplit]

/-- If every line fits the buffer, the pieces of a text are its lines. -/
theorem lines_eq_wholeLines {size : ℕ} (hsize : 1 < size) {text : List Char}
    (hfits : ∀ line ∈ wholeLines text, line.length ≤ size - 1) : lines size text = wholeLines text := by
  induction hlines : wholeLines text generalizing text with
  | nil =>
    rw [wholeLines_eq_nil hlines]
    rfl
  | cons line others ih =>
    rw [hlines] at hfits
    obtain ⟨rest, hsplit, hrest⟩ := splitLine_of_wholeLines hlines (hfits line List.mem_cons_self)
    have htext : text ≠ [] := by
      intro hnil
      rw [hnil] at hlines
      cases hlines
    have hread : fgets size text = some (line, rest) := by
      rw [fgets, if_neg htext, hsplit]
    have hothers : lines size rest = others :=
      ih (fun other hother => hfits other (List.mem_cons_of_mem line (hrest ▸ hother))) hrest
    rw [lines_of_some hsize hread, hothers]

/-- A line has only characters of the text. -/
theorem mem_of_mem_wholeLines {text line : List Char} (hline : line ∈ wholeLines text) {c : Char}
    (hc : c ∈ line) : c ∈ text := by
  rw [← flatten_wholeLines text]
  exact List.mem_flatten.mpr ⟨line, hline, hc⟩

/-- A buffer without zero bytes is seen as a whole. -/
theorem cString_eq_self {buffer : List Char} (hzero : '\x00' ∉ buffer) : cString buffer = buffer := by
  refine List.takeWhile_eq_self_iff.mpr fun c hc => decide_eq_true fun heq => hzero ?_
  rw [← heq]
  exact hc

/-- `strstr` finds the words that occur. -/
theorem strstr_isSome_iff (text word : List Char) : (strstr text word).isSome = true ↔ word <:+: text := by
  induction text with
  | nil =>
    rw [strstr, List.infix_nil]
    by_cases hword : word = []
    · rw [if_pos hword]
      exact iff_of_true rfl hword
    · rw [if_neg hword]
      exact iff_of_false Bool.false_ne_true hword
  | cons c text ih =>
    rw [strstr, List.infix_cons_iff]
    by_cases hprefix : word <+: c :: text
    · rw [if_pos hprefix]
      exact iff_of_true rfl (.inl hprefix)
    · rw [if_neg hprefix, ih]
      exact (or_iff_right hprefix).symm

/-- A text that is being read, and what has been printed meanwhile. -/
structure Reader (Line : Type) where
  rest : List Char
  printed : List Line

namespace Reader

variable {Line : Type}

/-- A read from what is left of the text. -/
def read (reader : Reader Line) (size : ℕ) : Option (List Char) × Reader Line :=
  match fgets size reader.rest with
  | none => (none, reader)
  | some (line, rest) => (some (cString line), { reader with rest := rest })

/-- Nothing is read at the end of the text. -/
theorem read_of_none {reader : Reader Line} {size : ℕ} (hread : fgets size reader.rest = none) :
    reader.read size = (none, reader) := by
  rw [read, hread]

/-- The first piece is read, and the rest is left. -/
theorem read_of_some {reader : Reader Line} {size : ℕ} {line rest : List Char}
    (hread : fgets size reader.rest = some (line, rest)) :
    reader.read size = (some (cString line), { reader with rest := rest }) := by
  rw [read, hread]

/-- A printed line. -/
def print (reader : Reader Line) (line : Line) : Reader Line :=
  { reader with printed := reader.printed ++ [line] }

end Reader

end Text
