import Maestro.Combine.WifiTest
import Maestro.Effect.Total

/-!
# The network that the Wi-Fi tests find

`wifiTest` and the example program `check_wifi_connection` scan the output of `iwconfig` with
the same loops. On a text whose lines fit the buffer they look at its lines, one after the
other, up to the first that shows a network, and print the others without looking at them.
-/

namespace Maestro.Combine.Wifi

open Effect Text

/-- The text that the example program prints, which has no colours. -/
def WifiLine.plainText : WifiLine → String
  | popenFailed => "Failed to run iwconfig\n"
  | connected => "Connected to Wi-Fi network.\n"
  | buffer text => String.ofList text
  | notConnected => "Not connected to any Wi-Fi network.\n"

section Program

variable {ε : Type}

def pclose (fp : ℕ) : WifiProg ε ℤ := Prog.perform (I := WifiCalls) (.pclose fp)

/-- What the example program does after the first loop. -/
def conclude (fp fuel : ℕ) : Option Bool → WifiProg ε (Option Unit)
  | none => return none
  | some true => printRest fp fuel
  | some false => do
    printf .notConnected
    return some ()

/-- The stream is closed when the loops have ended. -/
def closeAfter (fp : ℕ) : Option Unit → WifiProg ε (Option Unit)
  | none => return none
  | some () => do
    let _ ← pclose fp
    return some ()

/-- The example program: it prints what it finds and returns nothing. -/
def check_wifi_connection (fuel : ℕ) : WifiProg ε (Option Unit) := do
  let stream ← popen "iwconfig 2>&1" "r"
  match stream with
  | none =>
    printf .popenFailed
    return some ()
  | some fp =>
    let is_connected ← findNetwork fp fuel
    let concluded ← conclude fp fuel is_connected
    closeAfter fp concluded

end Program

/-- A host on which `popen` yields a text. -/
def iwconfig : Handler WifiCalls (Reader WifiLine) where
  answer
    | .popen _ _, reader => (some 0, reader)
    | .fgets size _, reader => reader.read size
    | .pclose _, reader => (0, reader)
    | .printf line, reader => ((), reader.print line)

/-- Some line of the text names a network that is not switched off. -/
def NamesNetwork (text : List Char) : Prop :=
  ∃ line ∈ wholeLines text, "ESSID".toList <:+: line ∧ ¬"off/any".toList <:+: line

/-- A buffer shows a network if it has the one word and not the other. -/
theorem showsNetwork_iff (buffer : List Char) :
    showsNetwork buffer = true ↔ "ESSID".toList <:+: buffer ∧ ¬"off/any".toList <:+: buffer := by
  rw [showsNetwork, Bool.and_eq_true, ← Option.not_isSome, Bool.not_eq_true', ← Bool.not_eq_true,
    strstr_isSome_iff, strstr_isSome_iff]

/-- Whether some piece of a text shows a network. -/
def found (text : List Char) : Bool := (lines BUFFER_SIZE text).any fun line => showsNetwork (cString line)

section Scan

variable (fp : ℕ) {fuel : ℕ} (reader : Reader WifiLine)

/-- A read is one of the text. -/
theorem eval_fgets (size : ℕ) : (fgets size fp).eval iwconfig reader = reader.read size := rfl

/-- A round of the first loop. -/
theorem eval_findNetwork_succ {line rest : List Char}
    (hread : Text.fgets BUFFER_SIZE reader.rest = some (line, rest)) :
    (findNetwork fp (fuel + 1)).eval iwconfig reader =
      if showsNetwork (cString line) then
        (some true, (Reader.mk rest reader.printed).print .connected |>.print (.buffer (cString line)))
      else (findNetwork fp fuel).eval iwconfig ⟨rest, reader.printed⟩ := by
  rw [findNetwork, Prog.eval_bind, eval_fgets, Reader.read_of_some hread]
  change (if showsNetwork (cString line) = true then _ else _ : WifiProg Empty (Option Bool)).eval iwconfig _ = _
  split
  · rfl
  · rfl

/-- Whether a piece shows a network is known from the first piece and the others. -/
theorem found_of_some {text line rest : List Char} (hread : Text.fgets BUFFER_SIZE text = some (line, rest)) :
    found text = (showsNetwork (cString line) || found rest) := by
  rw [found, lines_of_some (by decide) hread, List.any_cons]
  rfl

/-- The first loop tells whether some piece of the text shows a network, and announces it if so. -/
theorem eval_findNetwork (hfuel : reader.rest.length < fuel) :
    ∃ after, (findNetwork fp fuel).eval iwconfig reader = (some (found reader.rest), after) ∧
      after.rest.length ≤ reader.rest.length ∧
      (.connected ∈ after.printed ↔ .connected ∈ reader.printed ∨ found reader.rest = true) := by
  induction fuel generalizing reader with
  | zero => cases hfuel
  | succ fuel ih =>
    cases hread : Text.fgets BUFFER_SIZE reader.rest with
    | none =>
      rw [findNetwork, Prog.eval_bind, eval_fgets, Reader.read_of_none hread, found, lines_of_none hread]
      exact ⟨reader, rfl, Nat.le_refl _, (or_iff_left Bool.false_ne_true).symm⟩
    | some piece =>
      obtain ⟨line, rest⟩ := piece
      have hlt : rest.length < reader.rest.length := length_lt_of_fgets (by decide) hread
      rw [eval_findNetwork_succ fp reader hread, found_of_some hread]
      by_cases hshows : showsNetwork (cString line) = true
      · rw [if_pos hshows, hshows, Bool.true_or]
        refine ⟨_, rfl, Nat.le_of_lt hlt, iff_of_true ?_ (.inr rfl)⟩
        exact List.mem_append_left _ (List.mem_append_right _ (List.mem_singleton_self _))
      · obtain ⟨after, heval, hrest, hprinted⟩ :=
          ih ⟨rest, reader.printed⟩ (length_lt_of_fgets_of_lt_succ (by decide) hread hfuel)
        rw [if_neg hshows, Bool.eq_false_iff.mpr hshows, Bool.false_or]
        exact ⟨after, heval, Nat.le_trans hrest (Nat.le_of_lt hlt), hprinted⟩

/-- The second loop reads to the end of the text and announces nothing. -/
theorem eval_printRest (hfuel : reader.rest.length < fuel) :
    ∃ after, (printRest fp fuel).eval iwconfig reader = (some (), after) ∧
      (.connected ∈ after.printed ↔ .connected ∈ reader.printed) := by
  induction fuel generalizing reader with
  | zero => cases hfuel
  | succ fuel ih =>
    rw [printRest, Prog.eval_bind]
    cases hread : Text.fgets BUFFER_SIZE reader.rest with
    | none =>
      rw [eval_fgets, Reader.read_of_none hread]
      exact ⟨reader, rfl, Iff.rfl⟩
    | some piece =>
      obtain ⟨line, rest⟩ := piece
      obtain ⟨after, heval, hprinted⟩ :=
        ih ⟨rest, reader.printed ++ [.buffer (cString line)]⟩
          (length_lt_of_fgets_of_lt_succ (by decide) hread hfuel)
      rw [eval_fgets, Reader.read_of_some hread]
      refine ⟨after, heval, hprinted.trans ?_⟩
      rw [List.mem_append, List.mem_singleton]
      exact or_iff_left nofun

end Scan

section Verdict

variable {text : List Char} {fuel : ℕ} (hfuel : text.length < fuel)

include hfuel

/-- The test returns 1 if some piece of the text shows a network, and 0 otherwise. -/
theorem eval_wifiTest : ((wifiTest fuel).eval iwconfig ⟨text, []⟩).1 = some (if found text then 1 else 0) := by
  obtain ⟨after, heval, hrest, -⟩ := eval_findNetwork 0 ⟨text, []⟩ hfuel
  change ((findNetwork 0 fuel >>= finish 0 fuel).eval iwconfig ⟨text, []⟩).1 = _
  rw [Prog.eval_bind, heval]
  cases hfound : found text with
  | false => rfl
  | true =>
    obtain ⟨last, hprint, -⟩ := eval_printRest 0 after (Nat.lt_of_le_of_lt hrest hfuel)
    change ((printRest 0 fuel >>= fun rest => _).eval iwconfig after).1 = _
    rw [Prog.eval_bind, hprint]
    rfl

/-- The example program ends, and it has announced a connection exactly if some piece of the text
shows a network. -/
theorem eval_check_wifi_connection :
    ((check_wifi_connection fuel).eval iwconfig ⟨text, []⟩).1 = some () ∧
      (.connected ∈ ((check_wifi_connection fuel).eval iwconfig ⟨text, []⟩).2.printed ↔ found text = true) := by
  obtain ⟨after, heval, hrest, hannounced⟩ := eval_findNetwork 0 ⟨text, []⟩ hfuel
  have hprogram : (check_wifi_connection fuel).eval iwconfig ⟨text, []⟩ =
      (conclude 0 fuel (some (found text)) >>= closeAfter 0).eval iwconfig after := by
    change (findNetwork 0 fuel >>= fun is_connected => conclude 0 fuel is_connected >>= closeAfter 0).eval
      iwconfig ⟨text, []⟩ = _
    rw [Prog.eval_bind, heval]
  have hsearch : .connected ∈ after.printed ↔ found text = true :=
    hannounced.trans (or_iff_right List.not_mem_nil)
  rw [hprogram, Prog.eval_bind]
  cases hfound : found text with
  | false =>
    refine ⟨rfl, Iff.trans ?_ (hfound ▸ hsearch)⟩
    exact List.mem_append.trans (or_iff_left fun h => absurd (List.mem_singleton.mp h) nofun)
  | true =>
    obtain ⟨last, hprint, hsame⟩ := eval_printRest 0 after (Nat.lt_of_le_of_lt hrest hfuel)
    rw [conclude, hprint]
    exact ⟨rfl, hsame.trans (hfound ▸ hsearch)⟩

end Verdict

/-- On a text whose lines fit the buffer, the pieces are the lines. -/
theorem found_iff {text : List Char} (hzero : '\x00' ∉ text)
    (hfits : ∀ line ∈ wholeLines text, line.length ≤ BUFFER_SIZE - 1) :
    found text = true ↔ NamesNetwork text := by
  rw [found, lines_eq_wholeLines (by decide) hfits, List.any_eq_true]
  refine exists_congr fun line => and_congr_right fun hline => ?_
  rw [cString_eq_self fun h => hzero (mem_of_mem_wholeLines hline h), showsNetwork_iff]

/-- For every text without zero bytes whose lines fit the buffer: `wifiTest` returns 1 if and only
if some line names a network, and the example program announces a connection for the same texts. -/
theorem connected_iff_namesNetwork (text : List Char) (hzero : '\x00' ∉ text)
    (hfits : ∀ line ∈ wholeLines text, line.length ≤ 1023) (fuel : ℕ) (hfuel : text.length < fuel) :
    (∃ verdict, ((wifiTest fuel).eval iwconfig ⟨text, []⟩).1 = some verdict ∧
        (verdict = 1 ↔ NamesNetwork text)) ∧
      ((check_wifi_connection fuel).eval iwconfig ⟨text, []⟩).1 = some () ∧
        (.connected ∈ ((check_wifi_connection fuel).eval iwconfig ⟨text, []⟩).2.printed ↔ NamesNetwork text) := by
  have hexample := eval_check_wifi_connection hfuel
  rw [← found_iff hzero hfits]
  refine ⟨⟨_, eval_wifiTest hfuel, ?_⟩, hexample⟩
  cases found text with
  | false => exact iff_of_false (by decide) Bool.false_ne_true
  | true => exact iff_of_true rfl rfl

/-- A first line without wireless extensions, and a last line that names a network and has no
newline. -/
def twoLines : List Char := "lo no wireless extensions.\nwlan0 ESSID:\"net\"".toList

/-- Both programs on an output of two lines. -/
theorem connected_twoLines :
    (∃ verdict, ((wifiTest 99).eval iwconfig ⟨twoLines, []⟩).1 = some verdict ∧
        (verdict = 1 ↔ NamesNetwork twoLines)) ∧
      ((check_wifi_connection 99).eval iwconfig ⟨twoLines, []⟩).1 = some () ∧
        (.connected ∈ ((check_wifi_connection 99).eval iwconfig ⟨twoLines, []⟩).2.printed ↔
          NamesNetwork twoLines) :=
  connected_iff_namesNetwork twoLines (by decide) (by decide) 99 (by decide)

end Maestro.Combine.Wifi
