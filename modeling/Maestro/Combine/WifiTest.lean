import Maestro.Effect.Course
import Maestro.Text.Lines

/-!
# The Wi-Fi test of `CombineCode`

`wifiTest` reads the output of `iwconfig` line by line and looks for a network name. The
loops run on fuel; `none` means that a loop is still reading. The `pclose` of the source
follows a branch whose two sides both return, so it never runs.
-/

namespace Maestro.Combine.Wifi

open Effect Text

def BUFFER_SIZE : ℕ := 1024

/-- What the Wi-Fi test prints. -/
inductive WifiLine where
  | popenFailed
  | connected
  | buffer (text : List Char)
  | notConnected
deriving DecidableEq

/-- The printed text. -/
def WifiLine.text : WifiLine → String
  | popenFailed => "Failed to run iwconfig\n"
  | connected => "\x1b[32mConnected to Wi-Fi network.\x1b[0m\n"
  | buffer text => String.ofList text
  | notConnected => "\x1b[31mNot connected to any Wi-Fi network.\x1b[0m\n"

/-- The calls of the Wi-Fi test, with the `pclose` that the source never reaches. -/
inductive WifiCall where
  | popen (command mode : String)
  | fgets (size fp : ℕ)
  | pclose (fp : ℕ)
  | printf (line : WifiLine)

/-- `popen` is answered with a stream or `NULL`, and `fgets` with the line read or `NULL`. -/
abbrev WifiCalls : Interface where
  Call := WifiCall
  Reply
    | .popen _ _ => Option ℕ
    | .fgets _ _ => Option (List Char)
    | .pclose _ => ℤ
    | .printf _ => Unit

abbrev WifiProg (ε α : Type) := Prog WifiCalls ε α

section Program

variable {ε : Type}

def popen (command mode : String) : WifiProg ε (Option ℕ) :=
  Prog.perform (I := WifiCalls) (.popen command mode)

def fgets (size fp : ℕ) : WifiProg ε (Option (List Char)) :=
  Prog.perform (I := WifiCalls) (.fgets size fp)

def printf (line : WifiLine) : WifiProg ε Unit := Prog.perform (I := WifiCalls) (.printf line)

/-- A line that shows a network. -/
def showsNetwork (buffer : List Char) : Bool :=
  (strstr buffer "ESSID".toList).isSome && (strstr buffer "off/any".toList).isNone

/-- The first loop: read up to a line that shows a network, and tell whether there is one. -/
def findNetwork (fp : ℕ) : ℕ → WifiProg ε (Option Bool)
  | 0 => return none
  | fuel + 1 => do
    let line ← fgets BUFFER_SIZE fp
    match line with
    | none => return some false
    | some buffer =>
      if showsNetwork buffer then do
        printf .connected
        printf (.buffer buffer)
        return some true
      else findNetwork fp fuel

/-- The second loop: print the other lines. -/
def printRest (fp : ℕ) : ℕ → WifiProg ε (Option Unit)
  | 0 => return none
  | fuel + 1 => do
    let line ← fgets BUFFER_SIZE fp
    match line with
    | none => return some ()
    | some buffer =>
      printf (.buffer buffer)
      printRest fp fuel

/-- What follows the first loop. -/
def finish (fp fuel : ℕ) : Option Bool → WifiProg ε (Option ℤ)
  | none => return none
  | some true => do
    let rest ← printRest fp fuel
    return rest.map fun _ => 1
  | some false => do
    printf .notConnected
    return some 0

/-- The test. -/
def wifiTest (fuel : ℕ) : WifiProg ε (Option ℤ) := do
  let stream ← popen "iwconfig 2>&1" "r"
  match stream with
  | none =>
    printf .popenFailed
    return some 0
  | some fp =>
    let is_connected ← findNetwork fp fuel
    finish fp fuel is_connected

end Program

end Maestro.Combine.Wifi
