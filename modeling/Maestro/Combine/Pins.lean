import Maestro.Effect.Program
import Mathlib.Data.Int.Notation
import Mathlib.Logic.Function.Basic

/-!
# wiringPi pins

The tests of `CombineCode` reach the pins through wiringPi. The board is the environment: a
healthy output pin reads back what was last written to it, and a stuck pin always reads its
stuck level.
-/

namespace Maestro.Combine

open Effect

/-- The modes that the pins are put in. -/
inductive PinMode where
  | INPUT
  | OUTPUT
deriving DecidableEq

def LOW : ℤ := 0
def HIGH : ℤ := 1

/-- The wiringPi calls on pins, together with the printed lines of a test. -/
inductive PinCall (Line : Type) where
  | wiringPiSetup
  | pinMode (pin : ℕ) (mode : PinMode)
  | digitalWrite (pin : ℕ) (value : ℤ)
  | digitalRead (pin : ℕ)
  | usleep (microseconds : ℕ)
  | printf (line : Line)

/-- The setup and the reads are answered with an `int`. -/
abbrev PinCalls (Line : Type) : Interface where
  Call := PinCall Line
  Reply
    | .wiringPiSetup => ℤ
    | .digitalRead _ => ℤ
    | _ => Unit

section Calls

variable {Line ε : Type}

def wiringPiSetup : Prog (PinCalls Line) ε ℤ := Prog.perform (I := PinCalls Line) .wiringPiSetup

def pinMode (pin : ℕ) (mode : PinMode) : Prog (PinCalls Line) ε Unit :=
  Prog.perform (I := PinCalls Line) (.pinMode pin mode)

def digitalWrite (pin : ℕ) (value : ℤ) : Prog (PinCalls Line) ε Unit :=
  Prog.perform (I := PinCalls Line) (.digitalWrite pin value)

def digitalRead (pin : ℕ) : Prog (PinCalls Line) ε ℤ := Prog.perform (I := PinCalls Line) (.digitalRead pin)

def usleep (microseconds : ℕ) : Prog (PinCalls Line) ε Unit :=
  Prog.perform (I := PinCalls Line) (.usleep microseconds)

def printf (line : Line) : Prog (PinCalls Line) ε Unit := Prog.perform (I := PinCalls Line) (.printf line)

end Calls

/-- The condition of a pin. -/
inductive PinState where
  | healthy
  | stuckAt0
  | stuckAt1
deriving DecidableEq

/-- The modes of the pins and the levels last written to them. -/
structure Bench where
  mode : ℕ → PinMode
  latch : ℕ → ℤ

/-- What the setup returns, the condition of each pin, and the levels applied to inputs. -/
structure Board where
  setup : ℤ
  pinState : ℕ → PinState
  applied : ℕ → ℤ

/-- The level that a pin reads. -/
def Board.level (board : Board) (bench : Bench) (pin : ℕ) : ℤ :=
  match board.pinState pin with
  | .healthy => if bench.mode pin = .OUTPUT then bench.latch pin else board.applied pin
  | .stuckAt0 => LOW
  | .stuckAt1 => HIGH

/-- wiringPi on a board: any value but `LOW` writes a high level. -/
def Board.handler (board : Board) (Line : Type) : Handler (PinCalls Line) Bench where
  answer
    | .wiringPiSetup, bench => (board.setup, bench)
    | .pinMode pin mode, bench => ((), { bench with mode := Function.update bench.mode pin mode })
    | .digitalWrite pin value, bench =>
      ((), { bench with latch := Function.update bench.latch pin (if value = LOW then LOW else HIGH) })
    | .digitalRead pin, bench => (board.level bench pin, bench)
    | .usleep _, bench => ((), bench)
    | .printf _, bench => ((), bench)

end Maestro.Combine
