import Maestro.Effect.Total
import Mathlib.Data.Int.Notation

/-!
# The menu of `CombineCode`

`main` repeats forever: it asks for a number, and when the global `m` is 0 it runs the batch
of tests and prints a summary. The result of `scanf` is ignored, so after a failed match `m`
keeps its old value. The code after the loop would run one more batch.

The tests are calls of the menu, answered with their verdict. The console is the
environment: it supplies the input and the verdicts, and keeps a log of the tests called.
-/

namespace Maestro.Combine

open Effect

/-- The tests that have a row in the summary. -/
inductive Test where
  | GpioTest
  | PWMTest
  | SPITest_0
  | SPITest_1
  | i2cTest
  | wifiTest
  | EthernetTest
  | bluetoothTest
deriving DecidableEq

/-- What `scanf("%d", &m)` does: store an integer, or leave `m` alone. -/
inductive Scan where
  | stored (value : ℤ)
  | mismatch
  | eof
deriving DecidableEq

/-- The printed lines. -/
inductive MenuLine where
  | menu
  | prompt
  | ruler
  | title
  | row (test : Test) (pass fail : ℤ)
  | total (runs : ℤ)
deriving DecidableEq

/-- The label of a row. -/
def Test.label : Test → String
  | GpioTest => "0. GPIO               "
  | PWMTest => "1. PWM                "
  | SPITest_0 => "2. SPI0               "
  | SPITest_1 => "3. SPI1               "
  | i2cTest => "4. I2C                "
  | wifiTest => "5. wifi               "
  | EthernetTest => "6. Ethernet           "
  | bluetoothTest => "7. Bluetooth          "

/-- The printed text. -/
def MenuLine.text : MenuLine → String
  | menu => "0: All Test 1: CPU Test 2: GPIO Test 3: I2C/SPI Test 4: mobile Test 5: Exit\n"
  | prompt => "Test Num Select: "
  | ruler => "---------------------------------\n"
  | title => "Test Summery\n"
  | row test pass fail => test.label ++ "Pass: " ++ toString pass ++ "   Fail: " ++ toString fail ++ "\n"
  | total runs => "Total Test : " ++ toString runs ++ "\n"

/-- The calls of the menu. -/
inductive MenuCall where
  | printf (line : MenuLine)
  | scanf
  | runTest (test : Test)
  | resetGPIO

/-- A test is answered with its verdict, 0 or 1. -/
abbrev MenuCalls : Interface where
  Call := MenuCall
  Reply
    | .scanf => Scan
    | .runTest _ => Fin 2
    | _ => Unit

abbrev MenuProg (α : Type) := Prog MenuCalls Empty α

def putLine (line : MenuLine) : MenuProg Unit := Prog.perform (I := MenuCalls) (.printf line)
def scanf : MenuProg Scan := Prog.perform (I := MenuCalls) .scanf
def runTest (test : Test) : MenuProg (Fin 2) := Prog.perform (I := MenuCalls) (.runTest test)
def resetGPIO : MenuProg Unit := Prog.perform (I := MenuCalls) MenuCall.resetGPIO

/-- The counters of passed tests. -/
structure Counts where
  GpioCount : ℤ
  PwmCount : ℤ
  SPICount0 : ℤ
  SPICount1 : ℤ
  wifiCount : ℤ
  EthernetCount : ℤ
  blueCount : ℤ
  i2cCount : ℤ

/-- The counter of a test. -/
def Counts.of (counts : Counts) : Test → ℤ
  | .GpioTest => counts.GpioCount
  | .PWMTest => counts.PwmCount
  | .SPITest_0 => counts.SPICount0
  | .SPITest_1 => counts.SPICount1
  | .i2cTest => counts.i2cCount
  | .wifiTest => counts.wifiCount
  | .EthernetTest => counts.EthernetCount
  | .bluetoothTest => counts.blueCount

/-- The global variables that change. -/
structure Globals where
  counts : Counts
  m : ℤ

/-- The global variables at the start. -/
def initial : Globals := ⟨⟨0, 0, 0, 0, 0, 0, 0, 0⟩, 0⟩

/-- The number of rounds in a batch. -/
def n : ℕ := 1

/-- One round of the tests; three of them are commented out in the source. -/
def round (counts : Counts) : MenuProg Counts := do
  let verdict ← runTest .GpioTest
  let counts := { counts with GpioCount := counts.GpioCount + verdict.val }
  resetGPIO
  let verdict ← runTest .PWMTest
  let counts := { counts with PwmCount := counts.PwmCount + verdict.val }
  let verdict ← runTest .SPITest_0
  let counts := { counts with SPICount0 := counts.SPICount0 + verdict.val }
  let verdict ← runTest .SPITest_1
  let counts := { counts with SPICount1 := counts.SPICount1 + verdict.val }
  let verdict ← runTest .i2cTest
  return { counts with i2cCount := counts.i2cCount + verdict.val }

/-- The batch of `n` rounds. -/
def batch (counts : Counts) : MenuProg Counts :=
  (List.range n).foldlM (fun counts _ => round counts) counts

/-- A row shows a counter and its difference from `n`. -/
def putRow (counts : Counts) (test : Test) : MenuProg Unit :=
  putLine (.row test (counts.of test) (n - counts.of test))

/-- The rows, from top to bottom. -/
def summaryRows : List Test :=
  [.GpioTest, .PWMTest, .SPITest_0, .SPITest_1, .i2cTest, .wifiTest, .EthernetTest, .bluetoothTest]

/-- The summary. -/
def putSummary (counts : Counts) : MenuProg Unit := do
  putLine .ruler
  putLine .title
  putLine .ruler
  forM summaryRows (putRow counts)
  putLine (.total n)

/-- The value of `m` after `scanf`. -/
def Scan.assign (scan : Scan) (m : ℤ) : ℤ :=
  match scan with
  | stored value => value
  | mismatch => m
  | eof => m

/-- The loop body. -/
def menuBody (globals : Globals) : MenuProg Globals := do
  putLine .prompt
  let scan ← scanf
  let m := scan.assign globals.m
  if m = 0 then
    let counts ← batch globals.counts
    putSummary counts
    return ⟨counts, m⟩
  else return ⟨globals.counts, m⟩

/-- The program, with fuel for the loop; `none` means that the loop is still running. -/
def main (fuel : ℕ) : MenuProg (Option Globals) := do
  putLine .menu
  let left ← Prog.whileDo (fun _ => true) menuBody fuel initial
  match left with
  | none => return none
  | some globals =>
    putLine .prompt
    let counts ← batch globals.counts
    putSummary counts
    return some { globals with counts := counts }

/-- The input not yet read and the tests called so far with their verdicts. -/
structure Console (σ : Type) where
  input : σ
  calls : List (Test × Fin 2)

section Console

variable {σ : Type} (scan : σ → Scan × σ) (verdict : ℕ → Fin 2)

/-- The console reads by `scan` and gives the verdicts in the order of the calls. -/
def console : Handler MenuCalls (Console σ) where
  answer
    | .printf _, console => ((), console)
    | .scanf, console => ((scan console.input).1, { console with input := (scan console.input).2 })
    | .runTest test, console =>
      (verdict console.calls.length,
        { console with calls := console.calls ++ [(test, verdict console.calls.length)] })
    | MenuCall.resetGPIO, console => ((), console)

/-- A line leaves the console as it is. -/
@[simp] theorem eval_putLine (line : MenuLine) (now : Console σ) :
    (putLine line).eval (console scan verdict) now = ((), now) := rfl

/-- A scan takes its number off the input. -/
@[simp] theorem eval_scanf (now : Console σ) :
    scanf.eval (console scan verdict) now =
      ((scan now.input).1, { now with input := (scan now.input).2 }) := rfl

/-- A test is noted with its verdict. -/
@[simp] theorem eval_runTest (test : Test) (now : Console σ) :
    (runTest test).eval (console scan verdict) now =
      (verdict now.calls.length, { now with calls := now.calls ++ [(test, verdict now.calls.length)] }) := rfl

/-- The reset leaves the console as it is. -/
@[simp] theorem eval_resetGPIO (now : Console σ) :
    resetGPIO.eval (console scan verdict) now = ((), now) := rfl

/-- The tests that a batch calls, in order. -/
def batchTests : List Test := [.GpioTest, .PWMTest, .SPITest_0, .SPITest_1, .i2cTest]

/-- The counters show the passed calls of each test, and only tests of the batch are called. -/
structure Tallied (counts : Counts) (calls : List (Test × Fin 2)) : Prop where
  passes : ∀ test, counts.of test = calls.count (test, 1)
  active : ∀ call ∈ calls, call.1 ∈ batchTests

/-- Nothing is called and counted at the start. -/
theorem tallied_initial : Tallied initial.counts [] where
  passes := fun test => by cases test <;> rfl
  active := fun _ hcall => absurd hcall List.not_mem_nil

/-- What a batch does: each of its tests is called once, logged and counted. -/
theorem eval_batch (counts : Counts) (start : Console σ) :
    ∃ gpio pwm spi0 spi1 i2c : Fin 2,
      (batch counts).eval (console scan verdict) start =
        (⟨counts.GpioCount + gpio.val, counts.PwmCount + pwm.val, counts.SPICount0 + spi0.val,
          counts.SPICount1 + spi1.val, counts.wifiCount, counts.EthernetCount, counts.blueCount,
          counts.i2cCount + i2c.val⟩,
        { start with
          calls := start.calls ++
            [(.GpioTest, gpio), (.PWMTest, pwm), (.SPITest_0, spi0), (.SPITest_1, spi1),
              (.i2cTest, i2c)] }) := by
  refine ⟨verdict start.calls.length, verdict (start.calls.length + 1), verdict (start.calls.length + 2),
    verdict (start.calls.length + 3), verdict (start.calls.length + 4), ?_⟩
  change (round counts).eval (console scan verdict) start = _
  simp [round, List.append_assoc]

/-- A batch calls its tests in order. -/
theorem calls_batch (counts : Counts) (start : Console σ) :
    ((batch counts).eval (console scan verdict) start).2.calls.map Prod.fst =
      start.calls.map Prod.fst ++ batchTests := by
  obtain ⟨gpio, pwm, spi0, spi1, i2c, heval⟩ := eval_batch scan verdict counts start
  rw [heval, List.map_append]
  rfl

/-- A batch reads no input. -/
theorem input_batch (counts : Counts) (start : Console σ) :
    ((batch counts).eval (console scan verdict) start).2.input = start.input := by
  obtain ⟨gpio, pwm, spi0, spi1, i2c, heval⟩ := eval_batch scan verdict counts start
  rw [heval]

/-- A verdict counts as one pass or none. -/
theorem verdict_val (value : Fin 2) : value.val = if value = 1 then 1 else 0 := by
  revert value
  decide

/-- A batch keeps the counters right. -/
theorem tallied_batch (counts : Counts) (start : Console σ) (hstart : Tallied counts start.calls) :
    Tallied ((batch counts).eval (console scan verdict) start).1
      ((batch counts).eval (console scan verdict) start).2.calls := by
  obtain ⟨gpio, pwm, spi0, spi1, i2c, heval⟩ := eval_batch scan verdict counts start
  rw [heval]
  constructor
  · intro test
    have hpasses := hstart.passes test
    rw [List.count_append, Int.natCast_add, ← hpasses]
    cases test <;> simp [Counts.of, List.count_cons, verdict_val]
  · intro call hcall
    rcases List.mem_append.mp hcall with hold | hnew
    · exact hstart.active call hold
    · simp only [List.mem_cons, List.not_mem_nil, or_false] at hnew
      rcases hnew with rfl | rfl | rfl | rfl | rfl <;> simp [batchTests]

/-- The summary changes nothing. -/
theorem eval_putSummary (counts : Counts) (now : Console σ) :
    (putSummary counts).eval (console scan verdict) now = ((), now) := rfl

/-- One iteration: `scanf` assigns `m`, and a batch follows when `m` is 0. -/
theorem eval_menuBody (globals : Globals) (now : Console σ) :
    (menuBody globals).eval (console scan verdict) now =
      if (scan now.input).1.assign globals.m = 0 then
        (⟨((batch globals.counts).eval (console scan verdict) { now with input := (scan now.input).2 }).1,
            (scan now.input).1.assign globals.m⟩,
          ((batch globals.counts).eval (console scan verdict) { now with input := (scan now.input).2 }).2)
      else
        (⟨globals.counts, (scan now.input).1.assign globals.m⟩,
          { now with input := (scan now.input).2 }) := by
  change (if (scan now.input).1.assign globals.m = 0 then _ else _ : MenuProg Globals).eval _
    { now with input := (scan now.input).2 } = _
  by_cases hm : (scan now.input).1.assign globals.m = 0
  · rw [if_pos hm, if_pos hm, Prog.eval_bind, Prog.eval_bind, eval_putSummary]
    rfl
  · rw [if_neg hm, if_neg hm]
    rfl

/-- The global variables and the console at the start of iteration `k`. -/
def menuAt (start : Console σ) (k : ℕ) : Globals × Console σ :=
  Prog.atRepeat (console scan verdict) menuBody initial start k

/-- An iteration leads to the next as `menuBody` does. -/
theorem menuAt_succ (start : Console σ) (k : ℕ) :
    menuAt scan verdict start (k + 1) =
      (menuBody (menuAt scan verdict start k).1).eval (console scan verdict) (menuAt scan verdict start k).2 :=
  Prog.atRepeat_succ ..

/-- The loop is still running after any number of iterations. -/
theorem eval_loop (fuel : ℕ) (start : Console σ) :
    (Prog.whileDo (fun _ => true) menuBody fuel initial).eval (console scan verdict) start =
      (none, (menuAt scan verdict start fuel).2) := by
  have hloop := Prog.eval_whileDo (console scan verdict) (fun _ => true) menuBody initial start fuel
    fun _ _ => rfl
  rwa [if_pos rfl] at hloop

/-- The program never returns: no fuel suffices. -/
theorem eval_main (fuel : ℕ) (start : Console σ) :
    (main fuel).eval (console scan verdict) start = (none, (menuAt scan verdict start fuel).2) := by
  rw [main, Prog.eval_bind, eval_putLine, Prog.eval_bind, eval_loop]
  rfl

/-- The steps of a run are the menu line and the steps of its iterations. -/
theorem trace_main (fuel : ℕ) (start : Console σ) :
    (main fuel).trace (console scan verdict) start =
      ⟨start, .printf .menu, ()⟩ :: (List.range fuel).flatMap fun k =>
        (menuBody (menuAt scan verdict start k).1).trace (console scan verdict)
          (menuAt scan verdict start k).2 := by
  have hsteps := Prog.trace_whileDo_total (console scan verdict) (fun _ => true) menuBody initial start fuel
    fun _ _ => rfl
  rw [main, Prog.trace_bind, eval_putLine, Prog.trace_bind, eval_loop, hsteps]
  exact congrArg (List.cons _) (List.append_nil _)

/-- Every iteration starts with the counters right. -/
theorem tallied_menuAt (start : Console σ) (hstart : start.calls = []) (k : ℕ) :
    Tallied (menuAt scan verdict start k).1.counts (menuAt scan verdict start k).2.calls := by
  induction k with
  | zero =>
    change Tallied initial.counts start.calls
    rw [hstart]
    exact tallied_initial
  | succ k ih =>
    rw [menuAt_succ, eval_menuBody]
    split
    · exact tallied_batch scan verdict _ _ ih
    · exact ih

end Console

end Maestro.Combine
