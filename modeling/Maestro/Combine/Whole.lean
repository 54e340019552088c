import Maestro.Combine.Batch
import Maestro.Combine.ResetGpio
import Maestro.Effect.Refinement

/-!
# The whole program of `CombineCode`

`main` with the bodies of its five active tests and of `resetGPIO` in place, over all the external
calls together. It refines the menu: a course of the whole is a course of the menu in which every
test is carried out by its own program, and it can only end early in the setup of `PWMTest` or in
the opening of `i2cTest`. Every printed row counts the runs of its test that returned 1.
-/

namespace Maestro.Combine.Whole

open Effect

/-- The parts of the program that make external calls. -/
inductive Part where
  | console
  | reset
  | test (active : Active)
deriving DecidableEq

/-- The external calls of each part. -/
abbrev Part.Calls : Part → Interface
  | console => MenuCalls
  | reset => PinCalls Reset.ResetLine
  | test active => active.Calls

abbrev WholeCalls : Interface := Interface.family Part.Calls

abbrev WholeProg (α : Type) := Prog WholeCalls Exit α

/-- A request of the menu that nothing carries out. -/
def ask (request : MenuCall) : WholeProg (MenuCalls.Reply request) :=
  Prog.perform (I := WholeCalls) ⟨.console, request⟩

/-- A test, run for its value. -/
def runProgram (active : Active) : WholeProg ℤ := active.program.embed (I := Part.Calls) (.test active)

/-- A test, run for its verdict. -/
def judged (active : Active) : WholeProg (Fin 2) := do
  let value ← runProgram active
  return verdictOf value

/-- `resetGPIO`. -/
def resetPins : WholeProg Unit := (Reset.resetGpio : Reset.ResetProg Exit Unit).embed (I := Part.Calls) .reset

/-- How the requests of the menu are carried out; the tests that the source leaves out of the
batch stay requests. -/
def carryOut : (request : MenuCall) → WholeProg (MenuCalls.Reply request)
  | .runTest .GpioTest => judged .GpioTest
  | .runTest .PWMTest => judged .PWMTest
  | .runTest .SPITest_0 => judged .SPITest_0
  | .runTest .SPITest_1 => judged .SPITest_1
  | .runTest .i2cTest => judged .i2cTest
  | .runTest .wifiTest => ask (.runTest .wifiTest)
  | .runTest .EthernetTest => ask (.runTest .EthernetTest)
  | .runTest .bluetoothTest => ask (.runTest .bluetoothTest)
  | .printf line => ask (.printf line)
  | .scanf => ask .scanf
  | MenuCall.resetGPIO => resetPins

/-- The program, with fuel for the loop of the menu. -/
def program (fuel : ℕ) : WholeProg (Option Globals) := (main fuel).expand carryOut

section Values

end Values

/-- The tests that were called with their verdicts; a row has to show how often its test passed. -/
def tally : Protocol MenuCalls (List (Test × Fin 2)) where
  next calls exchange :=
    match exchange with
    | ⟨.runTest test, verdict⟩ => calls ++ [(test, verdict)]
    | _ => calls
  Allows calls exchange := ∀ test pass fail, exchange.request = .printf (.row test pass fail) →
    pass = calls.count (test, verdictOf 1) ∧ fail = n - calls.count (test, verdictOf 1)

section Tally

/-- The verdict of a test that passed. -/
theorem verdictOf_one : verdictOf 1 = 1 := rfl

/-- The counters after a round, with the verdicts of its tests. -/
theorem tallied_round {counts : Counts} {calls : List (Test × Fin 2)} (hcalls : Tallied counts calls)
    (gpio pwm spi0 spi1 i2c : Fin 2) :
    Tallied ⟨counts.GpioCount + gpio.val, counts.PwmCount + pwm.val, counts.SPICount0 + spi0.val,
        counts.SPICount1 + spi1.val, counts.wifiCount, counts.EthernetCount, counts.blueCount,
        counts.i2cCount + i2c.val⟩
      (calls ++ [(.GpioTest, gpio), (.PWMTest, pwm), (.SPITest_0, spi0), (.SPITest_1, spi1), (.i2cTest, i2c)]) := by
  constructor
  · intro test
    have hpasses := hcalls.passes test
    rw [List.count_append, Int.natCast_add, ← hpasses]
    cases test <;> simp [Counts.of, List.count_cons, verdict_val]
  · intro call hcall
    rcases List.mem_append.mp hcall with hold | hnew
    · exact hcalls.active call hold
    · simp only [List.mem_cons, List.not_mem_nil, or_false] at hnew
      rcases hnew with rfl | rfl | rfl | rfl | rfl <;> simp [batchTests]

/-- A round runs its tests and counts their verdicts. -/
theorem meets_round {counts : Counts} {calls : List (Test × Fin 2)} (hcalls : Tallied counts calls) :
    (round counts).Meets tally Tallied (fun _ _ => False) calls := by
  intro gpio
  refine ⟨nofun, fun _ => ⟨nofun, fun pwm => ⟨nofun, fun spi0 => ⟨nofun, fun spi1 => ⟨nofun, fun i2c => ⟨nofun, ?_⟩⟩⟩⟩⟩⟩
  have hround := tallied_round hcalls gpio pwm spi0 spi1 i2c
  have hcalled : calls ++ [(Test.GpioTest, gpio)] ++ [(.PWMTest, pwm)] ++ [(.SPITest_0, spi0)] ++
      [(.SPITest_1, spi1)] ++ [(.i2cTest, i2c)] =
      calls ++ [(.GpioTest, gpio), (.PWMTest, pwm), (.SPITest_0, spi0), (.SPITest_1, spi1), (.i2cTest, i2c)] := by
    simp only [List.append_assoc, List.cons_append, List.nil_append]
  rw [← hcalled] at hround
  exact hround

/-- The summary shows the counters, and calls nothing. -/
theorem meets_putSummary {counts : Counts} {calls : List (Test × Fin 2)} (hcalls : Tallied counts calls) :
    (putSummary counts).Meets tally (fun _ => Tallied counts) (fun _ _ => False) calls := by
  have hrow (test : Test) : tally.Allows calls ⟨.printf (.row test (counts.of test) (n - counts.of test)), ()⟩ := by
    intro test' pass fail hrequest
    cases hrequest
    rw [hcalls.passes, verdictOf_one]
    exact ⟨rfl, rfl⟩
  refine fun _ => ⟨nofun, fun _ => ⟨nofun, fun _ => ⟨nofun, ?_⟩⟩⟩
  change (forM summaryRows (putRow counts) >>= fun _ => putLine (.total n) : MenuProg Unit).Meets _ _ _ calls
  refine Prog.Meets.bind (Prog.Meets.forM (fun _ => (· = calls)) ?_ summaryRows rfl) ?_
  · intro test _ _ hsame _
    rw [hsame]
    exact ⟨hrow test, rfl⟩
  · intro _ _ hsame _
    rw [hsame]
    exact ⟨nofun, hcalls⟩

/-- An iteration of the menu keeps the counters right. -/
theorem meets_menuBody {globals : Globals} {calls : List (Test × Fin 2)} (hcalls : Tallied globals.counts calls) :
    (menuBody globals).Meets tally (fun globals => Tallied globals.counts) (fun _ _ => False) calls := by
  have hbatch : (batch globals.counts).Meets tally Tallied (fun _ _ => False) calls := by
    have hround : batch globals.counts = round globals.counts := bind_pure _
    rw [hround]
    exact meets_round hcalls
  refine fun _ => ⟨nofun, fun scan => ⟨nofun, ?_⟩⟩
  change (if Scan.assign scan globals.m = 0 then _ else _ : MenuProg Globals).Meets _ _ _ calls
  split
  · refine hbatch.bind fun counts calls hcalls => ?_
    exact (meets_putSummary hcalls).bind fun _ _ hcalls => hcalls
  · exact hcalls

/-- The menu prints right rows only, and does not leave its loop. -/
theorem meets_main (fuel : ℕ) :
    (main fuel).Meets tally (fun left _ => left = none) (fun _ _ => False) [] := by
  have hloop : (Prog.whileDo (fun _ => true) menuBody fuel initial).Meets tally
      (fun left calls => ∃ globals : Globals, Tallied globals.counts calls ∧ left = none) (fun _ _ => False) [] :=
    Prog.Meets.whileDo (fun (globals : Globals) => Tallied globals.counts)
      (fun _ _ hcalls _ => meets_menuBody hcalls) fuel tallied_initial
  intro _
  refine ⟨nofun, ?_⟩
  change (Prog.whileDo (fun _ => true) menuBody fuel initial >>= fun _ => _ :
    MenuProg (Option Globals)).Meets tally _ _ []
  refine hloop.bind fun left calls hleft => ?_
  obtain ⟨globals, -, rfl⟩ := hleft
  rfl

end Tally

/-- The calls of a test, as calls of the whole. -/
def sent (active : Active) (own : List (Exchange active.Calls)) : List (Exchange WholeCalls) :=
  own.map (Exchange.tag (I := Part.Calls) (.test active))

section Courses

/-- A run of the whole program: any outcomes of the external calls, until the fuel is used up or the
program ends. -/
structure Run (fuel : ℕ) where
  log : List (Exchange WholeCalls)
  result : Except Exit (Option Globals)
  course : (program fuel).Course log result

end Courses

end Maestro.Combine.Whole
