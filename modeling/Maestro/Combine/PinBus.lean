import Maestro.Combine.Whole

/-!
# The pins in a run of the whole program

The tests and the reset share the pins: what one part leaves behind is what the next one finds.
A protocol follows the modes and the levels of all pins along a run. In every run each pin is
used only in the mode that its use asks for, and after any number of batches the pins are as one
batch leaves them. That wiringPi is set up before a pin is used holds exactly if the first setup
succeeds, since `resetGPIO` follows `GpioTest` in any case.
-/

namespace Maestro.Combine.Whole

open Effect

/-- The modes of a pin. -/
inductive Mode where
  | INPUT
  | OUTPUT
  | PWM_OUTPUT
deriving DecidableEq

/-- What an exchange is to the pins. -/
inductive PinUse where
  | other
  | setup (status : ℤ)
  | mode (pin : ℕ) (mode : Mode)
  | write (pin : ℕ) (level : ℤ)
  | pwm (pin : ℕ)
  | sample (pin : ℕ)

/-- The uses of the pin tests, and of the reset. -/
def pinUse {Line : Type} : Exchange (PinCalls Line) → PinUse
  | ⟨.wiringPiSetup, status⟩ => .setup status
  | ⟨.pinMode pin .INPUT, _⟩ => .mode pin .INPUT
  | ⟨.pinMode pin .OUTPUT, _⟩ => .mode pin .OUTPUT
  | ⟨.digitalWrite pin value, _⟩ => .write pin (if value = LOW then LOW else HIGH)
  | ⟨.digitalRead pin, _⟩ => .sample pin
  | _ => .other

/-- The uses of the PWM test. -/
def pwmUse : Exchange Pwm.PwmCalls → PinUse
  | ⟨.wiringPiSetup, status⟩ => .setup status
  | ⟨.pinMode pin .INPUT, _⟩ => .mode pin .INPUT
  | ⟨.pinMode pin .PWM_OUTPUT, _⟩ => .mode pin .PWM_OUTPUT
  | ⟨.pwmWrite pin _, _⟩ => .pwm pin
  | ⟨.digitalRead pin, _⟩ => .sample pin
  | _ => .other

/-- The uses of the SPI tests. -/
def spiUse : Exchange Spi.SpiCalls → PinUse
  | ⟨.wiringPiSetup, status⟩ => .setup status
  | _ => .other

/-- The uses of the parts of the program. -/
def Part.use : (part : Part) → Exchange part.Calls → PinUse
  | console => fun _ => .other
  | reset => pinUse
  | test .GpioTest => pinUse
  | test .PWMTest => pwmUse
  | test .SPITest_0 => spiUse
  | test .SPITest_1 => spiUse
  | test .i2cTest => fun _ => .other

/-- What the setups returned, and the modes and levels of the pins. -/
structure Bus where
  setups : List ℤ
  mode : ℕ → Mode
  latch : ℕ → ℤ

/-- What a use makes of the pins. -/
def Bus.next (bus : Bus) : PinUse → Bus
  | .setup status => { bus with setups := bus.setups ++ [status] }
  | .mode pin mode => { bus with mode := Function.update bus.mode pin mode }
  | .write pin level => { bus with latch := Function.update bus.latch pin level }
  | _ => bus

/-- The pins of the four PWM channels. -/
def pwmPins : List ℕ := Pwm.channels.map Pwm.Channel.pin

/-- The mode that a use asks for. `GpioTest` drives outputs, and samples a pin that it drives high;
the reset writes to inputs only; `PWMTest` starts channels and samples an input while all four
channels are in PWM mode. -/
def Fits (part : Part) (bus : Bus) : PinUse → Prop
  | .write pin _ => bus.mode pin = if part = .reset then .INPUT else .OUTPUT
  | .pwm pin => bus.mode pin = .PWM_OUTPUT
  | .sample pin =>
    if part = .test .PWMTest then bus.mode pin = .INPUT ∧ ∀ other ∈ pwmPins, bus.mode other = .PWM_OUTPUT
    else bus.mode pin = .OUTPUT ∧ bus.latch pin = HIGH
  | _ => True

/-- Some setup has succeeded. -/
def Bus.Ready (bus : Bus) : Prop := ∃ status ∈ bus.setups, status ≠ -1

/-- Pins are used only after a setup has succeeded. -/
def SetUp (bus : Bus) : PinUse → Prop
  | .other => True
  | .setup _ => True
  | _ => bus.Ready

/-- The pins along a run, with a rule for their use. -/
def pinRule (rule : Part → Bus → PinUse → Prop) : Protocol WholeCalls Bus where
  next bus exchange := bus.next (exchange.request.1.use ⟨exchange.request.2, exchange.reply⟩)
  Allows bus exchange := rule exchange.request.1 bus (exchange.request.1.use ⟨exchange.request.2, exchange.reply⟩)

/-- Where the program is, as far as the pins are concerned. -/
inductive Phase where
  | fresh
  | tested
  | reset
  | settled
deriving DecidableEq

/-- No batch is going on, or the one that is has come past the pin tests. -/
def Phase.Calm (phase : Phase) : Prop := phase = .fresh ∨ phase = .settled

/-- The order of the parts that use pins: the pins are reset after `GpioTest`, `PWMTest` comes next,
and then the other tests. -/
def rounds : Protocol MenuCalls Phase where
  next phase exchange :=
    match exchange.request with
    | .runTest .GpioTest => .tested
    | MenuCall.resetGPIO => .reset
    | .runTest .PWMTest => .settled
    | _ => phase
  Allows phase exchange :=
    match exchange.request with
    | .runTest .GpioTest => phase.Calm
    | MenuCall.resetGPIO => phase = .tested
    | .runTest .PWMTest => phase = .reset
    | .runTest _ => phase = .settled
    | _ => phase.Calm

section Rounds

/-- The summary runs no test. -/
theorem meets_rounds_putSummary (counts : Counts) {phase : Phase} (hcalm : phase.Calm) :
    (putSummary counts).Meets rounds (fun _ => Phase.Calm) (fun _ _ => False) phase := by
  refine fun _ => ⟨hcalm, fun _ => ⟨hcalm, fun _ => ⟨hcalm, ?_⟩⟩⟩
  change (forM summaryRows (putRow counts) >>= fun _ => putLine (.total n) : MenuProg Unit).Meets _ _ _ phase
  refine Prog.Meets.bind (Prog.Meets.forM (fun _ => Phase.Calm) ?_ summaryRows hcalm) ?_
  · intro _ _ _ hcalm _
    exact ⟨hcalm, hcalm⟩
  · intro _ _ hcalm _
    exact ⟨hcalm, hcalm⟩

/-- An iteration of the menu keeps the order. -/
theorem meets_rounds_menuBody (globals : Globals) {phase : Phase} (hcalm : phase.Calm) :
    (menuBody globals).Meets rounds (fun _ => Phase.Calm) (fun _ _ => False) phase := by
  have hround : (round globals.counts).Meets rounds (fun _ => Phase.Calm) (fun _ _ => False) phase :=
    fun _ => ⟨hcalm, fun _ => ⟨rfl, fun _ => ⟨rfl, fun _ => ⟨rfl, fun _ => ⟨rfl, fun _ => ⟨rfl, .inr rfl⟩⟩⟩⟩⟩⟩
  have hbatch : batch globals.counts = round globals.counts := bind_pure _
  refine fun _ => ⟨hcalm, fun scan => ⟨hcalm, ?_⟩⟩
  change (if Scan.assign scan globals.m = 0 then _ else _ : MenuProg Globals).Meets _ _ _ phase
  split
  · rw [hbatch]
    refine hround.bind fun counts phase hcalm => ?_
    exact (meets_rounds_putSummary counts hcalm).bind fun _ _ hcalm => hcalm
  · exact hcalm

/-- The menu keeps the order. -/
theorem meets_rounds (fuel : ℕ) :
    (main fuel).Meets rounds (fun _ => Phase.Calm) (fun _ _ => False) .fresh := by
  have hloop : (Prog.whileDo (fun _ => true) menuBody fuel initial).Meets rounds
      (fun left phase => ∃ globals : Globals, phase.Calm ∧ left = none) (fun _ _ => False) .fresh :=
    Prog.Meets.whileDo (fun _ => Phase.Calm) (fun globals _ hcalm _ => meets_rounds_menuBody globals hcalm) fuel
      (.inl rfl)
  refine fun _ => ⟨.inl rfl, ?_⟩
  change (Prog.whileDo (fun _ => true) menuBody fuel initial >>= fun _ => _ :
    MenuProg (Option Globals)).Meets rounds _ _ .fresh
  refine hloop.bind fun left phase hleft => ?_
  obtain ⟨-, hcalm, rfl⟩ := hleft
  exact hcalm

end Rounds

/-- `GpioTest` begins a batch. -/
def begins : Exchange WholeCalls → Bool
  | ⟨⟨.test .GpioTest, .wiringPiSetup⟩, _⟩ => true
  | _ => false

/-- `GpioTest` has set up wiringPi, and goes on to drive its pins. -/
def drives : Exchange WholeCalls → Bool
  | ⟨⟨.test .GpioTest, .wiringPiSetup⟩, status⟩ => decide (status ≠ (-1 : ℤ))
  | _ => false

/-- `PWMTest` has set up wiringPi, and goes on to start its channels. -/
def starts : Exchange WholeCalls → Bool
  | ⟨⟨.test .PWMTest, .wiringPiSetup⟩, status⟩ => decide (status ≠ (-1 : ℤ))
  | _ => false

/-- `PWMTest` could not set up wiringPi, and ends the program. -/
def givesUp : Exchange WholeCalls → Bool
  | ⟨⟨.test .PWMTest, .wiringPiSetup⟩, status⟩ => decide (status = (-1 : ℤ))
  | _ => false

/-- Which of these exchanges a run has had. -/
structure Marks where
  begun : Bool
  driven : Bool
  started : Bool
  gaveUp : Bool

/-- The marks with another exchange. -/
def Marks.next (marks : Marks) (exchange : Exchange WholeCalls) : Marks where
  begun := begins exchange || marks.begun
  driven := drives exchange || marks.driven
  started := starts exchange || marks.started
  gaveUp := givesUp exchange || marks.gaveUp

/-- The levels that the reset leaves: it writes to twelve pins, and the five other pins of `GpioTest`
are low once they have been driven. -/
def levelsLeft (driven : Bool) (start : ℕ → ℤ) (pin : ℕ) : ℤ :=
  if pin ∈ Reset.pins.toList.take 5 then HIGH
  else if pin ∈ Reset.pins.toList then LOW
  else if driven = true ∧ pin ∈ Reset.HighPin.toList then LOW
  else start pin

/-- The modes that the reset leaves: the pins of `GpioTest` are inputs, and channels that were started
outside of them go on. -/
def modesReset (started : Bool) (start : ℕ → Mode) (pin : ℕ) : Mode :=
  if pin ∈ pins then .INPUT else if started = true ∧ pin ∈ pwmPins then .PWM_OUTPUT else start pin

/-- The modes that a batch leaves: the channels are in PWM mode, and the other pins of `GpioTest`
are inputs. -/
def modesSettled (start : ℕ → Mode) (pin : ℕ) : Mode :=
  if pin ∈ pwmPins then .PWM_OUTPUT else if pin ∈ pins then .INPUT else start pin

/-- At the end of a test: the pins that no test uses are as they were, and so are the five pins that
the reset does not write to, unless they were driven and left low. -/
structure Frame (start : Bus) (s : Bus × Marks) : Prop where
  mode : ∀ pin ∉ pins, s.1.mode pin = if s.2.started = true ∧ pin ∈ pwmPins then .PWM_OUTPUT else start.mode pin
  latch : ∀ pin ∉ pins, s.1.latch pin = start.latch pin
  high : ∀ pin ∈ Reset.HighPin.toList, s.1.latch pin = if s.2.driven = true then LOW else start.latch pin

/-- A batch is going on. -/
structure Going (marks : Marks) : Prop where
  begun : marks.begun = true
  goesOn : marks.gaveUp = false

/-- After the reset. -/
structure PinsReset (start : Bus) (s : Bus × Marks) : Prop extends Going s.2 where
  mode : s.1.mode = modesReset s.2.started start.mode
  latch : s.1.latch = levelsLeft s.2.driven start.latch

/-- After a batch. -/
structure Settled (start : Bus) (s : Bus × Marks) : Prop extends Going s.2 where
  started : s.2.started = true
  mode : s.1.mode = modesSettled start.mode
  latch : s.1.latch = levelsLeft s.2.driven start.latch

/-- Where a run ends: nothing has changed before the first batch, and after it the pins are as the
last reset or the last batch left them. -/
structure Left (start : Bus) (s : Bus × Marks) : Prop where
  unbegun : s.2.begun = false → s.1 = start
  latch : s.2.begun = true → s.1.latch = levelsLeft s.2.driven start.latch
  mode : s.2.begun = true →
    s.1.mode = if s.2.gaveUp = true then modesReset s.2.started start.mode else modesSettled start.mode

section Marks

/-- The marks of a log. -/
theorem reached_marks (marks : Marks) (log : List (Exchange WholeCalls)) :
    reached Marks.next marks log =
      ⟨log.any begins || marks.begun, log.any drives || marks.driven, log.any starts || marks.started,
        log.any givesUp || marks.gaveUp⟩ := by
  induction log generalizing marks with
  | nil => rfl
  | cons exchange log ih =>
    change reached Marks.next (marks.next exchange) log = _
    rw [ih]
    simp only [Marks.next, List.any_cons, Bool.or_assoc, Bool.or_left_comm]

end Marks

section Parts

variable {start bus : Bus} {marks : Marks} {s : Bus × Marks}

/-- The rule of modes as a part sees it, with the marks of the run. -/
abbrev modeRule (part : Part) : Protocol part.Calls (Bus × Marks) :=
  ((pinRule Fits).noting Marks.next).member (I := Part.Calls) part

/-- What is settled is as a test may leave it. -/
theorem Settled.frame (hsettled : Settled start s) : Frame start s := by
  have hapart : ∀ pin ∈ Reset.HighPin.toList, pin ∉ Reset.pins.toList := by decide
  constructor
  · intro pin hpin
    simp only [hsettled.mode, hsettled.started, modesSettled, if_neg hpin, true_and]
  · intro pin hpin
    rw [Reset.mem_pins_iff, not_or] at hpin
    rw [hsettled.latch, levelsLeft, if_neg fun h => hpin.2 (List.mem_of_mem_take h), if_neg hpin.2,
      if_neg fun h => hpin.1 h.2]
  · intro pin hpin
    rw [hsettled.latch, levelsLeft, if_neg fun h => hapart pin hpin (List.mem_of_mem_take h),
      if_neg (hapart pin hpin)]
    simp only [hpin, and_true]

/-- What is settled is as a run may leave it. -/
theorem Settled.left (hsettled : Settled start s) : Left start s := by
  refine ⟨fun hunbegun => ?_, fun _ => hsettled.latch, fun _ => ?_⟩
  · cases hunbegun.symm.trans hsettled.begun
  · rw [hsettled.goesOn]
    exact hsettled.mode

/-- The test of a pin drives it high as an output, samples it, and leaves it low. -/
theorem meets_testPin (check : ℤ) (pin : ℕ) :
    (testPin check pin : GpioProg Exit ℤ).Meets (modeRule (.test .GpioTest))
      (fun _ after => after = (⟨bus.setups, Function.update bus.mode pin .OUTPUT,
        Function.update (Function.update bus.latch pin HIGH) pin LOW⟩, marks)) (fun _ _ => False) (bus, marks) := by
  have houtput : Function.update bus.mode pin .OUTPUT pin = .OUTPUT := Function.update_self ..
  have hhigh : Function.update bus.latch pin HIGH pin = HIGH := Function.update_self ..
  intro _
  refine ⟨trivial, fun _ => ⟨houtput, fun _ => ⟨trivial, fun level => ⟨⟨houtput, hhigh⟩, ?_⟩⟩⟩⟩
  change ((if level = LOW then _ else _ : GpioProg Exit ℤ) >>= fun check => _).Meets _ _ _ _
  split
  · exact fun _ => ⟨trivial, fun _ => ⟨houtput, fun _ => ⟨trivial, rfl⟩⟩⟩
  · exact fun _ => ⟨houtput, fun _ => ⟨trivial, rfl⟩⟩

/-- While the pins are tested: those of the test that do not come any more are low. -/
structure Testing (bus : Bus) (marks : Marks) (rest : List ℕ) (s : Bus × Marks) : Prop where
  marks : s.2 = marks
  subset : rest ⊆ pins
  mode : ∀ pin ∉ pins, s.1.mode pin = bus.mode pin
  latch : ∀ pin ∉ pins, s.1.latch pin = bus.latch pin
  low : ∀ pin ∈ pins, pin ∉ rest → s.1.latch pin = LOW

/-- The test of the next pin leaves it low as well. -/
theorem Testing.next {pin : ℕ} {rest : List ℕ} (htesting : Testing bus marks (pin :: rest) s) :
    Testing bus marks rest (⟨s.1.setups, Function.update s.1.mode pin .OUTPUT,
      Function.update (Function.update s.1.latch pin HIGH) pin LOW⟩, s.2) := by
  have hpin : pin ∈ pins := htesting.subset List.mem_cons_self
  have hne {other : ℕ} (hother : other ∉ pins) : other ≠ pin := fun heq => hother (heq ▸ hpin)
  refine ⟨htesting.marks, fun _ hmem => htesting.subset (List.mem_cons_of_mem _ hmem), ?_, ?_, ?_⟩
  · intro other hother
    exact (Function.update_of_ne (hne hother) _ _).trans (htesting.mode other hother)
  · intro other hother
    rw [Function.update_idem]
    exact (Function.update_of_ne (hne hother) _ _).trans (htesting.latch other hother)
  · intro other hother hrest
    rw [Function.update_idem]
    change Function.update s.1.latch pin LOW other = LOW
    by_cases heq : other = pin
    · rw [heq, Function.update_self]
    · rw [Function.update_of_ne heq]
      exact htesting.low other hother fun hmem => (List.mem_cons.mp hmem).elim heq hrest

/-- `GpioTest` uses its pins as outputs, and leaves them low unless it could not set up wiringPi. -/
theorem meets_GpioTest (hframe : Frame start (bus, marks)) (hgoes : marks.gaveUp = false) :
    (Combine.GpioTest : GpioProg Exit ℤ).Meets (modeRule (.test .GpioTest))
      (fun _ s => Frame start s ∧ Going s.2) (fun _ _ => False) (bus, marks) := by
  intro (status : ℤ)
  refine ⟨trivial, ?_⟩
  have hdriven : (decide (status ≠ -1) || marks.driven) = true ↔ (status ≠ -1 ∨ marks.driven = true) := by
    rw [Bool.or_eq_true, decide_eq_true_eq]
  let tested : Marks := ⟨true, decide (status ≠ -1) || marks.driven, marks.started, marks.gaveUp⟩
  change (if status = -1 then _ else _ : GpioProg Exit ℤ).Meets _ _ _ (bus.next (.setup status), tested)
  by_cases hstatus : status = -1
  · rw [if_pos hstatus]
    refine fun _ => ⟨trivial, ⟨hframe.mode, hframe.latch, fun pin hpin => ?_⟩, rfl, hgoes⟩
    refine (hframe.high pin hpin).trans (if_congr ?_ rfl rfl)
    exact (hdriven.trans (or_iff_right (not_not.mpr hstatus))).symm
  · rw [if_neg hstatus]
    have hloop : (pins.foldlM testPin 1 : GpioProg Exit ℤ).Meets (modeRule (.test .GpioTest))
        (fun _ => Testing bus tested []) (fun _ _ => False) (bus.next (.setup status), tested) := by
      refine Prog.Meets.foldlM (fun rest _ => Testing bus tested rest) ?_ pins
        ⟨rfl, List.Subset.refl _, fun _ _ => rfl, fun _ _ => rfl, fun _ hpin hrest => absurd hpin hrest⟩
      intro pin rest check s htesting
      refine (meets_testPin check pin).mono (fun _ after hafter => ?_) fun _ _ => id
      rw [hafter]
      exact htesting.next
    refine hloop.bind fun check s htesting => ?_
    obtain ⟨bus', marks'⟩ := s
    obtain rfl : marks' = tested := htesting.marks
    have hdone : Frame start (bus', tested) := by
      refine ⟨fun pin hpin => (htesting.mode pin hpin).trans (hframe.mode pin hpin),
        fun pin hpin => (htesting.latch pin hpin).trans (hframe.latch pin hpin), fun pin hpin => ?_⟩
      rw [if_pos (hdriven.mpr (.inl hstatus))]
      exact htesting.low pin ((Reset.mem_pins_iff pin).mpr (.inl hpin)) List.not_mem_nil
    refine fun _ => ⟨trivial, ?_⟩
    change (if check = 1 then _ else _ : GpioProg Exit ℤ).Meets _ _ _ (bus', tested)
    split
    · exact ⟨hdone, rfl, hgoes⟩
    · exact ⟨hdone, rfl, hgoes⟩

/-- A loop of the reset makes its first pins inputs and writes its second pins, which have to be
inputs by then. -/
theorem meets_resetPins_loop {ι : Type} (target written : ι → ℕ) (level : ℤ) (indices : List ι) (bus : Bus)
    (hwritten : ∀ i ∈ indices, written i = target i ∨ bus.mode (written i) = .INPUT) :
    (forM indices fun i => do
      pinMode (target i) .INPUT
      digitalWrite (written i) level : Reset.ResetProg Exit Unit).Meets (modeRule .reset)
        (fun _ after => after = (⟨bus.setups,
          fun pin => if pin ∈ indices.map target then .INPUT else bus.mode pin,
          fun pin => if pin ∈ indices.map written then (if level = LOW then LOW else HIGH) else bus.latch pin⟩, marks))
        (fun _ _ => False) (bus, marks) := by
  induction indices generalizing bus with
  | nil => rfl
  | cons i indices ih =>
    have hkept {pin : ℕ} (hpin : pin = target i ∨ bus.mode pin = .INPUT) :
        Function.update bus.mode (target i) .INPUT pin = .INPUT := by
      by_cases heq : pin = target i
      · rw [heq, Function.update_self]
      · rw [Function.update_of_ne heq, hpin.resolve_left heq]
    rw [List.forM_cons, Prog.meets_bind]
    refine fun _ => ⟨trivial, fun _ => ⟨hkept (hwritten i List.mem_cons_self), ?_⟩⟩
    refine (ih ⟨bus.setups, Function.update bus.mode (target i) .INPUT,
      Function.update bus.latch (written i) (if level = LOW then LOW else HIGH)⟩ fun j hj => ?_).mono
        (fun _ after hafter => ?_) fun _ _ => id
    · rcases hwritten j (List.mem_cons_of_mem i hj) with heq | hinput
      · exact .inl heq
      · exact .inr (hkept (.inr hinput))
    · rw [hafter, List.map_cons, List.map_cons, ← Reset.ite_mem_update, ← Reset.ite_mem_update]

/-- `resetGPIO` writes to inputs, and resets all pins of `GpioTest`. -/
theorem meets_resetGpio (hframe : Frame start (bus, marks)) (hgoing : Going marks) :
    (Reset.resetGpio : Reset.ResetProg Exit Unit).Meets (modeRule .reset) (fun _ => PinsReset start)
      (fun _ _ => False) (bus, marks) := by
  have htwelve : (List.finRange 12).map (fun i => Reset.pins[i]) = Reset.pins.toList := rfl
  have hfive : (List.finRange 5).map (fun i => Reset.HighPin[i]) = Reset.HighPin.toList := rfl
  have hwritten : (List.finRange 5).map (fun i : Fin 5 => Reset.pins[i]) = Reset.pins.toList.take 5 := rfl
  have hinput : ∀ i : Fin 5, Reset.pins[i] ∈ Reset.pins.toList := by decide
  refine (meets_resetPins_loop (fun i : Fin 12 => Reset.pins[i]) (fun i => Reset.pins[i]) LOW _ bus
    fun _ _ => .inl rfl).bind fun _ after hafter => ?_
  rw [hafter, htwelve]
  refine (meets_resetPins_loop (fun i : Fin 5 => Reset.HighPin[i]) (fun i => Reset.pins[i]) HIGH _ _
    fun i _ => .inr (if_pos (hinput i))).bind fun _ after hafter => ?_
  rw [hafter, hfive, hwritten]
  refine fun _ => ⟨trivial, ⟨hgoing, funext fun pin => ?_, funext fun pin => ?_⟩⟩
  · change (if pin ∈ Reset.HighPin.toList then Mode.INPUT else if pin ∈ Reset.pins.toList then .INPUT
      else bus.mode pin) = modesReset marks.started start.mode pin
    rw [modesReset]
    by_cases hpin : pin ∈ pins
    · rw [if_pos hpin]
      rcases (Reset.mem_pins_iff pin).mp hpin with hhigh | hlow
      · rw [if_pos hhigh]
      · rw [if_pos hlow, ite_self]
    · have hmode := hframe.mode pin hpin
      rw [if_neg hpin, ← hmode]
      rw [Reset.mem_pins_iff, not_or] at hpin
      rw [if_neg hpin.1, if_neg hpin.2]
  · change (if pin ∈ Reset.pins.toList.take 5 then HIGH else if pin ∈ Reset.pins.toList then LOW
      else bus.latch pin) = levelsLeft marks.driven start.latch pin
    refine if_congr Iff.rfl rfl (ite_congr rfl (fun _ => rfl) fun hlow => ?_)
    by_cases hhigh : pin ∈ Reset.HighPin.toList
    · rw [hframe.high pin hhigh]
      exact if_congr (and_iff_left hhigh).symm rfl rfl
    · rw [if_neg fun h => hhigh h.2]
      exact hframe.latch pin fun hpin => ((Reset.mem_pins_iff pin).mp hpin).elim hhigh hlow

/-- The input is an input and the channels are in PWM mode. -/
structure Running (bus : Bus) : Prop where
  input : bus.mode Pwm.INPUT_PIN = .INPUT
  channels : ∀ pin ∈ pwmPins, bus.mode pin = .PWM_OUTPUT

/-- What the test of a channel may ask for. -/
def ForChannel (pin : ℕ) : Pwm.PwmCall → Prop
  | .wiringPiSetup => False
  | .pinMode _ _ => False
  | .pwmWrite other _ => other = pin
  | .digitalRead other => other = Pwm.INPUT_PIN
  | _ => True

/-- The test of a channel starts this channel, and samples the input. -/
theorem forChannel_testChannel (gpio pin : ℕ) (check : ℤ) :
    (Pwm.testChannel gpio pin check : Pwm.PwmProg Exit ℤ).AllCalls (ForChannel pin) := by
  have hlog : (Pwm.logPWMInput : Pwm.PwmProg Exit ℚ).AllCalls (ForChannel pin) := by
    unfold Pwm.logPWMInput
    apply Prog.AllCalls.bind
    · apply Prog.AllCalls.foldlM
      intro tally _
      exact ⟨rfl, fun _ => ⟨trivial, fun _ => trivial⟩⟩
    · intro tally
      exact ⟨trivial, fun _ => ⟨trivial, fun _ => trivial⟩⟩
  have hjudge (n : ℚ) : (Pwm.judge n check : Pwm.PwmProg Exit ℤ).AllCalls (ForChannel pin) := by
    rw [Pwm.judge]
    split
    · exact ⟨trivial, fun _ => trivial⟩
    · exact ⟨trivial, fun _ => trivial⟩
  refine ⟨trivial, fun _ => ⟨rfl, fun _ => ⟨trivial, fun _ => ?_⟩⟩⟩
  exact hlog.bind fun n => (hjudge n).bind fun _ => ⟨trivial, fun _ => trivial⟩

/-- While the channels are tested, no pin changes. -/
theorem meets_testEach (hrunning : Running bus) (check : ℤ) {channel : Pwm.Channel}
    (hchannel : channel ∈ Pwm.channels) :
    (Pwm.testEach check channel : Pwm.PwmProg Exit ℤ).Meets (modeRule (.test .PWMTest))
      (fun _ after => after = (bus, marks)) (fun _ after => after = (bus, marks)) (bus, marks) := by
  refine Prog.Meets.of_allCalls (· = (bus, marks)) ?_ (forChannel_testChannel channel.gpio channel.pin check) rfl
  intro s exchange hsame hcall
  rw [hsame]
  match exchange, hcall with
  | ⟨.pwmWrite _ _, _⟩, rfl => exact ⟨hrunning.channels _ (List.mem_map_of_mem hchannel), rfl⟩
  | ⟨.digitalRead _, _⟩, rfl => exact ⟨⟨hrunning.input, hrunning.channels⟩, rfl⟩
  | ⟨.pwmSetMode _, _⟩, _ => exact ⟨trivial, rfl⟩
  | ⟨.pwmSetRange _, _⟩, _ => exact ⟨trivial, rfl⟩
  | ⟨.pwmSetClock _, _⟩, _ => exact ⟨trivial, rfl⟩
  | ⟨.delayMicroseconds _, _⟩, _ => exact ⟨trivial, rfl⟩
  | ⟨.sleep _, _⟩, _ => exact ⟨trivial, rfl⟩
  | ⟨.printf _, _⟩, _ => exact ⟨trivial, rfl⟩

/-- The pins once the setup of `PWMTest` has gone through. -/
def Bus.started (bus : Bus) (status : ℤ) : Bus :=
  ⟨bus.setups ++ [status],
    Function.update (Function.update (Function.update (Function.update (Function.update bus.mode
      Pwm.PWM_PIN18 .PWM_OUTPUT) Pwm.PWM_PIN12 .PWM_OUTPUT) Pwm.PWM_PIN13 .PWM_OUTPUT) Pwm.PWM_PIN19 .PWM_OUTPUT)
      Pwm.INPUT_PIN .INPUT,
    bus.latch⟩

/-- The setup puts the channels in PWM mode and makes the input an input. -/
theorem mode_started (bus : Bus) (status : ℤ) (pin : ℕ) :
    (bus.started status).mode pin =
      if pin ∈ pwmPins then .PWM_OUTPUT else if pin = Pwm.INPUT_PIN then .INPUT else bus.mode pin := by
  have hpins : pwmPins = [26, 23, 1, 24] := rfl
  rw [hpins, Bus.started, Pwm.PWM_PIN18, Pwm.PWM_PIN12, Pwm.PWM_PIN13, Pwm.PWM_PIN19, Pwm.INPUT_PIN]
  simp only [Function.update_apply, List.mem_cons, List.not_mem_nil, or_false]
  split_ifs <;> first | rfl | omega

/-- With the pins reset, the started channels settle the pins. -/
theorem PinsReset.started (hreset : PinsReset start (bus, marks)) (status : ℤ) :
    Settled start (bus.started status, { marks with started := true }) := by
  refine ⟨⟨hreset.begun, hreset.goesOn⟩, rfl, funext fun pin => ?_, hreset.latch⟩
  have hinput : Pwm.INPUT_PIN ∈ pins := by decide
  have hmode : bus.mode pin = modesReset marks.started start.mode pin := congrFun hreset.mode pin
  change (bus.started status).mode pin = modesSettled start.mode pin
  rw [mode_started, hmode, modesSettled]
  by_cases hpwm : pin ∈ pwmPins
  · rw [if_pos hpwm, if_pos hpwm]
  · rw [if_neg hpwm, if_neg hpwm, modesReset]
    by_cases hpin : pin ∈ pins
    · rw [if_pos hpin, if_pos hpin, ite_self]
    · have hne : pin ≠ Pwm.INPUT_PIN := fun heq => hpin (heq ▸ hinput)
      rw [if_neg hne, if_neg hpin, if_neg hpin, if_neg fun h => hpwm h.2]

/-- `PWMTest` starts the channels in PWM mode and samples an input. -/
theorem meets_PWMTest (hreset : PinsReset start (bus, marks)) :
    Pwm.PWMTest.Meets (modeRule (.test .PWMTest)) (fun _ => Settled start) (fun _ => Left start) (bus, marks) := by
  rw [Pwm.PWMTest_eq]
  intro (status : ℤ)
  refine ⟨trivial, ?_⟩
  let tested : Marks :=
    ⟨marks.begun, marks.driven, decide (status ≠ -1) || marks.started, decide (status = -1) || marks.gaveUp⟩
  change ((if status = -1 then _ else _ : Pwm.PwmProg Exit Unit) >>= fun _ => _).Meets _ _ _
    (bus.next (.setup status), tested)
  by_cases hstatus : status = -1
  · have htested : tested = { marks with gaveUp := true } := by
      simp only [tested, hstatus, ne_eq, not_true, decide_true, decide_false, Bool.true_or, Bool.false_or]
    rw [if_pos hstatus, htested]
    refine fun _ => ⟨trivial, ⟨fun hunbegun => ?_, fun _ => hreset.latch, fun _ => hreset.mode⟩⟩
    cases hunbegun.symm.trans hreset.begun
  · have htested : tested = { marks with started := true } := by
      simp only [tested, hstatus, ne_eq, not_false_eq_true, decide_true, decide_false, Bool.true_or, Bool.false_or]
    rw [if_neg hstatus, htested]
    have hsettled := hreset.started status
    have hrunning : Running (bus.started status) := by
      constructor
      · rw [mode_started, if_neg (by decide), if_pos rfl]
      · intro pin hpwm
        rw [mode_started, if_pos hpwm]
    refine fun _ => ⟨trivial, fun _ => ⟨trivial, fun _ => ⟨trivial, fun _ => ⟨trivial, fun _ => ⟨trivial,
      fun _ => ⟨trivial, fun _ => ⟨trivial, fun _ => ⟨trivial, ?_⟩⟩⟩⟩⟩⟩⟩⟩
    change (Pwm.channels.foldlM Pwm.testEach 0 >>= fun check => _ : Pwm.PwmProg Exit ℤ).Meets _ _ _
      (bus.started status, { marks with started := true })
    have hloop : (Pwm.channels.foldlM Pwm.testEach 0 : Pwm.PwmProg Exit ℤ).Meets (modeRule (.test .PWMTest))
        (fun _ after => after = (bus.started status, { marks with started := true }) ∧ [] ⊆ Pwm.channels)
        (fun _ => Left start) (bus.started status, { marks with started := true }) := by
      refine Prog.Meets.foldlM
        (fun rest _ after => after = (bus.started status, { marks with started := true }) ∧ rest ⊆ Pwm.channels) ?_
        Pwm.channels ⟨rfl, List.Subset.refl _⟩
      intro channel rest check after hafter
      rw [hafter.1]
      refine (meets_testEach hrunning check (hafter.2 List.mem_cons_self)).mono
        (fun _ _ hsame => ⟨hsame, fun _ hmem => hafter.2 (List.mem_cons_of_mem _ hmem)⟩) fun _ _ hsame => ?_
      rw [hsame]
      exact hsettled.left
    refine hloop.bind fun check after hafter => ?_
    rw [hafter.1]
    split
    · exact hsettled
    · exact hsettled

/-- The SPI tests use no pins. -/
theorem spi_step (part : Part) (exchange : Exchange Spi.SpiCalls) (hsettled : Settled start s) :
    Fits part s.1 (spiUse exchange) ∧ Settled start (s.1.next (spiUse exchange), s.2) := by
  match exchange with
  | ⟨.wiringPiSetup, _⟩ => exact ⟨trivial, hsettled.toGoing, hsettled.started, hsettled.mode, hsettled.latch⟩
  | ⟨.wiringPiSPISetup _ _, _⟩ => exact ⟨trivial, hsettled⟩
  | ⟨.wiringPiSPIDataRW _ _, _⟩ => exact ⟨trivial, hsettled⟩
  | ⟨.printf _, _⟩ => exact ⟨trivial, hsettled⟩

/-- How the pins are in each phase. -/
def related (start : Bus) : Phase → Bus × Marks → Prop
  | .fresh, s => s = (start, ⟨false, false, false, false⟩)
  | .tested, s => Frame start s ∧ Going s.2
  | .reset, s => PinsReset start s
  | .settled, s => Settled start s

/-- A batch that is about to begin finds nothing else changed. -/
theorem frame_of_calm {phase : Phase} (hcalm : phase.Calm) (hrelated : related start phase s) :
    Frame start s ∧ s.2.gaveUp = false := by
  rcases hcalm with rfl | rfl
  · have hstart : s = (start, ⟨false, false, false, false⟩) := hrelated
    subst hstart
    exact ⟨⟨fun _ _ => rfl, fun _ _ => rfl, fun _ _ => rfl⟩, rfl⟩
  · have hsettled : Settled start s := hrelated
    exact ⟨hsettled.frame, hsettled.goesOn⟩

/-- Every request of the menu is carried out with pins in their modes. -/
theorem meets_carryOut (request : MenuCall) (phase : Phase) (hrelated : related start phase s)
    (hallows : ∀ reply, rounds.Allows phase ⟨request, reply⟩) :
    (carryOut request).Meets ((pinRule Fits).noting Marks.next)
      (fun reply => related start (rounds.next phase ⟨request, reply⟩)) (fun _ => Left start) s := by
  have hask (request : MenuCall) (hsame : ∀ reply, rounds.next phase ⟨request, reply⟩ = phase) :
      (ask request).Meets ((pinRule Fits).noting Marks.next)
        (fun reply => related start (rounds.next phase ⟨request, reply⟩)) (fun _ => Left start) s := by
    intro reply
    refine ⟨trivial, ?_⟩
    change related start (rounds.next phase ⟨request, reply⟩) s
    rw [hsame]
    exact hrelated
  have hjudged (active : Active) (post : Bus × Marks → Prop)
      (hprogram : active.program.Meets (modeRule (.test active)) (fun _ => post) (fun _ => Left start) s) :
      (judged active).Meets ((pinRule Fits).noting Marks.next) (fun _ => post) (fun _ => Left start) s :=
    (Prog.meets_embed.mpr hprogram).bind fun _ _ hpost => hpost
  have hquiet (active : Active) (hsettled : Settled start s)
      (hstep : ∀ s exchange, Settled start s →
        (modeRule (.test active)).Allows s exchange ∧ Settled start ((modeRule (.test active)).next s exchange)) :
      (judged active).Meets ((pinRule Fits).noting Marks.next) (fun _ => Settled start) (fun _ => Left start) s := by
    refine hjudged active _ ((Prog.Meets.of_invariant (Settled start) hstep active.program hsettled).mono
      (fun _ _ => id) fun _ _ hsettled => hsettled.left)
  obtain ⟨bus, marks⟩ := s
  cases request with
  | printf line => exact hask _ fun _ => rfl
  | scanf => exact hask _ fun _ => rfl
  | resetGPIO =>
    obtain rfl : phase = .tested := hallows ()
    exact Prog.meets_embed.mpr ((meets_resetGpio hrelated.1 hrelated.2).mono (fun _ _ => id) fun _ _ => False.elim)
  | runTest test =>
    cases test with
    | GpioTest =>
      obtain ⟨hframe, hgoes⟩ := frame_of_calm (hallows 0) hrelated
      exact hjudged .GpioTest _ ((meets_GpioTest hframe hgoes).mono (fun _ _ => id) fun _ _ => False.elim)
    | PWMTest =>
      obtain rfl : phase = .reset := hallows 0
      exact hjudged .PWMTest _ (meets_PWMTest hrelated)
    | SPITest_0 =>
      obtain rfl : phase = .settled := hallows 0
      exact hquiet .SPITest_0 hrelated fun s exchange hs => spi_step (.test .SPITest_0) exchange hs
    | SPITest_1 =>
      obtain rfl : phase = .settled := hallows 0
      exact hquiet .SPITest_1 hrelated fun s exchange hs => spi_step (.test .SPITest_1) exchange hs
    | i2cTest =>
      obtain rfl : phase = .settled := hallows 0
      exact hquiet .i2cTest hrelated fun s exchange hs => ⟨trivial, hs⟩
    | wifiTest => exact hask _ fun _ => rfl
    | EthernetTest => exact hask _ fun _ => rfl
    | bluetoothTest => exact hask _ fun _ => rfl

end Parts

section Setups

/-- The pins along a run, and whether every use so far came after a setup that succeeded. -/
abbrev watch : Protocol WholeCalls (Bus × Prop) := (pinRule fun _ => SetUp).watched

/-- The watched pins as a part sees them. -/
abbrev watchPart (part : Part) : Protocol part.Calls (Bus × Prop) := watch.member (I := Part.Calls) part

/-- No setup has been made, and no pin was used. -/
def Idle (s : Bus × Prop) : Prop := s.1.setups = [] ∧ s.2

/-- The only setup so far has failed, and no pin was used. -/
def Failed (s : Bus × Prop) : Prop := s.1.setups = [-1] ∧ s.2

/-- It is decided, by the first setup, whether the pins are used as they should. -/
def Decided (s : Bus × Prop) : Prop := ∃ first rest, s.1.setups = first :: rest ∧ (s.2 ↔ first ≠ -1)

/-- A use of a pin after a setup that succeeded is as it should be. -/
theorem setUp_of_ready {bus : Bus} (hready : bus.Ready) (use : PinUse) : SetUp bus use := by
  cases use with
  | other => trivial
  | setup => trivial
  | mode => exact hready
  | write => exact hready
  | pwm => exact hready
  | sample => exact hready

/-- Uses only add to the setups. -/
theorem setups_next (bus : Bus) (use : PinUse) : ∃ added, (bus.next use).setups = bus.setups ++ added := by
  cases use with
  | setup status => exact ⟨[status], rfl⟩
  | other => exact ⟨[], (List.append_nil _).symm⟩
  | mode => exact ⟨[], (List.append_nil _).symm⟩
  | write => exact ⟨[], (List.append_nil _).symm⟩
  | pwm => exact ⟨[], (List.append_nil _).symm⟩
  | sample => exact ⟨[], (List.append_nil _).symm⟩

/-- What is decided stays so: a first setup that succeeded makes the pins ready for good, and a use
that was too early remains one. -/
theorem Decided.next {s : Bus × Prop} (hdecided : Decided s) (exchange : Exchange WholeCalls) :
    Decided (watch.next s exchange) := by
  obtain ⟨first, rest, hsetups, hkept⟩ := hdecided
  have hready (hfirst : first ≠ -1) : s.1.Ready := ⟨first, hsetups ▸ List.mem_cons_self, hfirst⟩
  obtain ⟨added, hadded⟩ := setups_next s.1
    (exchange.request.1.use ⟨exchange.request.2, exchange.reply⟩)
  refine ⟨first, rest ++ added, hadded.trans (by rw [hsetups, List.cons_append]), ?_⟩
  constructor
  · exact fun hnow => hkept.mp hnow.1
  · exact fun hfirst => ⟨hkept.mpr hfirst, setUp_of_ready (hready hfirst) _⟩

variable {s : Bus × Prop}

/-- What was decided. -/
theorem Decided.kept_iff (hdecided : Decided s) : s.2 ↔ s.1.setups.head? ≠ some (-1) := by
  obtain ⟨first, rest, hsetups, hkept⟩ := hdecided
  rw [hkept, hsetups, List.head?_cons, ne_eq, ne_eq, Option.some.injEq]

/-- Whatever a part does, what is decided stays so. -/
theorem Decided.meets {ε α : Type} (hdecided : Decided s) (part : Part) (program : Prog part.Calls ε α) :
    program.Meets (watchPart part) (fun _ => Decided) (fun _ => Decided) s :=
  Prog.Meets.of_invariant Decided (fun _ exchange hs => ⟨trivial, hs.next (exchange.tag part)⟩) program hdecided

/-- The first setup of `GpioTest` decides, unless it fails. -/
theorem meets_watch_GpioTest (hs : Idle s ∨ Decided s) :
    (Combine.GpioTest : GpioProg Exit ℤ).Meets (watchPart (.test .GpioTest))
      (fun _ s => Failed s ∨ Decided s) (fun _ => Decided) s := by
  rcases hs with ⟨hsetups, hkept⟩ | hdecided
  · intro (status : ℤ)
    have hnow : ((watchPart (.test .GpioTest)).next s ⟨.wiringPiSetup, status⟩).1.setups = [status] := by
      change s.1.setups ++ [status] = [status]
      rw [hsetups, List.nil_append]
    refine ⟨trivial, ?_⟩
    change (if status = -1 then _ else _ : GpioProg Exit ℤ).Meets _ _ _ _
    split
    case isTrue hfailed =>
      exact fun _ => ⟨trivial, .inl ⟨hfailed ▸ hnow, ⟨hkept, trivial⟩, trivial⟩⟩
    case isFalse hready =>
      refine (Decided.meets ⟨status, [], hnow, ?_⟩ (.test .GpioTest) _).mono (fun _ _ => .inr) fun _ _ => id
      exact iff_of_true ⟨hkept, trivial⟩ hready
  · exact (hdecided.meets (.test .GpioTest) _).mono (fun _ _ => .inr) fun _ _ => id

/-- The reset uses pins at once, so that a failed setup decides as well. -/
theorem meets_watch_resetGpio (hs : Failed s ∨ Decided s) :
    (Reset.resetGpio : Reset.ResetProg Exit Unit).Meets (watchPart .reset) (fun _ => Decided) (fun _ => Decided)
      s := by
  rcases hs with ⟨hsetups, hkept⟩ | hdecided
  · have hearly : ¬s.1.Ready := by
      intro hready
      obtain ⟨status, hmem, hne⟩ := hready
      rw [hsetups, List.mem_singleton] at hmem
      exact hne hmem
    have hnow (reply : Unit) : Decided ((watchPart .reset).next s ⟨.pinMode Reset.pins[(0 : Fin 12)] .INPUT, reply⟩) :=
      ⟨-1, [], hsetups, iff_of_false (fun hkept => hearly hkept.2) fun hne => hne rfl⟩
    exact fun reply => ⟨trivial, (hnow reply).meets .reset _⟩
  · exact hdecided.meets .reset _

/-- What is known of the setups in each phase. -/
def known : Phase → Bus × Prop → Prop
  | .fresh => Idle
  | .tested => fun s => Failed s ∨ Decided s
  | .reset => Decided
  | .settled => Decided

/-- Every request of the menu keeps what is known. -/
theorem meets_watch_carryOut (request : MenuCall) (phase : Phase) (hknown : known phase s)
    (hallows : ∀ reply, rounds.Allows phase ⟨request, reply⟩) :
    (carryOut request).Meets watch (fun reply => known (rounds.next phase ⟨request, reply⟩))
      (fun _ => Decided) s := by
  have hask (request : MenuCall) (hsame : ∀ reply, rounds.next phase ⟨request, reply⟩ = phase) :
      (ask request).Meets watch (fun reply => known (rounds.next phase ⟨request, reply⟩)) (fun _ => Decided) s := by
    intro reply
    have hunused : watch.next s ⟨⟨.console, request⟩, reply⟩ = s := Prod.ext rfl (and_true s.2)
    refine ⟨trivial, ?_⟩
    change known (rounds.next phase ⟨request, reply⟩) (watch.next s ⟨⟨.console, request⟩, reply⟩)
    rw [hsame, hunused]
    exact hknown
  have hjudged (active : Active) (post : Bus × Prop → Prop)
      (hprogram : active.program.Meets (watchPart (.test active)) (fun _ => post) (fun _ => Decided) s) :
      (judged active).Meets watch (fun _ => post) (fun _ => Decided) s :=
    (Prog.meets_embed.mpr hprogram).bind fun _ _ hpost => hpost
  cases request with
  | printf line => exact hask _ fun _ => rfl
  | scanf => exact hask _ fun _ => rfl
  | resetGPIO =>
    obtain rfl : phase = .tested := hallows ()
    exact Prog.meets_embed.mpr (meets_watch_resetGpio hknown)
  | runTest test =>
    cases test with
    | GpioTest =>
      obtain rfl | rfl : phase.Calm := hallows 0
      · exact hjudged .GpioTest _ (meets_watch_GpioTest (.inl hknown))
      · exact hjudged .GpioTest _ (meets_watch_GpioTest (.inr hknown))
    | PWMTest =>
      obtain rfl : phase = .reset := hallows 0
      exact hjudged .PWMTest _ (Decided.meets hknown _ _)
    | SPITest_0 =>
      obtain rfl : phase = .settled := hallows 0
      exact hjudged .SPITest_0 _ (Decided.meets hknown _ _)
    | SPITest_1 =>
      obtain rfl : phase = .settled := hallows 0
      exact hjudged .SPITest_1 _ (Decided.meets hknown _ _)
    | i2cTest =>
      obtain rfl : phase = .settled := hallows 0
      exact hjudged .i2cTest _ (Decided.meets hknown _ _)
    | wifiTest => exact hask _ fun _ => rfl
    | EthernetTest => exact hask _ fun _ => rfl
    | bluetoothTest => exact hask _ fun _ => rfl

/-- Over the whole program, nothing was set up or the first setup decides. -/
theorem meets_watch_program (s : Bus × Prop) (hidle : Idle s) (fuel : ℕ) :
    (program fuel).Meets watch (fun _ s => Idle s ∨ Decided s) (fun _ => Decided) s := by
  have hcarried : (program fuel).Meets watch (fun _ s => ∃ phase : Phase, known phase s ∧ phase.Calm)
      (fun _ => Decided) s :=
    Prog.Meets.expand known (fun request phase _ => meets_watch_carryOut request phase) (meets_rounds fuel) hidle
  refine hcarried.mono (fun _ s hends => ?_) fun _ _ => id
  obtain ⟨phase, hknown, rfl | rfl⟩ := hends
  · exact .inl hknown
  · exact .inr hknown

end Setups

section Runs

/-- The whole program uses pins in their modes, and leaves them as they were or settled. -/
theorem meets_program (start : Bus) (fuel : ℕ) :
    (program fuel).Meets ((pinRule Fits).noting Marks.next) (fun _ => Left start) (fun _ => Left start)
      (start, ⟨false, false, false, false⟩) := by
  have hcarried : (program fuel).Meets ((pinRule Fits).noting Marks.next)
      (fun _ s => ∃ phase : Phase, related start phase s ∧ phase.Calm) (fun _ => Left start)
      (start, ⟨false, false, false, false⟩) :=
    Prog.Meets.expand (related start) (fun request phase _ => meets_carryOut request phase) (meets_rounds fuel) rfl
  refine hcarried.mono (fun _ s hends => ?_) fun _ _ => id
  obtain ⟨phase, hrelated, rfl | rfl⟩ := hends
  · obtain rfl : s = (start, ⟨false, false, false, false⟩) := hrelated
    exact ⟨fun _ => rfl, nofun, nofun⟩
  · exact Settled.left hrelated

variable {fuel : ℕ} (start : Bus) (run : Run fuel)

/-- In every run, whatever the modes and levels at the start: a pin is driven only as an output, by
the reset only as an input, and as a PWM channel only in PWM mode; `GpioTest` samples pins that it
drives high, and `PWMTest` samples an input while all four channels are in PWM mode. -/
theorem pins_fit : (pinRule Fits).Keeps start run.log :=
  (Protocol.keeps_noting _ _ _ _ _).mp ((meets_program start fuel).of_course run.course).1

/-- Wherever a run ends, the pins are as they were if no batch has begun. Otherwise they have the
modes and levels that one batch leaves, however many there were, or those of the reset if `PWMTest`
has ended the program: what `GpioTest` and `PWMTest` have set up on the way decides the rest. -/
theorem pins_after_run :
    (run.log.any begins = false → (pinRule Fits).after start run.log = start) ∧
      (run.log.any begins = true →
        ((pinRule Fits).after start run.log).latch = levelsLeft (run.log.any drives) start.latch ∧
        ((pinRule Fits).after start run.log).mode =
          if run.log.any givesUp = true then modesReset (run.log.any starts) start.mode
          else modesSettled start.mode) := by
  have hends := ((meets_program start fuel).of_course run.course).2
  have hleft : Left start (((pinRule Fits).noting Marks.next).after (start, ⟨false, false, false, false⟩) run.log) := by
    revert hends
    cases run.result with
    | error reason => exact id
    | ok left => exact id
  rw [Protocol.after_noting, reached_marks] at hleft
  simp only [Bool.or_false] at hleft
  exact ⟨hleft.unbegun, fun hbegun => ⟨hleft.latch hbegun, hleft.mode hbegun⟩⟩

/-- Pins are used only after a setup that succeeded exactly if the first setup of the run, that of
`GpioTest`, does not fail: the reset follows a `GpioTest` that gave up as well. -/
theorem set_up_first_iff (mode : ℕ → Mode) (latch : ℕ → ℤ) :
    (pinRule fun _ => SetUp).Keeps ⟨[], mode, latch⟩ run.log ↔
      ((pinRule fun _ => SetUp).after ⟨[], mode, latch⟩ run.log).setups.head? ≠ some (-1) := by
  have hends := ((meets_watch_program (⟨[], mode, latch⟩, True) ⟨rfl, trivial⟩ fuel).of_course run.course).2
  rw [Protocol.after_watched, true_and] at hends
  revert hends
  cases run.result with
  | error reason => exact Decided.kept_iff
  | ok left =>
    rintro (⟨hsetups, hkept⟩ | hends)
    · exact iff_of_true hkept (by rw [hsetups]; exact nofun)
    · exact hends.kept_iff

end Runs

end Maestro.Combine.Whole
