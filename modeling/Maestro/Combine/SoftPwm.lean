import Maestro.Combine.Pins
import Maestro.Effect.Protocol
import Mathlib.Tactic.Linarith

/-!
# The software PWM demonstration

`PWMtest.c` fades three LEDs up and down without end. A protocol follows the values of the channels. In
every run only created channels are written, with values in their range, the LEDs at GPIO 13 and GPIO 18
make up the range at every pause, and a written value is next to the one before it, but for the first
value at GPIO 13 and the return to 0 at GPIO 12: there the LED goes dark from half its brightness.
-/

namespace Maestro.Combine.SoftPwm

open Effect

def BCM12_PWM0 : ℕ := 12
def BCM18_PWM0 : ℕ := 13
def BCM13_PWM1 : ℕ := 18

/-- The mark-space mode of wiringPi. -/
def PWM_MODE_MS : ℤ := 0

/-- The calls of the program. -/
inductive SoftCall where
  | wiringPiSetupGpio
  | pwmSetMode (mode : ℤ)
  | pinMode (pin : ℕ) (mode : PinMode)
  | softPwmCreate (pin : ℕ) (initialValue pwmRange : ℤ)
  | softPwmWrite (pin : ℕ) (value : ℤ)
  | delay (milliseconds : ℕ)

/-- The results of the setup and of the creations are not used. -/
abbrev SoftCalls : Interface where
  Call := SoftCall
  Reply
    | .wiringPiSetupGpio => ℤ
    | .softPwmCreate _ _ _ => ℤ
    | _ => Unit

abbrev SoftProg (α : Type) := Prog SoftCalls Empty α

def wiringPiSetupGpio : SoftProg ℤ := Prog.perform (I := SoftCalls) .wiringPiSetupGpio
def pwmSetMode (mode : ℤ) : SoftProg Unit := Prog.perform (I := SoftCalls) (.pwmSetMode mode)

def pinMode (pin : ℕ) (mode : PinMode) : SoftProg Unit := Prog.perform (I := SoftCalls) (.pinMode pin mode)

def softPwmCreate (pin : ℕ) (initialValue pwmRange : ℤ) : SoftProg ℤ :=
  Prog.perform (I := SoftCalls) (.softPwmCreate pin initialValue pwmRange)

def softPwmWrite (pin : ℕ) (value : ℤ) : SoftProg Unit := Prog.perform (I := SoftCalls) (.softPwmWrite pin value)
def delay (milliseconds : ℕ) : SoftProg Unit := Prog.perform (I := SoftCalls) (.delay milliseconds)

/-- The body of the first loop. -/
def rise (intensity : ℕ) : SoftProg Unit := do
  softPwmWrite BCM12_PWM0 (intensity / 2 : ℕ)
  softPwmWrite BCM18_PWM0 (100 - intensity)
  softPwmWrite BCM13_PWM1 intensity
  delay 1

/-- The body of the second loop. -/
def fall (intensity : ℤ) : SoftProg Unit := do
  softPwmWrite BCM12_PWM0 50
  softPwmWrite BCM18_PWM0 (100 - intensity)
  softPwmWrite BCM13_PWM1 intensity
  delay 1

/-- One round of the endless loop; the second loop counts down from 100 to 0. -/
def fade : SoftProg Unit := do
  forM (List.range 100) rise
  forM (List.range 101) fun step : ℕ => fall (100 - step)
  delay 1

/-- The setup of the three channels. -/
def create : SoftProg Unit := do
  let _ ← wiringPiSetupGpio
  pwmSetMode PWM_MODE_MS
  pinMode BCM12_PWM0 .OUTPUT
  pinMode BCM18_PWM0 .OUTPUT
  pinMode BCM13_PWM1 .OUTPUT
  let _ ← softPwmCreate BCM12_PWM0 1 100
  let _ ← softPwmCreate BCM18_PWM0 1 100
  let _ ← softPwmCreate BCM13_PWM1 1 100
  return ()

/-- The program, with fuel for its loop. -/
def main (fuel : ℕ) : SoftProg (Option Unit) := do
  create
  Prog.whileDo (fun _ => true) (fun _ => fade) fuel ()

/-- The value of a channel, and whether it was written or is still the one of the creation. -/
structure Level where
  value : ℤ
  written : Bool

/-- The channels that were created. -/
abbrev Values := ℕ → Option Level

/-- A value may follow the one that a channel has. -/
def Follows (pin : ℕ) (before : Level) (value : ℤ) : Prop :=
  |value - before.value| ≤ 1 ∨ pin = BCM12_PWM0 ∧ before.value = 50 ∧ value = 0 ∨
    pin = BCM18_PWM0 ∧ before.written = false ∧ before.value = 1 ∧ value = 100

/-- The written values, with the rules for writes and pauses. -/
def ramps : Protocol SoftCalls Values where
  next values exchange :=
    match exchange.request with
    | .softPwmCreate pin initialValue _ => Function.update values pin (some ⟨initialValue, false⟩)
    | .softPwmWrite pin value => Function.update values pin (some ⟨value, true⟩)
    | _ => values
  Allows values exchange :=
    match exchange.request with
    | .softPwmWrite pin value => ∃ before, values pin = some before ∧ 0 ≤ value ∧ value ≤ 100 ∧ Follows pin before value
    | .delay _ =>
      ∃ first last, values BCM13_PWM1 = some first ∧ values BCM18_PWM0 = some last ∧ first.value + last.value = 100
    | _ => True

/-- The values of the three channels. -/
structure Shows (values : Values) (dim rest full : ℤ) (written : Bool) : Prop where
  dim : values BCM12_PWM0 = some ⟨dim, written⟩
  rest : values BCM18_PWM0 = some ⟨rest, written⟩
  full : values BCM13_PWM1 = some ⟨full, written⟩

/-- The values that are about to be written follow those that the channels have. -/
def Ready (dim full : ℤ) (values : Values) : Prop :=
  ∃ dim' rest' full' written, Shows values dim' rest' full' written ∧ Follows BCM12_PWM0 ⟨dim', written⟩ dim ∧
    Follows BCM18_PWM0 ⟨rest', written⟩ (100 - full) ∧ Follows BCM13_PWM1 ⟨full', written⟩ full

section Rounds

/-- Values within the range that follow those before are written, and make up the range at the pause. -/
theorem meets_show {dim full : ℤ} (hdim : 0 ≤ dim ∧ dim ≤ 100) (hfull : 0 ≤ full ∧ full ≤ 100) {values : Values}
    (hready : Ready dim full values) :
    (softPwmWrite BCM12_PWM0 dim >>= fun _ => softPwmWrite BCM18_PWM0 (100 - full) >>= fun _ =>
      softPwmWrite BCM13_PWM1 full >>= fun _ => delay 1).Meets ramps
        (fun _ values => Shows values dim (100 - full) full true) (fun _ _ => False) values := by
  obtain ⟨dim', rest', full', written, hshows, hfirst, hsecond, hthird⟩ := hready
  intro _
  refine ⟨⟨⟨dim', written⟩, hshows.dim, hdim.1, hdim.2, hfirst⟩, fun _ =>
    ⟨⟨⟨rest', written⟩, hshows.rest, by linarith, by linarith, hsecond⟩, fun _ =>
    ⟨⟨⟨full', written⟩, hshows.full, hfull.1, hfull.2, hthird⟩, fun _ =>
    ⟨⟨⟨full, true⟩, ⟨100 - full, true⟩, rfl, rfl, add_sub_cancel _ _⟩, ⟨rfl, rfl, rfl⟩⟩⟩⟩⟩

/-- Neighbouring values follow each other. -/
theorem follows_of_near {before value : ℤ} (pin : ℕ) (written : Bool) (hlow : before - 1 ≤ value)
    (hhigh : value ≤ before + 1) : Follows pin ⟨before, written⟩ value :=
  .inl (abs_le.mpr ⟨by linarith, by linarith⟩)

/-- The first loop ends where the second one starts. -/
theorem meets_rises {values : Values} (hready : Ready 0 0 values) :
    (forM (List.range 100) rise : SoftProg Unit).Meets ramps (fun _ => Ready 50 100) (fun _ _ => False) values := by
  refine Prog.meets_forM_range (fun i => Ready (i / 2 : ℕ) i) 100 (fun i hi values hready => ?_) hready
  refine (meets_show ⟨by omega, by omega⟩ ⟨by omega, by omega⟩ hready).mono (fun _ values hshows => ?_) fun _ _ => id
  refine ⟨_, _, _, _, hshows, follows_of_near _ _ ?_ ?_, follows_of_near _ _ ?_ ?_, follows_of_near _ _ ?_ ?_⟩ <;>
    omega

/-- A step of the second loop leads to the next one. -/
theorem meets_fall {step : ℕ} (hstep : step < 100) {values : Values} (hready : Ready 50 (100 - step) values) :
    (fall (100 - step)).Meets ramps (fun _ => Ready 50 (100 - (step + 1 : ℕ))) (fun _ _ => False) values := by
  refine (meets_show ⟨by decide, by decide⟩ ⟨by omega, by omega⟩ hready).mono (fun _ values hshows => ?_) fun _ _ => id
  refine ⟨_, _, _, _, hshows, follows_of_near _ _ ?_ ?_, follows_of_near _ _ ?_ ?_, follows_of_near _ _ ?_ ?_⟩ <;>
    omega

/-- The second loop ends with two channels dark. -/
theorem meets_falls {values : Values} (hready : Ready 50 100 values) :
    (forM (List.range 101) fun step : ℕ => fall (100 - step) : SoftProg Unit).Meets ramps
      (fun _ values => Shows values 50 100 0 true) (fun _ _ => False) values := by
  have hstart : Ready 50 (100 - (0 : ℕ)) values := by
    rw [Nat.cast_zero, sub_zero]
    exact hready
  have hsteps : (forM (List.range 100) fun step : ℕ => fall (100 - step) : SoftProg Unit).Meets ramps
      (fun _ => Ready 50 (100 - (100 : ℕ))) (fun _ _ => False) values :=
    Prog.meets_forM_range (fun step => Ready 50 (100 - step)) 100 (fun _ hstep _ => meets_fall hstep) hstart
  have hlast (values : Values) (hready : Ready 50 (100 - (100 : ℕ)) values) : (fall (100 - (100 : ℕ))).Meets ramps
      (fun _ values => Shows values 50 100 0 true) (fun _ _ => False) values := by
    rw [Nat.cast_ofNat, sub_self] at hready ⊢
    have hshow := meets_show ⟨by decide, by decide⟩ ⟨by decide, by decide⟩ hready
    rw [sub_zero] at hshow
    exact hshow
  rw [List.range_succ, List.forM_append]
  refine hsteps.bind fun _ values hready => ?_
  rw [List.forM_cons, List.forM_nil]
  exact (hlast values hready).bind fun _ _ hshows => hshows

/-- A round leads back to where it started. -/
theorem meets_fade {values : Values} (hready : Ready 0 0 values) :
    fade.Meets ramps (fun _ => Ready 0 0) (fun _ _ => False) values := by
  refine (meets_rises hready).bind fun _ values hready => (meets_falls hready).bind fun _ values hshows => ?_
  intro _
  refine ⟨⟨⟨0, true⟩, ⟨100, true⟩, hshows.full, hshows.rest, by decide⟩,
    ⟨50, 100, 0, true, hshows, .inr (.inl ⟨rfl, rfl, rfl⟩), ?_, ?_⟩⟩
  · exact follows_of_near _ _ (by decide) (by decide)
  · exact follows_of_near _ _ (by decide) (by decide)

/-- The channels are created before they are written. -/
theorem meets_create (values : Values) : create.Meets ramps (fun _ => Ready 0 0) (fun _ _ => False) values := by
  have hshows (values : Values) : Shows (Function.update (Function.update (Function.update values
      BCM12_PWM0 (some ⟨1, false⟩)) BCM18_PWM0 (some ⟨1, false⟩)) BCM13_PWM1 (some ⟨1, false⟩)) 1 1 1 false :=
    ⟨rfl, rfl, rfl⟩
  refine fun _ => ⟨trivial, fun _ => ⟨trivial, fun _ => ⟨trivial, fun _ => ⟨trivial, ?_⟩⟩⟩⟩
  refine fun _ => ⟨trivial, fun _ => ⟨trivial, fun _ => ⟨trivial, fun _ => ⟨trivial, ?_⟩⟩⟩⟩
  refine ⟨1, 1, 1, false, hshows _, follows_of_near _ _ (by decide) (by decide), .inr (.inr ⟨rfl, rfl, rfl, rfl⟩), ?_⟩
  exact follows_of_near _ _ (by decide) (by decide)

/-- The whole program keeps to the rules and never comes to an end. -/
theorem meets_main (fuel : ℕ) (values : Values) :
    (main fuel).Meets ramps (fun result _ => result = none) (fun _ _ => False) values := by
  refine (meets_create values).bind fun _ values hready => ?_
  have hloop : (Prog.whileDo (fun _ : Unit => true) (fun _ => fade) fuel ()).Meets ramps
      (fun left values => ∃ a : Unit, Ready 0 0 values ∧ left = if true then none else some a)
      (fun _ _ => False) values :=
    Prog.Meets.whileDo (fun _ => Ready 0 0) (fun _ _ hready _ => meets_fade hready) fuel hready
  refine hloop.mono (fun result values hresult => ?_) fun _ _ => id
  obtain ⟨_, -, hnone⟩ := hresult
  exact hnone

end Rounds

/-- In every run, however long, and whatever the library answers: a channel is written only after its
creation and with a value from 0 to 100; at every pause the values of GPIO 13 and GPIO 18 make up 100;
and a value differs from the one before it by at most 1, but for the first one of GPIO 13 and for the
step of GPIO 12 from 50 to 0. The program does not end. -/
theorem ramps_kept (fuel : ℕ) (call : Prog.Returned (main fuel)) :
    ramps.Keeps (fun _ => none) call.log ∧ call.value = none :=
  (meets_main fuel fun _ => none).of_course call.course

end Maestro.Combine.SoftPwm
