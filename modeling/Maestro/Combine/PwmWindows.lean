import Maestro.Combine.BatchTests

/-!
# The windows of the PWM test

`PWMTest` takes four windows of 1024 samples, prints the counts and the percentages of each, and
judges each by its number of high samples. The statements hold for every outcome of the reads; a
list of 4096 values determines all that is printed and the result.
-/

namespace Maestro.Combine.Pwm

open Effect

/-- The printed lines, in order. -/
def printedLines (log : List (Exchange PwmCalls)) : List PwmLine :=
  log.filterMap fun exchange =>
    match exchange.request with
    | .printf line => some line
    | _ => none

/-- What the test of a channel prints for a window with a number of high samples. -/
def channelReport (gpio highs : ℕ) : List PwmLine :=
  [.title gpio, .inputValue 512, .counts highs (1024 - highs),
    .percentages (percentage highs) (percentage (1024 - highs)), if InTolerance highs then .success else .failed]

section Courses

/-- The lines of two logs, one after the other. -/
theorem printedLines_append (first last : List (Exchange PwmCalls)) :
    printedLines (first ++ last) = printedLines first ++ printedLines last :=
  List.filterMap_append

/-- The number of samples in a window. -/
theorem totalCount_eq : totalCount = 1024 := by
  rw [totalCount]

/-- Nothing is printed. -/
def Silent (call : PwmCall) : Prop := ∀ line, call ≠ .printf line

/-- A log without printing calls has no lines. -/
theorem printedLines_of_silent {log : List (Exchange PwmCalls)}
    (hsilent : ∀ exchange ∈ log, Silent exchange.request) : printedLines log = [] := by
  rw [printedLines, List.filterMap_eq_nil_iff]
  intro exchange hmem
  cases hrequest : exchange.request with
  | printf line => exact absurd hrequest (hsilent exchange hmem line)
  | _ => simp

/-- No sample prints anything. -/
theorem printedLines_samples {n : ℕ} {tally : Tally} {log : List (Exchange PwmCalls)} {result : Except Exit Tally}
    (hcourse : ((List.range n).foldlM (fun tally _ => logSample tally) tally).Course log result) :
    printedLines log = [] := by
  have hsample (tally : Tally) (i : ℕ) : (logSample tally : PwmProg Exit Tally).AllCalls Silent :=
    ⟨nofun, fun _ => ⟨nofun, fun _ => trivial⟩⟩
  have hsilent := Prog.AllCalls.foldlM (fun tally i => logSample tally) hsample (List.range n) tally
  exact printedLines_of_silent (hsilent.of_mem_course hcourse)

/-- `logPWMInput` prints the two counts, which make up the window, and their percentages. -/
theorem printedLines_logPWMInput {log : List (Exchange PwmCalls)} {result : Except Exit ℚ}
    (hcourse : logPWMInput.Course log result) :
    printedLines log =
      [.counts ((samples log).count HIGH) (1024 - (samples log).count HIGH),
        .percentages (percentage ((samples log).count HIGH)) (percentage (1024 - (samples log).count HIGH))] := by
  rw [logPWMInput, Prog.course_bind] at hcourse
  rcases hcourse with ⟨reason, -, hloop⟩ | ⟨tally, first, last, rfl, hloop, hlast⟩
  · cases (course_samples totalCount hloop).2
  · have hsilent := printedLines_samples hloop
    obtain ⟨-, htally⟩ := course_samples totalCount hloop
    cases htally
    obtain ⟨_, last, rfl, _, last, rfl, rfl, -⟩ := hlast
    rw [printedLines_append, hsilent, samples_append_of_nil first rfl, totalCount_eq]
    rfl

/-- The test of one channel prints the report on its window. -/
theorem printedLines_testChannel {gpio pin : ℕ} {check : ℤ} {log : List (Exchange PwmCalls)}
    {result : Except Exit ℤ} (hcourse : (testChannel gpio pin check).Course log result) :
    printedLines log = channelReport gpio ((samples log).count HIGH) := by
  obtain ⟨window, hwindow, rfl, -⟩ := course_testChannel_window hcourse
  change .title gpio :: .inputValue 512 :: printedLines (window ++ _) =
    channelReport gpio ((samples (window ++ _)).count HIGH)
  rw [samples_append_of_nil window rfl, channelReport, printedLines_append, printedLines_logPWMInput hwindow]
  rfl

/-- The loop over the channels takes one window for each and prints the report on it. -/
theorem printedLines_testChannels (tested : List Channel) {check : ℤ} {log : List (Exchange PwmCalls)}
    {result : Except Exit ℤ} (hcourse : (tested.foldlM testEach check).Course log result) :
    (samples log).length = totalCount * tested.length ∧
      printedLines log =
        (tested.mapIdx fun k channel => channelReport channel.gpio (windowHighs (samples log) k)).flatten := by
  induction tested generalizing check log with
  | nil =>
    obtain ⟨rfl, rfl⟩ := hcourse
    exact ⟨rfl, rfl⟩
  | cons channel rest ih =>
    rw [List.foldlM_cons, Prog.course_bind] at hcourse
    rcases hcourse with ⟨reason, -, hfirst⟩ | ⟨next, first, last, rfl, hfirst, hlast⟩
    · cases (course_testChannel hfirst).2
    · obtain ⟨hlength, -⟩ := course_testChannel hfirst
      obtain ⟨hrest, hprinted⟩ := ih hlast
      rw [samples_append, printedLines_append, List.length_append, hlength, hrest, hprinted,
        printedLines_testChannel hfirst, List.mapIdx_cons, List.flatten_cons, windowHighs_append_zero hlength,
        List.length_cons]
      refine ⟨by ring, ?_⟩
      simp only [windowHighs_append_succ hlength]

end Courses

section Supplied

/-- wiringPi with a given result of its setup, whose reads return the values of a list. -/
def sampleSource (status : ℤ) : Handler PwmCalls (List ℤ) where
  answer
    | .wiringPiSetup, values => (status, values)
    | .digitalRead _, values => (values.headD 0, values.tail)
    | .pinMode _ _, values => ((), values)
    | .pwmSetMode _, values => ((), values)
    | .pwmSetRange _, values => ((), values)
    | .pwmSetClock _, values => ((), values)
    | .pwmWrite _ _, values => ((), values)
    | .delayMicroseconds _, values => ((), values)
    | .sleep _, values => ((), values)
    | .printf _, values => ((), values)

/-- The exchanges of a program with this source. -/
def exchanges {α : Type} (status : ℤ) (program : PwmProg Exit α) (values : List ℤ) : List (Exchange PwmCalls) :=
  (program.trace (sampleSource status) values).map Step.exchange

variable {α : Type} (status : ℤ)

/-- The samples are the values of the list, as far as it goes. -/
theorem samples_exchanges (program : PwmProg Exit α) (values : List ℤ)
    (henough : (samples (exchanges status program values)).length ≤ values.length) :
    samples (exchanges status program values) =
      values.take (samples (exchanges status program values)).length := by
  induction program generalizing values with
  | ret => rfl
  | stop => rfl
  | call request next ih =>
    cases request with
    | digitalRead pin =>
      cases values with
      | nil => exact absurd henough (Nat.not_succ_le_zero _)
      | cons value rest =>
        exact congrArg (List.cons value) (ih value rest (Nat.le_of_succ_le_succ henough))
    | wiringPiSetup => exact ih status values henough
    | _ => exact ih () values henough

/-- Every call of the setup has the given result. -/
theorem setup_exchanges (program : PwmProg Exit α) (values : List ℤ) {result : ℤ}
    (hmem : ⟨.wiringPiSetup, result⟩ ∈ exchanges status program values) : result = status := by
  induction program generalizing values with
  | ret => cases hmem
  | stop => cases hmem
  | call request next ih =>
    rcases List.mem_cons.mp hmem with heq | hmem
    · obtain ⟨hrequest, hreply⟩ := Exchange.mk.inj heq
      cases hrequest
      exact eq_of_heq hreply
    · exact ih _ _ hmem

end Supplied

/-- `PWMTest` after a setup that does not fail takes four windows and prints the report on each. -/
theorem printedLines_PWMTest {log : List (Exchange PwmCalls)} {result : Except Exit ℤ}
    (hcourse : PWMTest.Course log result) (hsetup : (⟨.wiringPiSetup, (-1 : ℤ)⟩ : Exchange PwmCalls) ∉ log) :
    (samples log).length = totalCount * channels.length ∧
      printedLines log =
        (channels.mapIdx fun k channel => channelReport channel.gpio (windowHighs (samples log) k)).flatten := by
  rcases course_PWMTest_loop hcourse with ⟨hfailed, -⟩ | ⟨status, loop, check, -, rfl, hloop, -⟩
  · exact absurd hfailed hsetup
  · have hreport := printedLines_testChannels channels hloop
    exact hreport

/-- For every result of the setup but -1 and every 4096 values returned by the reads of the input pin:
these are all the samples; the counts printed for each window of 1024 values make up the window, and it
is reported as success exactly for 502 to 522 high samples; and `PWMTest` returns 1 if and only if all
four windows are. -/
theorem windows_judged (status : ℤ) (hstatus : status ≠ -1) (values : List ℤ) (hvalues : values.length = 4096) :
    samples (exchanges status PWMTest values) = values ∧
      printedLines (exchanges status PWMTest values) =
        channelReport 12 (windowHighs values 0) ++ channelReport 13 (windowHighs values 1) ++
          channelReport 18 (windowHighs values 2) ++ channelReport 19 (windowHighs values 3) ∧
      (PWMTest.run (sampleSource status) values).1 =
        .ok (if ∀ k < channels.length, InTolerance (windowHighs values k) then 1 else 0) := by
  have hcourse : PWMTest.Course (exchanges status PWMTest values) _ :=
    Prog.course_of_run (sampleSource status) PWMTest values
  have hsetup : (⟨.wiringPiSetup, (-1 : ℤ)⟩ : Exchange PwmCalls) ∉ exchanges status PWMTest values :=
    fun hmem => hstatus (setup_exchanges status PWMTest values hmem).symm
  obtain ⟨hlength, hprinted⟩ := printedLines_PWMTest hcourse hsetup
  have hall : (samples (exchanges status PWMTest values)).length = values.length := by
    rw [hlength, hvalues, totalCount_eq]
    rfl
  have hsamples : samples (exchanges status PWMTest values) = values := by
    rw [samples_exchanges status PWMTest values hall.le, hall, List.take_length]
  refine ⟨hsamples, ?_, ?_⟩
  · rw [hprinted, hsamples]
    rfl
  · rcases course_PWMTest hcourse with ⟨hfailed, -⟩ | ⟨-, hresult⟩
    · exact absurd hfailed hsetup
    · rw [hresult, hsamples]

/-- An input pin that stays high fails every window. -/
theorem windows_judged_of_high :
    (PWMTest.run (sampleSource 0) (List.replicate 4096 HIGH)).1 = .ok 0 := by
  obtain ⟨-, -, hresult⟩ := windows_judged 0 (by decide) (List.replicate 4096 HIGH) List.length_replicate
  have hfirst : ¬InTolerance (windowHighs (List.replicate 4096 HIGH) 0) := by
    rw [windowHighs, totalCount_eq, List.drop_replicate, List.take_replicate, List.count_replicate_self]
    decide
  rw [hresult, if_neg fun hall => hfirst (hall 0 (by decide))]

end Maestro.Combine.Pwm
