import Maestro.Effect.Total
import Mathlib.Data.Int.Notation
import Mathlib.Tactic.Tauto

/-!
# The SPI tests of `CombineCode`

`SPITest_0` and `SPITest_1` each set up both SPI channels, and then send ten bytes around the
loop of their own channel. The main results compare the verdicts on two boards that differ
only in the other channel, and say that a transfer passes only if it brings all ten bytes back.
-/

namespace Maestro.Combine.Spi

open Effect

def SPI_CHANNEL_0 : ℕ := 0
def SPI_CHANNEL_1 : ℕ := 1
def SPI_SPEED : ℕ := 500000
def DATA_LENGTH : ℕ := 10

/-- The data buffer. -/
abbrev Data := Vector (BitVec 8) DATA_LENGTH

/-- The bytes of "HelloSPI!" with the terminating zero. -/
def hello : Data := #v[0x48, 0x65, 0x6c, 0x6c, 0x6f, 0x53, 0x50, 0x49, 0x21, 0x00]

/-- What the SPI tests print. -/
inductive SpiLine where
  | wiringPiFailed
  | setupFailed (channel : ℕ)
  | testing (channel : ℕ)
  | sending
  | byte (value : BitVec 8)
  | newline
  | communicationFailed (channel : ℕ)
  | received
  | passed (channel : ℕ)
  | failed (channel : ℕ)
deriving DecidableEq

/-- The printed text. -/
def SpiLine.text : SpiLine → String
  | wiringPiFailed => "wiringPi setup failed!\n"
  | setupFailed channel => "SPI setup failed on channel " ++ toString channel ++ "!\n"
  | testing channel => "Testing SPI Channel " ++ toString channel ++ "\n"
  | sending => "Sending data: "
  | byte value => (value.toHex.map Char.toUpper) ++ " "
  | newline => "\n"
  | communicationFailed channel => "SPI communication failed on channel " ++ toString channel ++ "!\n"
  | received => "Received data: "
  | passed channel => "\x1b[32mSPI test passed on channel " ++ toString channel ++ "!\x1b[0m\n"
  | failed channel => "\x1b[31mSPI test failed on channel " ++ toString channel ++ "!\x1b[0m\n"

/-- The calls of the SPI tests. -/
inductive SpiCall where
  | wiringPiSetup
  | wiringPiSPISetup (channel speed : ℕ)
  | wiringPiSPIDataRW (channel : ℕ) (data : Data)
  | printf (line : SpiLine)

/-- The transfer is answered with its result and the bytes that it leaves in the buffer. -/
abbrev SpiCalls : Interface where
  Call := SpiCall
  Reply
    | .wiringPiSetup => ℤ
    | .wiringPiSPISetup _ _ => ℤ
    | .wiringPiSPIDataRW _ _ => ℤ × Data
    | .printf _ => Unit

abbrev SpiProg (ε α : Type) := Prog SpiCalls ε α

section Program

variable {ε : Type}

def wiringPiSetup : SpiProg ε ℤ := Prog.perform (I := SpiCalls) .wiringPiSetup

def wiringPiSPISetup (channel speed : ℕ) : SpiProg ε ℤ :=
  Prog.perform (I := SpiCalls) (.wiringPiSPISetup channel speed)

def wiringPiSPIDataRW (channel : ℕ) (data : Data) : SpiProg ε (ℤ × Data) :=
  Prog.perform (I := SpiCalls) (.wiringPiSPIDataRW channel data)

def printf (line : SpiLine) : SpiProg ε Unit := Prog.perform (I := SpiCalls) (.printf line)

/-- `strncmp` on bytes: the first difference within `n` bytes, none after a common zero. -/
def strncmp : ℕ → List (BitVec 8) → List (BitVec 8) → ℤ
  | 0, _, _ => 0
  | _, [], _ => 0
  | _, _, [] => 0
  | n + 1, a :: s, b :: t =>
    if a ≠ b then (a.toNat : ℤ) - b.toNat else if a = 0 then 0 else strncmp n s t

/-- Print the bytes of a buffer. -/
def printBytes (data : Data) : SpiProg ε Unit := forM data.toList fun value => printf (.byte value)

/-- Send the test data and compare what comes back. The loop that prints the received bytes
also copies them, so the comparison sees what the transfer left in the buffer. -/
def spi_loopback_test (channel : ℕ) : SpiProg ε ℤ := do
  printf (.testing channel)
  printf .sending
  printBytes hello
  printf .newline
  let transferred ← wiringPiSPIDataRW channel hello
  if transferred.1 = -1 then do
    printf (.communicationFailed channel)
    return 0
  else do
    printf .received
    printBytes transferred.2
    printf .newline
    if strncmp DATA_LENGTH transferred.2.toList hello.toList = 0 then do
      printf (.passed channel)
      return 1
    else do
      printf (.failed channel)
      return 0

/-- The body that `SPITest_0` and `SPITest_1` share: both channels are set up, and one is tested. -/
def SPITest (channel : ℕ) : SpiProg ε ℤ := do
  let result ← wiringPiSetup
  if result = -1 then do
    printf .wiringPiFailed
    return 0
  else do
    let result ← wiringPiSPISetup SPI_CHANNEL_0 SPI_SPEED
    if result = -1 then do
      printf (.setupFailed 0)
      return 0
    else do
      let result ← wiringPiSPISetup SPI_CHANNEL_1 SPI_SPEED
      if result = -1 then do
        printf (.setupFailed 1)
        return 0
      else spi_loopback_test channel

/-- The test of channel 0. -/
def SPITest_0 : SpiProg ε ℤ := SPITest SPI_CHANNEL_0

/-- The test of channel 1. -/
def SPITest_1 : SpiProg ε ℤ := SPITest SPI_CHANNEL_1

end Program

/-- What the calls return: for each channel the result of its setup, and what a transfer does. -/
structure SpiBoard where
  wiringPiSetup : ℤ
  spiSetup : ℕ → ℤ
  transfer : ℕ → Data → ℤ × Data

/-- wiringPi on a board. -/
def SpiBoard.handler (board : SpiBoard) : Handler SpiCalls Unit where
  answer
    | .wiringPiSetup, s => (board.wiringPiSetup, s)
    | .wiringPiSPISetup channel _, s => (board.spiSetup channel, s)
    | .wiringPiSPIDataRW channel data, s => (board.transfer channel data, s)
    | .printf _, s => ((), s)

/-- The verdict of a test on a board. -/
def verdict (board : SpiBoard) (test : SpiProg Empty ℤ) : ℤ := (test.eval board.handler ()).1

/-- A transfer succeeds and brings the test data back. -/
def Echoes (board : SpiBoard) (channel : ℕ) : Prop :=
  (board.transfer channel hello).1 ≠ -1 ∧
    strncmp DATA_LENGTH (board.transfer channel hello).2.toList hello.toList = 0

/-- Two boards have the same wiringPi setup and the same behaviour of one channel. -/
structure AgreeOn (channel : ℕ) (board board' : SpiBoard) : Prop where
  wiringPiSetup : board.wiringPiSetup = board'.wiringPiSetup
  spiSetup : board.spiSetup channel = board'.spiSetup channel
  transfer : board.transfer channel = board'.transfer channel

section Verdict

variable (board board' : SpiBoard) (s : Unit)

/-- The setup has the status of the board. -/
theorem eval_wiringPiSetup : wiringPiSetup.eval board.handler s = (board.wiringPiSetup, s) := rfl

/-- The setup of a channel has its status. -/
theorem eval_wiringPiSPISetup (channel speed : ℕ) :
    (wiringPiSPISetup channel speed).eval board.handler s = (board.spiSetup channel, s) := rfl

/-- A transfer is answered by the board. -/
theorem eval_wiringPiSPIDataRW (channel : ℕ) (data : Data) :
    (wiringPiSPIDataRW channel data).eval board.handler s = (board.transfer channel data, s) := rfl

/-- A line leaves the board as it is. -/
theorem eval_printf (line : SpiLine) : (printf line).eval board.handler s = ((), s) := rfl

/-- So do the printed bytes. -/
theorem eval_printBytes (data : Data) : (printBytes data).eval board.handler s = ((), s) := rfl

/-- The loop test passes for a channel that echoes. -/
theorem eval_spi_loopback_test (channel : ℕ) [Decidable (Echoes board channel)] :
    (spi_loopback_test channel).eval board.handler s = (if Echoes board channel then 1 else 0, s) := by
  rw [spi_loopback_test, Prog.eval_bind, eval_printf, Prog.eval_bind, eval_printf, Prog.eval_bind,
    eval_printBytes, Prog.eval_bind, eval_printf, Prog.eval_bind, eval_wiringPiSPIDataRW]
  change (if (board.transfer channel hello).1 = -1 then _ else _ : SpiProg Empty ℤ).eval _ _ = _
  by_cases hresult : (board.transfer channel hello).1 = -1
  · have hsilent : ¬Echoes board channel := fun h => h.1 hresult
    rw [if_pos hresult, if_neg hsilent]
    rfl
  · rw [if_neg hresult, Prog.eval_bind, eval_printf, Prog.eval_bind, eval_printBytes, Prog.eval_bind,
      eval_printf]
    by_cases hecho : strncmp DATA_LENGTH (board.transfer channel hello).2.toList hello.toList = 0
    · have hechoes : Echoes board channel := ⟨hresult, hecho⟩
      rw [if_pos hecho, if_pos hechoes]
      rfl
    · have hsilent : ¬Echoes board channel := fun h => hecho h.2
      rw [if_neg hecho, if_neg hsilent]
      rfl

instance (channel : ℕ) : Decidable (Echoes board channel) :=
  inferInstanceAs (Decidable (_ ∧ _))

/-- A test passes when wiringPi and both channels are set up and its own channel echoes. -/
theorem verdict_SPITest (channel : ℕ) :
    verdict board (SPITest channel) =
      if board.wiringPiSetup ≠ -1 ∧ board.spiSetup SPI_CHANNEL_0 ≠ -1 ∧
        board.spiSetup SPI_CHANNEL_1 ≠ -1 ∧ Echoes board channel then 1 else 0 := by
  rw [verdict, SPITest, Prog.eval_bind, eval_wiringPiSetup]
  change ((if board.wiringPiSetup = -1 then _ else _ : SpiProg Empty ℤ).eval _ _).1 = _
  by_cases hsetup : board.wiringPiSetup = -1
  · rw [if_pos hsetup, if_neg fun h => h.1 hsetup]
    rfl
  · rw [if_neg hsetup, Prog.eval_bind, eval_wiringPiSPISetup]
    change ((if board.spiSetup SPI_CHANNEL_0 = -1 then _ else _ : SpiProg Empty ℤ).eval _ _).1 = _
    by_cases hzero : board.spiSetup SPI_CHANNEL_0 = -1
    · rw [if_pos hzero, if_neg fun h => h.2.1 hzero]
      rfl
    · rw [if_neg hzero, Prog.eval_bind, eval_wiringPiSPISetup]
      change ((if board.spiSetup SPI_CHANNEL_1 = -1 then _ else _ : SpiProg Empty ℤ).eval _ _).1 = _
      by_cases hone : board.spiSetup SPI_CHANNEL_1 = -1
      · rw [if_pos hone, if_neg fun h => h.2.2.1 hone]
        rfl
      · rw [if_neg hone, eval_spi_loopback_test]
        simp only [ne_eq, hsetup, hzero, hone, not_false_eq_true, true_and]

/-- What a test needs of wiringPi and of its own channel. -/
def OwnPartPasses (channel : ℕ) : Prop :=
  board.wiringPiSetup ≠ -1 ∧ board.spiSetup channel ≠ -1 ∧ Echoes board channel

/-- Boards that agree on a channel have the same own part of its test. -/
theorem AgreeOn.ownPartPasses_iff {channel : ℕ} (hagree : AgreeOn channel board board') :
    OwnPartPasses board' channel ↔ OwnPartPasses board channel := by
  unfold OwnPartPasses Echoes
  rw [hagree.wiringPiSetup, hagree.spiSetup, hagree.transfer]

instance (channel : ℕ) : Decidable (OwnPartPasses board channel) :=
  inferInstanceAs (Decidable (_ ∧ _ ∧ _))

/-- The first test needs its own channel and the setup of the other one. -/
theorem verdict_SPITest_0 :
    verdict board SPITest_0 =
      if OwnPartPasses board SPI_CHANNEL_0 ∧ board.spiSetup SPI_CHANNEL_1 ≠ -1 then 1 else 0 := by
  rw [SPITest_0, verdict_SPITest]
  refine if_congr ?_ rfl rfl
  unfold OwnPartPasses
  tauto

/-- So does the second test. -/
theorem verdict_SPITest_1 :
    verdict board SPITest_1 =
      if OwnPartPasses board SPI_CHANNEL_1 ∧ board.spiSetup SPI_CHANNEL_0 ≠ -1 then 1 else 0 := by
  rw [SPITest_1, verdict_SPITest]
  refine if_congr ?_ rfl rfl
  unfold OwnPartPasses
  tauto

/-- A verdict that needs an own part and something else tells two boards with the same own part
apart exactly if that part passes and they differ in the rest. -/
theorem verdict_eq_iff (own rest rest' : Prop) [Decidable own] [Decidable rest] [Decidable rest'] :
    (if own ∧ ¬rest then (1 : ℤ) else 0) = (if own ∧ ¬rest' then 1 else 0) ↔
      ¬own ∨ (rest ↔ rest') := by
  by_cases hown : own
  · by_cases hrest : rest <;> by_cases hrest' : rest' <;> simp [hown, hrest, hrest']
  · simp [hown]

/-- For every two boards that agree on wiringPi and on the channel of a test, the test gives the
same verdict if and only if its own part fails, or the setup of the other channel fails on both
boards or on neither. -/
theorem spi_verdict_iff :
    (AgreeOn SPI_CHANNEL_0 board board' →
      (verdict board SPITest_0 = verdict board' SPITest_0 ↔
        ¬OwnPartPasses board SPI_CHANNEL_0 ∨
          (board.spiSetup SPI_CHANNEL_1 = -1 ↔ board'.spiSetup SPI_CHANNEL_1 = -1))) ∧
    (AgreeOn SPI_CHANNEL_1 board board' →
      (verdict board SPITest_1 = verdict board' SPITest_1 ↔
        ¬OwnPartPasses board SPI_CHANNEL_1 ∨
          (board.spiSetup SPI_CHANNEL_0 = -1 ↔ board'.spiSetup SPI_CHANNEL_0 = -1))) := by
  constructor
  · intro hagree
    rw [verdict_SPITest_0, verdict_SPITest_0, ← verdict_eq_iff (OwnPartPasses board SPI_CHANNEL_0)]
    simp only [hagree.ownPartPasses_iff, ne_eq]
  · intro hagree
    rw [verdict_SPITest_1, verdict_SPITest_1, ← verdict_eq_iff (OwnPartPasses board SPI_CHANNEL_1)]
    simp only [hagree.ownPartPasses_iff, ne_eq]

end Verdict

/-- A board on which every channel echoes, with given results of the channel setups. -/
def echoBoard (spiSetup : ℕ → ℤ) : SpiBoard := ⟨0, spiSetup, fun _ data => (10, data)⟩

/-- Of two boards that differ in the setup of channel 1 only, one passes the test of channel 0
and the other fails it. -/
theorem spi_verdicts_differ :
    ¬∀ board board' : SpiBoard, AgreeOn SPI_CHANNEL_0 board board' →
      verdict board SPITest_0 = verdict board' SPITest_0 := by
  intro hall
  have hsame := hall (echoBoard fun _ => 3) (echoBoard fun channel => if channel = 1 then -1 else 3)
    ⟨rfl, rfl, rfl⟩
  rw [verdict_SPITest_0, verdict_SPITest_0] at hsame
  revert hsame
  decide

/-- Two boards that differ in how channel 1 transfers give the same verdict on channel 0. -/
theorem spi_verdict_iff_echo :
    (verdict (echoBoard fun _ => 3) SPITest_0 =
        verdict ⟨0, fun _ => 3, fun channel data => if channel = 1 then (-1, data) else (10, data)⟩
          SPITest_0) ∧
      (verdict (echoBoard fun _ => 3) SPITest_1 =
        verdict ⟨0, fun _ => 3, fun channel data => if channel = 0 then (-1, data) else (10, data)⟩
          SPITest_1) := by
  have hzero := (spi_verdict_iff (echoBoard fun _ => 3)
    ⟨0, fun _ => 3, fun channel data => if channel = 1 then (-1, data) else (10, data)⟩).1 ⟨rfl, rfl, rfl⟩
  have hone := (spi_verdict_iff (echoBoard fun _ => 3)
    ⟨0, fun _ => 3, fun channel data => if channel = 0 then (-1, data) else (10, data)⟩).2 ⟨rfl, rfl, rfl⟩
  exact ⟨hzero.mpr (.inr Iff.rfl), hone.mpr (.inr Iff.rfl)⟩

/-- Different bytes have a difference other than 0. -/
theorem byte_sub_ne_zero {a b : BitVec 8} (hne : a ≠ b) : (a.toNat : ℤ) - b.toNat ≠ 0 := by
  intro hzero
  exact hne (BitVec.eq_of_toNat_eq (Int.ofNat_inj.mp (Int.sub_eq_zero.mp hzero)))

/-- Up to and including the terminating zero of a string, `strncmp` finds every difference: only
the string itself compares equal, wherever the other side has zeros. -/
theorem strncmp_eq_zero_iff {word received : List (BitVec 8)} (hword : 0 ∉ word)
    (hlength : received.length = word.length + 1) :
    strncmp (word.length + 1) received (word ++ [0]) = 0 ↔ received = word ++ [0] := by
  induction word generalizing received with
  | nil =>
    obtain ⟨a, rfl⟩ := List.length_eq_one_iff.mp hlength
    rw [List.nil_append, List.length_nil, strncmp]
    by_cases hne : a ≠ 0
    · rw [if_pos hne]
      exact iff_of_false (byte_sub_ne_zero hne) fun heq => hne (List.head_eq_of_cons_eq heq)
    · rw [if_neg hne, not_not.mp hne]
      exact iff_of_true rfl rfl
  | cons b word ih =>
    obtain ⟨a, received, rfl⟩ := List.exists_cons_of_length_eq_add_one hlength
    rw [List.mem_cons, not_or] at hword
    rw [List.cons_append, List.length_cons, strncmp]
    by_cases hne : a ≠ b
    · rw [if_pos hne]
      exact iff_of_false (byte_sub_ne_zero hne) fun heq => hne (List.head_eq_of_cons_eq heq)
    · have heq : a = b := not_not.mp hne
      have hnonzero : a ≠ 0 := fun hzero => hword.1 (hzero.symm.trans heq)
      rw [if_neg hne, if_neg hnonzero, ih hword.2 (Nat.succ.inj hlength), heq, List.cons_inj_right]

/-- A buffer compares equal to the test data exactly if all its bytes are the same. -/
theorem strncmp_hello_eq_zero_iff (data : Data) :
    strncmp DATA_LENGTH data.toList hello.toList = 0 ↔ data = hello := by
  have hword : hello.toList = [0x48, 0x65, 0x6c, 0x6c, 0x6f, 0x53, 0x50, 0x49, 0x21] ++ [0] := rfl
  have hnozero : (0 : BitVec 8) ∉ [0x48, 0x65, 0x6c, 0x6c, 0x6f, 0x53, 0x50, 0x49, 0x21] := by decide
  rw [← Vector.toList_inj, hword]
  exact strncmp_eq_zero_iff hnozero data.length_toList

/-- Whatever a successful transfer leaves in the buffer, the loop test returns 1 if and only if
all ten bytes are the bytes sent. -/
theorem spi_loopback_test_iff (board : SpiBoard) (channel : ℕ)
    (htransfer : (board.transfer channel hello).1 ≠ -1) :
    ((spi_loopback_test channel).eval board.handler ()).1 = 1 ↔ (board.transfer channel hello).2 = hello := by
  rw [eval_spi_loopback_test, ← strncmp_hello_eq_zero_iff]
  by_cases hechoes : Echoes board channel
  · rw [if_pos hechoes]
    exact iff_of_true rfl hechoes.2
  · rw [if_neg hechoes]
    exact iff_of_false (by decide) fun hequal => hechoes ⟨htransfer, hequal⟩

/-- An echo that ends in another byte than the terminating zero. -/
theorem extended_echo_rejected :
    ((spi_loopback_test 0).eval
      (SpiBoard.handler ⟨0, fun _ => 3, fun _ data => (10, data.set 9 0x21)⟩) ()).1 = 1 ↔
        hello.set 9 0x21 = hello :=
  spi_loopback_test_iff ⟨0, fun _ => 3, fun _ data => (10, data.set 9 0x21)⟩ 0 (by decide)

end Maestro.Combine.Spi
