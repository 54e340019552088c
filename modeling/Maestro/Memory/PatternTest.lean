import Maestro.Effect.Loop
import Maestro.Word.Fault
import Mathlib.Logic.Function.Basic

/-!
# The pattern test of the memory programs

`memoryErrorCheck` of `memTestProgram.c` and `pattern_test` of `memError.c` fill a block with
the byte 0xAA, read it back, and end the program at the first byte that differs. The memory is
the environment: a read shows the byte last written, with its stuck bits at their levels. The
main result says for which fault maps the tests do what a memory test is for.
-/

namespace Maestro.Memory

open Effect Word

/-- A byte as the format `%02X` prints it. -/
def hexByte (byte : BitVec 8) : String :=
  String.ofList [(Nat.digitChar (byte.toNat / 16)).toUpper, (Nat.digitChar (byte.toNat % 16)).toUpper]

/-- The printed lines; the two programs begin them differently. -/
inductive MemLine where
  | allocationFailed (lead : String)
  | memoryError (lead : String) (index : ℕ) (expected got : BitVec 8)
deriving DecidableEq

/-- The printed text. -/
def MemLine.text : MemLine → String
  | allocationFailed lead => lead ++ "Memory allocation failed\n"
  | memoryError lead index expected got =>
    lead ++ "Memory error at index " ++ toString index ++ ": expected 0x" ++ hexByte expected ++ ", got 0x" ++
      hexByte got ++ "\n"

/-- The accesses to memory, with the other calls of the tests. -/
inductive MemCall where
  | malloc (size : ℕ)
  | store (address : ℕ) (value : BitVec 8)
  | load (address : ℕ)
  | printf (line : MemLine)

/-- `malloc` is answered with a pointer, or with `none` for `NULL`. -/
abbrev MemCalls : Interface where
  Call := MemCall
  Reply
    | .malloc _ => Option ℕ
    | .load _ => BitVec 8
    | _ => Unit

abbrev MemProg (α : Type) := Prog MemCalls Exit α

def malloc (size : ℕ) : MemProg (Option ℕ) := Prog.perform (I := MemCalls) (.malloc size)

def store (address : ℕ) (value : BitVec 8) : MemProg Unit :=
  Prog.perform (I := MemCalls) (.store address value)

def load (address : ℕ) : MemProg (BitVec 8) := Prog.perform (I := MemCalls) (.load address)
def printf (line : MemLine) : MemProg Unit := Prog.perform (I := MemCalls) (.printf line)

/-- The size of the block in `memTestProgram.c`; proofs do not unroll its loops. -/
@[irreducible] def BUFFER_SIZE : ℕ := 1024

/-- The size of the block in `memError.c`. -/
@[irreducible] def MEM_SIZE : ℕ := 1024

/-- The first loop: the pattern is written to every byte. -/
def writePattern (memory size : ℕ) (p : BitVec 8) : MemProg Unit :=
  forM (List.range size) fun i => store (memory + i) p

/-- The body of the second loop; a byte that differs is read again for the message. -/
def checkByte (lead : String) (memory : ℕ) (p : BitVec 8) (i : ℕ) : MemProg Unit := do
  let value ← load (memory + i)
  if value ≠ p then
    let got ← load (memory + i)
    printf (.memoryError lead i p got)
    Prog.exit (-1)
  else return ()

/-- Both loops. -/
def testPattern (lead : String) (memory size : ℕ) (p : BitVec 8) : MemProg Unit := do
  writePattern memory size p
  forM (List.range size) (checkByte lead memory p)

/-- `memoryErrorCheck` of `memTestProgram.c`. -/
def memoryErrorCheck : MemProg Unit := do
  let memory ← malloc BUFFER_SIZE
  match memory with
  | none =>
    printf (.allocationFailed "    [!] ")
    Prog.exit (-1)
  | some memory => testPattern "    [!] " memory BUFFER_SIZE 0xAA#8

/-- `pattern_test` of `memError.c`. -/
def pattern_test (mem : ℕ) : MemProg Unit := testPattern "" mem MEM_SIZE 0xAA#8

/-- What `malloc` returns, and the condition of every bit. -/
structure Ram where
  heap : Option ℕ
  faults : ℕ → Fin 8 → BitFault

/-- The bytes last written, and the printed lines. -/
structure Bench where
  stored : ℕ → BitVec 8
  printed : List MemLine

/-- Memory with stuck bits. -/
def Ram.handler (ram : Ram) : Handler MemCalls Bench where
  answer
    | .malloc _, bench => (ram.heap, bench)
    | .store address value, bench => ((), { bench with stored := Function.update bench.stored address value })
    | .load address, bench => (seen (ram.faults address) (bench.stored address), bench)
    | .printf line, bench => ((), { bench with printed := bench.printed ++ [line] })

/-- No bit of a block is stuck. -/
def Healthy (faults : ℕ → Fin 8 → BitFault) (block size : ℕ) : Prop :=
  ∀ i < size, ∀ bit, faults (block + i) bit = .healthy

/-- A test does what a memory test is for: it finishes without a report exactly for a block
without stuck bits, and otherwise reports a byte of the block that has one. -/
structure FindsFaults (program : MemProg Unit) (ram : Ram) (block size : ℕ) (bench : Bench) : Prop where
  finishes : (program.run ram.handler bench).1 = .ok () ∧
      (program.run ram.handler bench).2.printed = bench.printed ↔ Healthy ram.faults block size
  reports : ¬Healthy ram.faults block size → ∃ i < size, ∃ lead expected got,
    (program.run ram.handler bench).1 = .error ⟨-1⟩ ∧
      (program.run ram.handler bench).2.printed = bench.printed ++ [.memoryError lead i expected got] ∧
      ∃ bit, ram.faults (block + i) bit ≠ .healthy

section Loops

variable (ram : Ram) (memory : ℕ) (p : BitVec 8)

/-- The first loop returns with the pattern in every byte of the block. -/
theorem run_writePattern (size : ℕ) (bench : Bench) :
    ∃ stored : ℕ → BitVec 8, (∀ i < size, stored (memory + i) = p) ∧
      (writePattern memory size p).run ram.handler bench = (.ok (), ⟨stored, bench.printed⟩) := by
  unfold writePattern
  induction size generalizing bench with
  | zero => exact ⟨bench.stored, nofun, rfl⟩
  | succ size ih =>
    obtain ⟨stored, hstored, hrun⟩ := ih bench
    refine ⟨Function.update stored (memory + size) p, fun i hi => ?_, ?_⟩
    · by_cases hlast : i = size
      · rw [hlast, Function.update_self]
      · rw [Function.update_of_ne (by omega), hstored i (by omega)]
    · rw [List.range_succ, List.forM_append, Prog.run_bind_of_ok _ _ hrun]
      rfl

/-- What the message shows for a byte. -/
def errorLine (lead : String) (i : ℕ) : MemLine := .memoryError lead i p (seen (ram.faults (memory + i)) p)

/-- A byte that holds the pattern passes if it reads back as the pattern; otherwise it is reported
and the program ends. -/
theorem run_checkByte (lead : String) (i : ℕ) (bench : Bench) (hstored : bench.stored (memory + i) = p) :
    (checkByte lead memory p i).run ram.handler bench =
      if seen (ram.faults (memory + i)) p = p then (.ok (), bench)
      else (.error ⟨-1⟩, ⟨bench.stored, bench.printed ++ [errorLine ram memory p lead i]⟩) := by
  change (if seen (ram.faults (memory + i)) (bench.stored (memory + i)) ≠ p then _ else _ :
    MemProg Unit).run ram.handler bench = _
  rw [hstored, ite_not]
  by_cases hsame : seen (ram.faults (memory + i)) p = p
  · rw [if_pos hsame, if_pos hsame]
    rfl
  · rw [if_neg hsame, if_neg hsame, errorLine, ← hstored]
    rfl

/-- The second loop goes through if every byte reads back as the pattern; otherwise it reports one
that does not. -/
theorem run_checkBytes (lead : String) (indices : List ℕ) (bench : Bench)
    (hstored : ∀ i ∈ indices, bench.stored (memory + i) = p) :
    (∀ i ∈ indices, seen (ram.faults (memory + i)) p = p) ∧
        (forM indices (checkByte lead memory p)).run ram.handler bench = (.ok (), bench) ∨
      ∃ i ∈ indices, seen (ram.faults (memory + i)) p ≠ p ∧
        (forM indices (checkByte lead memory p)).run ram.handler bench =
          (.error ⟨-1⟩, ⟨bench.stored, bench.printed ++ [errorLine ram memory p lead i]⟩) := by
  induction indices with
  | nil => exact .inl ⟨nofun, rfl⟩
  | cons i rest ih =>
    have hcheck := run_checkByte ram memory p lead i bench (hstored i List.mem_cons_self)
    rw [List.forM_cons]
    by_cases hsame : seen (ram.faults (memory + i)) p = p
    · rw [if_pos hsame] at hcheck
      rw [Prog.run_bind_of_ok _ _ hcheck]
      rcases ih fun j hj => hstored j (List.mem_cons_of_mem i hj) with ⟨hall, hrun⟩ | ⟨j, hj, hdiffers, hrun⟩
      · exact .inl ⟨List.forall_mem_cons.mpr ⟨hsame, hall⟩, hrun⟩
      · exact .inr ⟨j, List.mem_cons_of_mem i hj, hdiffers, hrun⟩
    · rw [if_neg hsame] at hcheck
      exact .inr ⟨i, List.mem_cons_self, hsame, Prog.run_bind_of_error _ _ hcheck⟩

/-- The test goes through if every byte shows the pattern; otherwise it reports one that does not. -/
theorem run_testPattern (lead : String) (size : ℕ) (bench : Bench) :
    ∃ stored : ℕ → BitVec 8,
      (∀ i < size, seen (ram.faults (memory + i)) p = p) ∧
          (testPattern lead memory size p).run ram.handler bench = (.ok (), ⟨stored, bench.printed⟩) ∨
        ∃ i < size, seen (ram.faults (memory + i)) p ≠ p ∧
          (testPattern lead memory size p).run ram.handler bench =
            (.error ⟨-1⟩, ⟨stored, bench.printed ++ [errorLine ram memory p lead i]⟩) := by
  obtain ⟨stored, hstored, hwrite⟩ := run_writePattern ram memory p size bench
  have hcheck := run_checkBytes ram memory p lead (List.range size) ⟨stored, bench.printed⟩
    fun i hi => hstored i (List.mem_range.mp hi)
  rw [testPattern, Prog.run_bind_of_ok _ _ hwrite]
  simp only [List.mem_range] at hcheck
  exact ⟨stored, hcheck⟩

/-- A test with one pattern finds the faults exactly of the blocks without stuck bits and of those
with a bit stuck against the pattern. -/
theorem findsFaults_testPattern_iff (lead : String) (size : ℕ) (bench : Bench) :
    FindsFaults (testPattern lead memory size p) ram memory size bench ↔
      Healthy ram.faults memory size ∨
        ∃ i < size, ∃ bit, ram.faults (memory + i) bit = against (p.getLsb bit) := by
  obtain ⟨stored, hrun⟩ := run_testPattern ram memory p lead size bench
  rcases hrun with ⟨hall, hrun⟩ | ⟨i, hi, hdiffers, hrun⟩
  · constructor
    · intro hfinds
      refine .inl (hfinds.finishes.mp ?_)
      rw [hrun]
      exact ⟨rfl, rfl⟩
    · intro hcond
      rcases hcond with hhealthy | ⟨i, hi, bit, hbit⟩
      · refine ⟨iff_of_true ?_ hhealthy, fun hstuck => absurd hhealthy hstuck⟩
        rw [hrun]
        exact ⟨rfl, rfl⟩
      · exact absurd hbit ((seen_eq_iff _ p).mp (hall i hi) bit)
  · rw [ne_eq, seen_eq_iff, not_forall] at hdiffers
    obtain ⟨bit, hbit⟩ := hdiffers
    rw [ne_eq, not_not] at hbit
    have hstuck : ram.faults (memory + i) bit ≠ .healthy := by
      rw [hbit]
      exact against_ne_healthy _
    refine iff_of_true ⟨iff_of_false ?_ fun h => hstuck (h i hi bit), fun _ => ?_⟩ (.inr ⟨i, hi, bit, hbit⟩)
    · rw [hrun]
      exact nofun
    · rw [hrun]
      exact ⟨i, hi, lead, p, _, rfl, rfl, bit, hstuck⟩

end Loops

/-- A bit of the block is stuck against 0xAA: an odd bit at 0, or an even bit at 1. -/
def StuckAgainst (faults : ℕ → Fin 8 → BitFault) (block size : ℕ) : Prop :=
  ∃ i < size, ∃ bit : Fin 8,
    bit.val % 2 = 1 ∧ faults (block + i) bit = .stuckAt0 ∨ bit.val % 2 = 0 ∧ faults (block + i) bit = .stuckAt1

/-- The bits of 0xAA are the odd ones. -/
theorem eq_against_iff (fault : BitFault) (bit : Fin 8) :
    fault = against (BitVec.getLsb 0xAA#8 bit) ↔
      bit.val % 2 = 1 ∧ fault = .stuckAt0 ∨ bit.val % 2 = 0 ∧ fault = .stuckAt1 := by
  revert bit
  cases fault <;> decide

section Verdicts

variable (block : ℕ) (faults : ℕ → Fin 8 → BitFault) (bench : Bench)

/-- The tests with the byte 0xAA find the faults of the blocks named. -/
theorem findsFaults_0xAA_iff (lead : String) (size : ℕ) :
    FindsFaults (testPattern lead block size 0xAA#8) ⟨some block, faults⟩ block size bench ↔
      Healthy faults block size ∨ StuckAgainst faults block size := by
  rw [findsFaults_testPattern_iff]
  simp only [eq_against_iff]
  rfl

/-- `memoryErrorCheck` tests the block that `malloc` supplies. -/
theorem run_memoryErrorCheck :
    memoryErrorCheck.run (Ram.handler ⟨some block, faults⟩) bench =
      (testPattern "    [!] " block BUFFER_SIZE 0xAA#8).run (Ram.handler ⟨some block, faults⟩) bench := by
  rw [memoryErrorCheck, malloc, Prog.perform_bind, Prog.run_call]
  rfl

/-- `memoryErrorCheck` finds the faults of the blocks named. -/
theorem findsFaults_memoryErrorCheck_iff :
    FindsFaults memoryErrorCheck ⟨some block, faults⟩ block BUFFER_SIZE bench ↔
      Healthy faults block BUFFER_SIZE ∨ StuckAgainst faults block BUFFER_SIZE := by
  rw [← findsFaults_0xAA_iff block faults bench "    [!] "]
  have hrun := run_memoryErrorCheck block faults bench
  constructor
  · intro hfinds
    exact ⟨hrun ▸ hfinds.finishes, hrun ▸ hfinds.reports⟩
  · intro hfinds
    exact ⟨hrun.symm ▸ hfinds.finishes, hrun.symm ▸ hfinds.reports⟩

/-- For every fault map of the block and whatever the memory held before: either test finds the
faults if and only if no bit is stuck, or some odd bit is stuck at 0 or some even bit at 1. -/
theorem pattern_test_iff :
    (FindsFaults memoryErrorCheck ⟨some block, faults⟩ block BUFFER_SIZE bench ↔
      Healthy faults block BUFFER_SIZE ∨ StuckAgainst faults block BUFFER_SIZE) ∧
    (FindsFaults (pattern_test block) ⟨some block, faults⟩ block MEM_SIZE bench ↔
      Healthy faults block MEM_SIZE ∨ StuckAgainst faults block MEM_SIZE) :=
  ⟨findsFaults_memoryErrorCheck_iff block faults bench, findsFaults_0xAA_iff block faults bench "" MEM_SIZE⟩

end Verdicts

/-- A block in which bit 1 of every byte is stuck at 1 passes as if it were healthy. -/
theorem stuck_bit_passes :
    ¬∀ (block : ℕ) (faults : ℕ → Fin 8 → BitFault) (bench : Bench),
      FindsFaults memoryErrorCheck ⟨some block, faults⟩ block BUFFER_SIZE bench := by
  intro hall
  have hsize : 0 < BUFFER_SIZE := by
    unfold BUFFER_SIZE
    decide
  have hfinds := hall 0 (fun _ bit => if bit = 1 then .stuckAt1 else .healthy) ⟨fun _ => 0, []⟩
  rcases (findsFaults_memoryErrorCheck_iff _ _ _).mp hfinds with hhealthy | ⟨i, -, bit, hstuck⟩
  · cases hhealthy 0 hsize 1
  · dsimp only at hstuck
    revert bit
    decide

end Maestro.Memory
