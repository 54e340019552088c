import Maestro.Effect.Runs
import Maestro.Effect.Total
import Mathlib.Algebra.BigOperators.Group.List.Basic
import Mathlib.Logic.Function.Basic

/-!
# Reading from and writing to the `nobrand` device

The read and write functions of the module work on the caller's memory. The caller passes a
buffer and the number of its bytes, `count`; neither function looks at `count` except to return
it. A read stores three bytes in any case, and a write logs the memory from the start of the
buffer up to the first zero byte.
-/

namespace Maestro.Kernel.File

open Effect

abbrev Byte := BitVec 8

/-- An address in the caller's memory. -/
abbrev Address := BitVec 64

abbrev Memory := Address → Byte

/-- The address of the byte with the given number. -/
def place (buf : Address) (i : ℕ) : Address := buf + BitVec.ofNat 64 i

/-- The lines that a write logs. -/
inductive FileLine where
  | hihi
  | appMessage (text : List Byte)
deriving DecidableEq

/-- The logged text, one character for each byte. -/
def FileLine.text : FileLine → String
  | hihi => "HIHI\n\n"
  | appMessage text => "app message : " ++ String.ofList (text.map fun byte => Char.ofNat byte.toNat) ++ "\n"

/-- The accesses to user memory, and the log. -/
inductive FileCall where
  | store (address : Address) (value : Byte)
  | load (address : Address)
  | printk (line : FileLine)

/-- A load is answered with the byte at the address. -/
abbrev FileCalls : Interface where
  Call := FileCall
  Reply
    | .load _ => Byte
    | _ => Unit

abbrev FileProg (ε α : Type) := Prog FileCalls ε α

section Program

variable {ε : Type}

def store (address : Address) (value : Byte) : FileProg ε Unit :=
  Prog.perform (I := FileCalls) (.store address value)

def load (address : Address) : FileProg ε Byte := Prog.perform (I := FileCalls) (.load address)

def printk (line : FileLine) : FileProg ε Unit := Prog.perform (I := FileCalls) (.printk line)

/-- Store the message, return `count`, and leave the file position as it is. -/
def nobrand_read (buf count : BitVec 64) (ppos : ℕ) : FileProg ε (ℤ × ℕ) := do
  store (place buf 0) 0x48
  store (place buf 1) 0x49
  store (place buf 2) 0x00
  return (count.toInt, ppos)

/-- The conversion `%s`: bytes are read up to the first zero. `none` means that it is still
reading. -/
def readString : ℕ → Address → FileProg ε (Option (List Byte))
  | 0, _ => return none
  | fuel + 1, address => do
    let byte ← load address
    if byte = 0 then return some []
    else do
      let rest ← readString fuel (place address 1)
      return rest.map (byte :: ·)

/-- The line with the string is logged when the string has been read. -/
def logMessage (count : BitVec 64) (ppos : ℕ) : Option (List Byte) → FileProg ε (Option (ℤ × ℕ))
  | none => return none
  | some text => do
    printk (.appMessage text)
    return some (count.toInt, ppos)

/-- Log the string in the buffer, return `count`, and leave the file position as it is. -/
def nobrand_write (fuel : ℕ) (buf count : BitVec 64) (ppos : ℕ) : FileProg ε (Option (ℤ × ℕ)) := do
  printk .hihi
  let text ← readString fuel buf
  logMessage count ppos text

end Program

/-- The caller's memory and the log. -/
structure Machine where
  memory : Memory
  log : List FileLine

/-- Loads and stores go to the caller's memory. -/
def userMemory : Handler FileCalls Machine where
  answer
    | .store address value, machine =>
      ((), { machine with memory := Function.update machine.memory address value })
    | .load address, machine => (machine.memory address, machine)
    | .printk line, machine => ((), { machine with log := machine.log ++ [line] })

/-- The addresses that a program stores to, in order. -/
def stores {α : Type} (program : FileProg Empty α) (machine : Machine) : List Address :=
  (program.trace userMemory machine).filterMap fun step =>
    match step.request with
    | .store address _ => some address
    | _ => none

/-- The addresses that a program loads from, in order. -/
def loads {α : Type} (program : FileProg Empty α) (machine : Machine) : List Address :=
  (program.trace userMemory machine).filterMap fun step =>
    match step.request with
    | .load address => some address
    | _ => none

/-- The address is one of the `count` bytes of the buffer. -/
def InBuffer (buf count : BitVec 64) (address : Address) : Prop := ∃ i < count.toNat, address = place buf i

/-- The first place is the address itself. -/
theorem place_zero (address : Address) : place address 0 = address := BitVec.add_zero address

/-- The places after the next address. -/
theorem place_succ (address : Address) (i : ℕ) : place (place address 1) i = place address (i + 1) := by
  rw [place, place, place, BitVec.add_assoc, ← BitVec.ofNat_add, Nat.add_comm]

/-- The first place of a run of places, and the others. -/
theorem forall_place_succ (p : Address → Prop) (address : Address) (n : ℕ) :
    (∀ i < n + 1, p (place address i)) ↔ p address ∧ ∀ i < n, p (place (place address 1) i) := by
  rw [Nat.forall_lt_succ_left, place_zero]
  simp only [place_succ]

/-- One of the places is the first one or a later one. -/
theorem exists_place_succ (p : Address → Prop) (address : Address) (n : ℕ) :
    (∃ i < n + 1, p (place address i)) ↔ p address ∨ ∃ i < n, p (place (place address 1) i) := by
  rw [Nat.exists_lt_succ_left, place_zero]
  simp only [place_succ]

/-- Different numbers below 2^64 are different places. -/
theorem place_inj {buf : Address} {i j : ℕ} (hi : i < 2 ^ 64) (hj : j < 2 ^ 64)
    (heq : place buf i = place buf j) : i = j := by
  have hoffset := congrArg BitVec.toNat (BitVec.add_right_inj buf |>.mp heq)
  rwa [BitVec.toNat_ofNat, BitVec.toNat_ofNat, Nat.mod_eq_of_lt hi, Nat.mod_eq_of_lt hj] at hoffset

/-- A place is in the buffer exactly if its number is below the number of bytes. -/
theorem inBuffer_place_iff {buf count : BitVec 64} {i : ℕ} (hi : i < 2 ^ 64) :
    InBuffer buf count (place buf i) ↔ i < count.toNat := by
  constructor
  · intro hin
    obtain ⟨j, hj, heq⟩ := hin
    rwa [place_inj hi (Nat.lt_trans hj count.isLt) heq]
  · intro hlt
    exact ⟨i, hlt, rfl⟩

section Read

/-- One call of `read`: the buffer and the number of its bytes. -/
structure Request where
  buf : Address
  count : BitVec 64

/-- How many bytes a sequence of reads asks for. -/
def asked : List Request → ℕ
  | [] => 0
  | request :: requests => request.count.toNat + asked requests

/-- The caller's memory and the position in the open file. -/
structure Session where
  memory : Memory
  position : ℕ

/-- What the device has to tell: `HI` and a zero byte. -/
def message : List Byte := [0x48, 0x49, 0x00]

namespace Session

variable (session : Session) (request : Request)

/-- What a call of `read` returns. -/
def status : ℤ :=
  ((nobrand_read request.buf request.count session.position).eval userMemory ⟨session.memory, []⟩).1.1

/-- The session after a call of `read`; the kernel keeps the position that the function leaves. -/
def after : Session :=
  let (result, machine) :=
    (nobrand_read request.buf request.count session.position).eval userMemory ⟨session.memory, []⟩
  ⟨machine.memory, result.2⟩

/-- The addresses that a call of `read` stores to. -/
def stored : List Address :=
  stores (nobrand_read request.buf request.count session.position) ⟨session.memory, []⟩

/-- The bytes that a call of `read` returns: as many bytes of the buffer as the status says. -/
def data : List Byte :=
  (List.range (session.status request).toNat).map fun i => (session.after request).memory (place request.buf i)

/-- The bytes that a sequence of reads returns, one after the other. -/
def received (session : Session) : List Request → List Byte
  | [] => []
  | request :: requests => session.data request ++ (session.after request).received requests

end Session

/-- A read stores to its buffer only. -/
def StoresInside (session : Session) (request : Request) : Prop :=
  ∀ address ∈ session.stored request, InBuffer request.buf request.count address

/-- A read returns the number of bytes that it has stored. -/
def ReturnsStored (session : Session) (request : Request) : Prop :=
  session.status request = (session.stored request).length

/-- A sequence of reads obeys the rules: each stores to its buffer only and returns the number of
bytes stored, together they return the message from the position on, as far as they ask for it,
and when all of it has been returned a further read returns 0. -/
structure Lawful (start : Session) (requests : List Request) : Prop where
  inside : EveryStep Session.after start requests StoresInside
  returned : EveryStep Session.after start requests ReturnsStored
  delivered : start.received requests = (message.drop start.position).take (asked requests)
  ended : message.length ≤ start.position + (start.received requests).length →
    ∀ request, (reached Session.after start requests).status request = 0

variable (session : Session) (request : Request)

/-- The status is the count. -/
theorem status_eq : session.status request = request.count.toInt := rfl

/-- The three bytes are stored at the start of the buffer. -/
theorem stored_eq :
    session.stored request = [place request.buf 0, place request.buf 1, place request.buf 2] := rfl

/-- A read stores to its buffer only if the buffer has three bytes or more. -/
theorem storesInside_iff : StoresInside session request ↔ 3 ≤ request.count.toNat := by
  rw [StoresInside, stored_eq]
  simp only [List.forall_mem_cons, List.not_mem_nil, false_imp_iff, implies_true, and_true]
  rw [inBuffer_place_iff (by decide), inBuffer_place_iff (by decide), inBuffer_place_iff (by decide)]
  omega

/-- A read returns the number of bytes stored only if it was asked for three. -/
theorem returnsStored_iff : ReturnsStored session request ↔ request.count = 3 := by
  rw [ReturnsStored, status_eq, stored_eq]
  exact BitVec.toInt_inj (y := (3 : BitVec 64))

/-- A read returns as many bytes as its status says. -/
theorem length_data : (session.data request).length = request.count.toInt.toNat := by
  rw [Session.data, List.length_map, List.length_range, status_eq]

/-- From every position, no sequence with a read in it obeys the rules, and the empty one does only
before the end of the message. -/
theorem lawful_iff (requests : List Request) :
    Lawful session requests ↔ requests = [] ∧ session.position < message.length := by
  -- whatever has been read, a read of one byte returns 1
  have hone : ∀ later : Session, later.status ⟨0, 1⟩ ≠ 0 := fun later => by
    rw [status_eq]
    decide
  constructor
  · intro hlawful
    have hunfinished : ¬message.length ≤ session.position + (session.received requests).length :=
      fun hle => hone _ (hlawful.ended hle ⟨0, 1⟩)
    cases requests with
    | nil => exact ⟨rfl, Nat.lt_of_not_le hunfinished⟩
    | cons request rest =>
      have hcount := (returnsStored_iff session request).mp (hlawful.returned [] request rest rfl)
      have hthree : (session.data request).length = 3 := by
        rw [length_data, hcount]
        rfl
      rw [Session.received, List.length_append, hthree] at hunfinished
      exact absurd (Nat.le_add_left_of_le (Nat.le_add_right 3 _)) hunfinished
  · intro hempty
    rw [hempty.1]
    exact ⟨everyStep_nil, everyStep_nil, (List.take_zero).symm,
      fun hle => absurd (Nat.lt_of_lt_of_le hempty.2 hle) (Nat.lt_irrefl _)⟩

/-- For every file position and memory: a read stores to its buffer only exactly if the buffer has
three bytes or more, it returns the number of bytes stored exactly if it was asked for three, and
no sequence with a read in it obeys the rules for sequences. -/
theorem nobrand_read_rules :
    (StoresInside session request ↔ 3 ≤ request.count.toNat) ∧
      (ReturnsStored session request ↔ request.count = 3) ∧
      ∀ requests, Lawful session requests ↔ requests = [] ∧ session.position < message.length :=
  ⟨storesInside_iff session request, returnsStored_iff session request, lawful_iff session⟩

/-- A read of one byte stores beyond its buffer, and the demo program's read of 99 bytes from the
start of the file returns 99. -/
theorem nobrand_read_breaks_rules :
    ¬StoresInside ⟨fun _ => 0, 0⟩ ⟨0x1000, 1⟩ ∧ ¬ReturnsStored ⟨fun _ => 0, 0⟩ ⟨0x1000, 99⟩ ∧
      ¬Lawful ⟨fun _ => 0, 0⟩ [⟨0x1000, 99⟩] := by
  have hreturned : ¬ReturnsStored ⟨fun _ => 0, 0⟩ ⟨0x1000, 99⟩ := by
    rw [returnsStored_iff]
    decide
  refine ⟨?_, hreturned, fun hlawful => hreturned (hlawful.returned [] ⟨0x1000, 99⟩ [] rfl)⟩
  rw [storesInside_iff]
  decide

end Read

section Write

/-- The string at an address, read with the given fuel. -/
def stringAt (memory : Memory) : ℕ → Address → Option (List Byte)
  | 0, _ => none
  | fuel + 1, address =>
    if memory address = 0 then some []
    else (stringAt memory fuel (place address 1)).map (memory address :: ·)

variable (memory : Memory) (log : List FileLine) (buf count : BitVec 64) (ppos fuel : ℕ)

/-- The conversion reads the string and changes nothing. -/
theorem eval_readString (address : Address) :
    (readString fuel address).eval userMemory ⟨memory, log⟩ = (stringAt memory fuel address, ⟨memory, log⟩) := by
  induction fuel generalizing address with
  | zero => rfl
  | succ fuel ih =>
    change (if memory address = 0 then _ else _ : FileProg Empty (Option (List Byte))).eval userMemory _ = _
    rw [stringAt]
    by_cases hzero : memory address = 0
    · rw [if_pos hzero, if_pos hzero]
      rfl
    · rw [if_neg hzero, if_neg hzero]
      change (readString fuel (place address 1) >>= fun rest => pure (rest.map (memory address :: ·))).eval
        userMemory ⟨memory, log⟩ = _
      rw [Prog.eval_bind, ih]
      rfl

/-- What a write returns, and the log after it. -/
def written : Option (ℤ × ℕ) × List FileLine :=
  let (result, machine) := (nobrand_write fuel buf count ppos).eval userMemory ⟨memory, log⟩
  (result, machine.log)

/-- Both depend on the string in the buffer only. -/
theorem written_eq :
    written memory log buf count ppos fuel =
      ((stringAt memory fuel buf).map fun _ => (count.toInt, ppos),
        log ++ [.hihi] ++ ((stringAt memory fuel buf).map FileLine.appMessage).toList) := by
  have heval : (nobrand_write fuel buf count ppos).eval userMemory ⟨memory, log⟩ =
      (logMessage count ppos (stringAt memory fuel buf)).eval userMemory ⟨memory, log ++ [.hihi]⟩ := by
    rw [nobrand_write, Prog.eval_bind]
    change ((readString fuel buf >>= logMessage count ppos).eval userMemory ⟨memory, log ++ [.hihi]⟩) = _
    rw [Prog.eval_bind, eval_readString]
  rw [written, heval]
  cases stringAt memory fuel buf with
  | none => exact congrArg (Prod.mk none) (List.append_nil _).symm
  | some text => rfl

/-- A write has not returned exactly if it is still reading. -/
theorem written_fst_eq_none_iff :
    (written memory log buf count ppos fuel).1 = none ↔ stringAt memory fuel buf = none := by
  rw [written_eq]
  exact Option.map_eq_none_iff

/-- The conversion is still reading exactly as long as it has met no zero byte. -/
theorem stringAt_eq_none_iff (address : Address) :
    stringAt memory fuel address = none ↔ ∀ i < fuel, memory (place address i) ≠ 0 := by
  induction fuel generalizing address with
  | zero => exact iff_of_true rfl fun i hi => absurd hi (Nat.not_lt_zero i)
  | succ fuel ih =>
    rw [stringAt, forall_place_succ fun other => memory other ≠ 0]
    by_cases hzero : memory address = 0
    · rw [if_pos hzero]
      exact iff_of_false nofun fun hall => hall.1 hzero
    · rw [if_neg hzero, Option.map_eq_none_iff, ih]
      exact (and_iff_right hzero).symm

/-- With no zero byte before a place, the byte there decides whether the string ends at it. -/
theorem stringAt_succ_eq_none_iff {memory : Memory} {n : ℕ} {address : Address}
    (hnonzero : ∀ i < n, memory (place address i) ≠ 0) :
    stringAt memory (n + 1) address = none ↔ memory (place address n) ≠ 0 := by
  rw [stringAt_eq_none_iff, Nat.forall_lt_succ_right]
  exact and_iff_right hnonzero

/-- Memories that agree up to the end of the string have the same string. -/
theorem stringAt_congr {memory memory' : Memory} {n : ℕ} {address : Address}
    (hagree : ∀ i < n, memory' (place address i) = memory (place address i))
    (hzero : ∃ i < n, memory (place address i) = 0) (fuel : ℕ) :
    stringAt memory' fuel address = stringAt memory fuel address := by
  induction fuel generalizing n address with
  | zero => rfl
  | succ fuel ih =>
    cases n with
    | zero =>
      obtain ⟨i, hi, -⟩ := hzero
      cases hi
    | succ n =>
      rw [forall_place_succ fun other => memory' other = memory other] at hagree
      rw [exists_place_succ fun other => memory other = 0] at hzero
      rw [stringAt, stringAt, hagree.1]
      by_cases hfirst : memory address = 0
      · rw [if_pos hfirst, if_pos hfirst]
      · rw [if_neg hfirst, if_neg hfirst, ih hagree.2 (hzero.resolve_left hfirst)]

/-- The loads of a sequence are those of its parts. -/
theorem loads_bind {α β : Type} (program : FileProg Empty α) (next : α → FileProg Empty β) (machine : Machine) :
    loads (program >>= next) machine =
      loads program machine ++
        loads (next (program.eval userMemory machine).1) (program.eval userMemory machine).2 := by
  rw [loads, Prog.trace_bind, List.filterMap_append]
  rfl

/-- The conversion loads its first byte, and the others if this is not zero. -/
theorem loads_readString_succ (address : Address) :
    loads (readString (fuel + 1) address) ⟨memory, log⟩ =
      address :: if memory address = 0 then [] else loads (readString fuel (place address 1)) ⟨memory, log⟩ := by
  rw [readString, loads_bind]
  change address :: loads (if memory address = 0 then _ else _ : FileProg Empty (Option (List Byte))) _ = _
  by_cases hzero : memory address = 0
  · rw [if_pos hzero, if_pos hzero]
    rfl
  · rw [if_neg hzero, if_neg hzero, loads_bind]
    exact congrArg (List.cons address) (List.append_nil _)

/-- The conversion loads the bytes before the first zero byte, and this byte. -/
theorem mem_loads_readString (address other : Address) :
    other ∈ loads (readString fuel address) ⟨memory, log⟩ ↔
      ∃ i < fuel, (∀ j < i, memory (place address j) ≠ 0) ∧ other = place address i := by
  induction fuel generalizing address with
  | zero => exact iff_of_false List.not_mem_nil fun h => Nat.not_lt_zero _ h.choose_spec.1
  | succ fuel ih =>
    rw [loads_readString_succ, List.mem_cons, Nat.exists_lt_succ_left, place_zero]
    refine or_congr (and_iff_right fun j hj => absurd hj (Nat.not_lt_zero j)).symm ?_
    by_cases hzero : memory address = 0
    · rw [if_pos hzero]
      refine iff_of_false List.not_mem_nil fun hlater => ?_
      obtain ⟨i, -, hnonzero, -⟩ := hlater
      exact ((forall_place_succ (fun place => memory place ≠ 0) address i).mp hnonzero).1 hzero
    · rw [if_neg hzero, ih]
      refine exists_congr fun i => and_congr_right fun _ => and_congr ?_ ?_
      · rw [forall_place_succ fun place => memory place ≠ 0]
        exact (and_iff_right hzero).symm
      · rw [place_succ]

/-- The loads of a write are those of the conversion. -/
theorem loads_nobrand_write :
    loads (nobrand_write fuel buf count ppos) ⟨memory, log⟩ =
      loads (readString fuel buf) ⟨memory, log ++ [.hihi]⟩ := by
  have hlast : ∀ (text : Option (List Byte)) (machine : Machine), loads (logMessage count ppos text) machine = [] :=
    fun text machine => by cases text <;> rfl
  rw [nobrand_write, loads_bind]
  change loads (readString fuel buf >>= logMessage count ppos) ⟨memory, log ++ [.hihi]⟩ = _
  rw [loads_bind, hlast, List.append_nil]

end Write

/-- Whatever the memory holds outside the `count` bytes of the buffer, a write returns the same value
and logs the same. -/
def NonInterfering (memory : Memory) (buf count : BitVec 64) : Prop :=
  ∀ memory', (∀ address, InBuffer buf count address → memory' address = memory address) →
    ∀ log ppos fuel, written memory' log buf count ppos fuel = written memory log buf count ppos fuel

/-- A write reads nothing but the `count` bytes of the buffer. -/
def ReadsInside (memory : Memory) (buf count : BitVec 64) : Prop :=
  ∀ log ppos fuel, ∀ address ∈ loads (nobrand_write fuel buf count ppos) ⟨memory, log⟩, InBuffer buf count address

/-- A zero byte is among the bytes of the buffer. -/
def Terminated (memory : Memory) (buf count : BitVec 64) : Prop :=
  ∃ i < count.toNat, memory (place buf i) = 0

section Leak

variable (memory : Memory) (buf count : BitVec 64)

/-- The first place after the buffer is not in it. -/
theorem not_inBuffer_end : ¬InBuffer buf count (place buf count.toNat) := by
  rw [inBuffer_place_iff count.isLt]
  exact Nat.lt_irrefl _

/-- Without a zero byte in the buffer, all its bytes are other than zero. -/
theorem nonzero_of_not_terminated (hnone : ¬Terminated memory buf count) :
    ∀ i < count.toNat, memory (place buf i) ≠ 0 :=
  fun i hi hzero => hnone ⟨i, hi, hzero⟩

/-- A write reads only its buffer exactly if a zero byte is in it. -/
theorem readsInside_iff : ReadsInside memory buf count ↔ Terminated memory buf count := by
  constructor
  · intro hinside
    by_contra hnone
    have hnonzero := nonzero_of_not_terminated memory buf count hnone
    refine not_inBuffer_end buf count (hinside [] 0 (count.toNat + 1) _ ?_)
    rw [loads_nobrand_write, mem_loads_readString]
    exact ⟨count.toNat, Nat.lt_succ_self _, hnonzero, rfl⟩
  · intro hterminated log ppos fuel address hload
    rw [loads_nobrand_write, mem_loads_readString] at hload
    obtain ⟨i, -, hnonzero, rfl⟩ := hload
    obtain ⟨k, hk, hzero⟩ := hterminated
    have hle : i ≤ k := Nat.le_of_not_lt fun hlt => hnonzero k hlt hzero
    exact ⟨i, Nat.lt_of_le_of_lt hle hk, rfl⟩

/-- There is a memory that differs in whether one byte is zero, and nowhere else. -/
theorem exists_flipped (last : Address) :
    ∃ memory' : Memory, (memory' last ≠ 0 ↔ memory last = 0) ∧
      ∀ address ≠ last, memory' address = memory address := by
  refine ⟨Function.update memory last (if memory last = 0 then 1 else 0), ?_,
    fun address hne => Function.update_of_ne hne _ _⟩
  rw [Function.update_self]
  by_cases hzero : memory last = 0
  · rw [if_pos hzero]
    exact iff_of_true (by decide) hzero
  · rw [if_neg hzero]
    exact iff_of_false (not_not.mpr rfl) hzero

/-- A write is independent of the memory outside its buffer exactly if a zero byte is in it. -/
theorem nonInterfering_iff : NonInterfering memory buf count ↔ Terminated memory buf count := by
  constructor
  · intro hsame
    by_contra hnone
    have hnonzero := nonzero_of_not_terminated memory buf count hnone
    -- the other memory ends the string at the first place after the buffer, or goes on there
    obtain ⟨memory', hlast, hothers⟩ := exists_flipped memory (place buf count.toNat)
    have hagree : ∀ address, InBuffer buf count address → memory' address = memory address := by
      intro address hin
      refine hothers address fun heq => not_inBuffer_end buf count ?_
      rwa [← heq]
    have hnonzero' : ∀ i < count.toNat, memory' (place buf i) ≠ 0 := by
      intro i hi
      rw [hagree _ ⟨i, hi, rfl⟩]
      exact hnonzero i hi
    have hboth := written_fst_eq_none_iff memory' [] buf count 0 (count.toNat + 1)
    rw [hsame memory' hagree, written_fst_eq_none_iff, stringAt_succ_eq_none_iff hnonzero,
      stringAt_succ_eq_none_iff hnonzero', hlast] at hboth
    exact iff_not_self hboth.symm
  · intro hterminated memory' hagree log ppos fuel
    have hplaces : ∀ i < count.toNat, memory' (place buf i) = memory (place buf i) :=
      fun i hi => hagree _ ⟨i, hi, rfl⟩
    rw [written_eq, written_eq, stringAt_congr hplaces hterminated]

/-- For every memory, buffer and count: a write logs the same and returns the same value whatever
lies outside the buffer, and reads nothing outside it, if and only if a zero byte is among the
bytes of the buffer. -/
theorem nobrand_write_contained_iff :
    (NonInterfering memory buf count ↔ Terminated memory buf count) ∧
      (ReadsInside memory buf count ↔ Terminated memory buf count) :=
  ⟨nonInterfering_iff memory buf count, readsInside_iff memory buf count⟩

end Leak

/-- The string of the demo program at an address, and zeros everywhere else. -/
def letsGo : Memory := fun address =>
  [0x4c, 0x65, 0x74, 0x27, 0x73, 0x20, 0x67, 0x6f, 0x0a].getD (address - 0x1000).toNat 0

/-- The demo program passes seven bytes of its string; the bytes behind them are read, and change
what is logged. -/
theorem demo_write_leaks : ¬NonInterfering letsGo 0x1000 7 ∧ ¬ReadsInside letsGo 0x1000 7 := by
  rw [nonInterfering_iff, readsInside_iff, Terminated]
  decide

end Maestro.Kernel.File
