import Maestro.Cpu.CpuTest
import Maestro.Effect.Loop
import Maestro.Memory.Statistics

/-!
# The bandwidth check of the memory test program

`memoryBandWidthCheck` times loops that read, write and copy an array of doubles, twenty times
each, and prints the least, the greatest and the mean time of each loop, and a best rate. One
formula gives all three rates: two accesses for each element, as the copying loop makes them.

Doubles are rational numbers. The clock and the arrays are the environment. The accesses to the
elements of the arrays are requests, so that the traffic of a loop can be counted; the local
variable that takes the values read is not an element of an array.
-/

namespace Maestro.Memory.BandWidth

open Effect Text

/-- The number of elements; proofs do not unroll the loops. -/
@[irreducible] def STREAM_ARRAY_SIZE : ℕ := 100000000

def NTIMES : ℕ := 20

/-- The size of a `double` in bytes. -/
def sizeofDouble : ℕ := 8

/-- The two static arrays, and the allocated one. -/
inductive Buffer where
  | a
  | b
  | heap
deriving DecidableEq

/-- The timed functions, by the labels of their lines. -/
inductive Label where
  | Read
  | Write
  | Copy
deriving DecidableEq

/-- The printed figures of a function. -/
structure Row where
  best_rate : Number
  avg_t : ℚ
  min_t : ℚ
  max_t : ℚ
deriving DecidableEq

inductive BandLine where
  | header
  | row (label : Label) (row : Row)
deriving DecidableEq

/-- The label with the blanks that follow it. -/
def Label.text : Label → String
  | Read => "    Read:   "
  | Write => "    Write:  "
  | Copy => "    Copy:   "

/-- The format `%8.6lf`. -/
def timeText (time : ℚ) : String := ((Number.finite time).fixed 6).leftpad 8 ' '

/-- The printed text. -/
def BandLine.text : BandLine → String
  | header => "    Function    Best Rate MB/s  Avg time    Min time    Max time\n"
  | row label figures =>
    label.text ++ (figures.best_rate.fixed 2).leftpad 11 ' ' ++ "         " ++ timeText figures.avg_t ++ "    " ++
      timeText figures.min_t ++ "    " ++ timeText figures.max_t ++ "\n"

/-- The accesses to array elements, the assignments to the volatile variable, and the calls. -/
inductive BandCall where
  | malloc (size : ℕ)
  | free (buffer : Buffer)
  | load (buffer : Buffer) (i : ℕ)
  | store (buffer : Buffer) (i : ℕ) (value : ℚ)
  | assign (value : ℚ)
  | gettimeofday
  | printf (line : BandLine)

/-- `malloc` is answered with a buffer or `NULL`. -/
abbrev BandCalls : Interface where
  Call := BandCall
  Reply
    | .malloc _ => Option Buffer
    | .load _ _ => ℚ
    | .gettimeofday => Cpu.Timeval
    | _ => Unit

/-- The program is ended by a fault when it stores through a null pointer. -/
inductive Fault where
  | nullPointer
deriving DecidableEq

abbrev BandProg (α : Type) := Prog BandCalls Fault α

def malloc (size : ℕ) : BandProg (Option Buffer) := Prog.perform (I := BandCalls) (.malloc size)
def free (buffer : Buffer) : BandProg Unit := Prog.perform (I := BandCalls) (.free buffer)
def load (buffer : Buffer) (i : ℕ) : BandProg ℚ := Prog.perform (I := BandCalls) (.load buffer i)

def store (buffer : Buffer) (i : ℕ) (value : ℚ) : BandProg Unit :=
  Prog.perform (I := BandCalls) (.store buffer i value)

def assign (value : ℚ) : BandProg Unit := Prog.perform (I := BandCalls) (.assign value)
def gettimeofday : BandProg Cpu.Timeval := Prog.perform (I := BandCalls) .gettimeofday
def printf (line : BandLine) : BandProg Unit := Prog.perform (I := BandCalls) (.printf line)

/-- The time of day in seconds. -/
def seconds (tp : Cpu.Timeval) : ℚ := tp.tv_sec + tp.tv_usec.val * (1 / 1000000)

/-- The time of day in seconds. -/
def timeCheck : BandProg ℚ := do
  let tp ← gettimeofday
  return seconds tp

/-- Load every element. -/
def readBandWidth (array : Buffer) : BandProg Unit :=
  forM (List.range STREAM_ARRAY_SIZE) fun i => do
    let value ← load array i
    assign value

/-- Store its number to every element. -/
def writeBandWidth (array : Buffer) : BandProg Unit :=
  forM (List.range STREAM_ARRAY_SIZE) fun i => store array i i

/-- Copy every element of one static array to the other; the arguments of the call are not used. -/
def copyBandWidth : BandProg Unit :=
  forM (List.range STREAM_ARRAY_SIZE) fun i => do
    let value ← load .a i
    store .b i value

/-- The function behind a label. -/
def pass (array : Buffer) : Label → BandProg Unit
  | .Read => readBandWidth array
  | .Write => writeBandWidth array
  | .Copy => copyBandWidth

/-- The first loop of the check. -/
def clear (array : Buffer) : BandProg Unit :=
  forM (List.range STREAM_ARRAY_SIZE) fun k => do
    store .b k 0
    store array k 0

/-- A timed pass. -/
def timePass (function : BandProg Unit) : BandProg ℚ := do
  let start ← timeCheck
  function
  let finish ← timeCheck
  return finish - start

/-- The times of all passes of a function, in order. -/
def timePasses (function : BandProg Unit) : BandProg (List ℚ) :=
  (List.range NTIMES).foldlM (fun times _ => do
    let time ← timePass function
    return times ++ [time]) []

/-- The least, the greatest and the added times so far. -/
structure Sofar where
  min_t : ℚ
  max_t : ℚ
  avg_t : ℚ

/-- The loop body that takes in a time. -/
def Sofar.take (sofar : Sofar) (time : ℚ) : Sofar where
  min_t := if sofar.min_t > time then time else sofar.min_t
  max_t := if sofar.max_t < time then time else sofar.max_t
  avg_t := sofar.avg_t + time

/-- The figures of a function, from its times. -/
def rowOf (times : List ℚ) : Row :=
  let sofar := times.foldl Sofar.take ⟨times.headD 0, times.headD 0, 0⟩
  { best_rate := Number.quotient (2 * STREAM_ARRAY_SIZE * sizeofDouble) (sofar.min_t * 1000000)
    avg_t := sofar.avg_t / NTIMES
    min_t := sofar.min_t
    max_t := sofar.max_t }

/-- The check with its array. -/
def measure (array : Buffer) : BandProg Unit := do
  clear array
  let read ← timePasses (pass array .Read)
  let write ← timePasses (pass array .Write)
  let copy ← timePasses (pass array .Copy)
  printf .header
  printf (.row .Read (rowOf read))
  printf (.row .Write (rowOf write))
  printf (.row .Copy (rowOf copy))
  free array

/-- The check; it does not look whether the array could be allocated. -/
def memoryBandWidthCheck : BandProg Unit := do
  let array ← malloc (STREAM_ARRAY_SIZE * sizeofDouble)
  match array with
  | none => Prog.stop .nullPointer
  | some array => measure array

/-- The contents of the arrays, how often the clock was read, and the printed lines. -/
structure Machine where
  cells : Buffer → ℕ → ℚ
  reads : ℕ
  printed : List BandLine

/-- A machine with memory for the array, and a clock. -/
def handler (time : ℕ → Cpu.Timeval) : Handler BandCalls Machine where
  answer
    | .malloc _, machine => (some .heap, machine)
    | .free _, machine => ((), machine)
    | .load buffer i, machine => (machine.cells buffer i, machine)
    | .store buffer i value, machine =>
      ((), { machine with
        cells := Function.update machine.cells buffer (Function.update (machine.cells buffer) i value) })
    | .assign _, machine => ((), machine)
    | .gettimeofday, machine => (time machine.reads, { machine with reads := machine.reads + 1 })
    | .printf line, machine => ((), { machine with printed := machine.printed ++ [line] })

/-- A load or a store of an element. -/
def isAccess : BandCall → Bool
  | .load _ _ => true
  | .store _ _ _ => true
  | _ => false

/-- The number of elements that a program loads and stores. -/
def accesses (time : ℕ → Cpu.Timeval) (program : BandProg Unit) (machine : Machine) : ℕ :=
  (program.trace (handler time) machine).countP fun step => isAccess step.request

section Runs

variable (time : ℕ → Cpu.Timeval)

/-- A program that returns, changes the contents of the arrays at most, and makes a given number of
accesses. -/
structure Steady (program : BandProg Unit) (count : ℕ) : Prop where
  returns : ∀ machine, ∃ cells,
    program.run (handler time) machine = (.ok (), ⟨cells, machine.reads, machine.printed⟩)
  counts : ∀ machine, accesses time program machine = count

/-- A loop makes the accesses of its body in every round. -/
theorem steady_forM {β : Type} {body : β → BandProg Unit} {count : ℕ} (hbody : ∀ i, Steady time (body i) count)
    (values : List β) : Steady time (forM values body) (values.length * count) := by
  induction values with
  | nil => exact ⟨fun machine => ⟨machine.cells, rfl⟩, fun _ => (Nat.zero_mul count).symm⟩
  | cons i rest ih =>
    constructor
    · intro machine
      obtain ⟨cells, hfirst⟩ := (hbody i).returns machine
      obtain ⟨cells', hrest⟩ := ih.returns ⟨cells, machine.reads, machine.printed⟩
      refine ⟨cells', ?_⟩
      rw [List.forM_cons, Prog.run_bind_of_ok _ _ hfirst, hrest]
    · intro machine
      obtain ⟨cells, hfirst⟩ := (hbody i).returns machine
      have hcount := (hbody i).counts machine
      have hcounts := ih.counts ⟨cells, machine.reads, machine.printed⟩
      unfold accesses at hcount hcounts ⊢
      rw [List.forM_cons, Prog.trace_bind_of_ok _ _ hfirst, List.countP_append, hcount, hcounts, List.length_cons,
        Nat.succ_mul, Nat.add_comm]

/-- The number of accesses for each element. -/
def perElement : Label → ℕ
  | .Read => 1
  | .Write => 1
  | .Copy => 2

/-- Reading and writing make one access for each element, and copying two. -/
theorem steady_pass (array : Buffer) (label : Label) :
    Steady time (pass array label) (STREAM_ARRAY_SIZE * perElement label) := by
  rw [← List.length_range (n := STREAM_ARRAY_SIZE)]
  cases label with
  | Read => exact steady_forM time (fun i => ⟨fun machine => ⟨_, rfl⟩, fun _ => rfl⟩) _
  | Write => exact steady_forM time (fun i => ⟨fun machine => ⟨_, rfl⟩, fun _ => rfl⟩) _
  | Copy => exact steady_forM time (fun i => ⟨fun machine => ⟨_, rfl⟩, fun _ => rfl⟩) _

/-- The initialization stores to two arrays. -/
theorem steady_clear (array : Buffer) : Steady time (clear array) (STREAM_ARRAY_SIZE * 2) := by
  rw [← List.length_range (n := STREAM_ARRAY_SIZE)]
  exact steady_forM time (fun i => ⟨fun machine => ⟨_, rfl⟩, fun _ => rfl⟩) _

/-- The time between a reading of the clock and the next one. -/
def elapsed (reading : ℕ) : ℚ := seconds (time (reading + 1)) - seconds (time reading)

/-- A timed pass reads the clock before and after the function. -/
theorem run_timePass {function : BandProg Unit} {count : ℕ} (hsteady : Steady time function count)
    (machine : Machine) :
    ∃ cells, (timePass function).run (handler time) machine =
      (.ok (elapsed time machine.reads), ⟨cells, machine.reads + 2, machine.printed⟩) := by
  obtain ⟨cells, hrun⟩ := hsteady.returns ⟨machine.cells, machine.reads + 1, machine.printed⟩
  refine ⟨cells, ?_⟩
  change (function >>= fun _ => timeCheck >>= fun finish => pure (finish - seconds (time machine.reads))).run
    (handler time) ⟨machine.cells, machine.reads + 1, machine.printed⟩ = _
  rw [Prog.run_bind_of_ok _ _ hrun]
  rfl

/-- The times of twenty passes are those between successive pairs of readings. -/
theorem run_timePasses {function : BandProg Unit} {count : ℕ} (hsteady : Steady time function count)
    (machine : Machine) :
    ∃ cells, (timePasses function).run (handler time) machine =
      (.ok ((List.range NTIMES).map fun k => elapsed time (machine.reads + 2 * k)),
        ⟨cells, machine.reads + 2 * NTIMES, machine.printed⟩) := by
  rw [timePasses]
  induction NTIMES with
  | zero => exact ⟨machine.cells, rfl⟩
  | succ n ih =>
    obtain ⟨cells, hfirst⟩ := ih
    obtain ⟨cells', hlast⟩ := run_timePass time hsteady ⟨cells, machine.reads + 2 * n, machine.printed⟩
    refine ⟨cells', ?_⟩
    rw [List.range_succ, List.foldlM_append, Prog.run_bind_of_ok _ _ hfirst, List.foldlM_cons, bind_assoc,
      Prog.run_bind_of_ok _ _ hlast, List.map_append]
    rfl

/-- How often the clock has been read before the first pass of a function. -/
def firstReading : Label → ℕ
  | .Read => 0
  | .Write => 2 * NTIMES
  | .Copy => 4 * NTIMES

/-- The times measured for a function: each of its passes lies between two readings. -/
def timesOf (label : Label) : List ℚ := (List.range NTIMES).map fun k => elapsed time (firstReading label + 2 * k)

/-- Every function is timed twenty times. -/
theorem length_timesOf (label : Label) : (timesOf time label).length = NTIMES := by
  rw [timesOf, List.length_map, List.length_range]

/-- The passes of a function give its times. -/
theorem run_timesOf (label : Label) (machine : Machine) (hreads : machine.reads = firstReading label) :
    ∃ cells, (timePasses (pass .heap label)).run (handler time) machine =
      (.ok (timesOf time label), ⟨cells, firstReading label + 2 * NTIMES, machine.printed⟩) := by
  obtain ⟨cells, hrun⟩ := run_timePasses time (steady_pass time .heap label) machine
  rw [hreads] at hrun
  exact ⟨cells, hrun⟩

/-- With its array allocated, the check measures. -/
theorem run_measure (machine : Machine) :
    memoryBandWidthCheck.run (handler time) machine = (measure .heap).run (handler time) machine := by
  rw [memoryBandWidthCheck, malloc, Prog.perform_bind, Prog.run_call]
  rfl

/-- The check prints a row for each function, with the figures of this function's times. -/
theorem run_memoryBandWidthCheck (cells : Buffer → ℕ → ℚ) :
    ∃ last, memoryBandWidthCheck.run (handler time) ⟨cells, 0, []⟩ =
      (.ok (), ⟨last, firstReading .Copy + 2 * NTIMES, [.header, .row .Read (rowOf (timesOf time .Read)),
        .row .Write (rowOf (timesOf time .Write)), .row .Copy (rowOf (timesOf time .Copy))]⟩) := by
  obtain ⟨cleared, hclear⟩ := (steady_clear time .heap).returns ⟨cells, 0, []⟩
  obtain ⟨cells₁, hread⟩ := run_timesOf time .Read ⟨cleared, 0, []⟩ rfl
  obtain ⟨cells₂, hwrite⟩ := run_timesOf time .Write ⟨cells₁, firstReading .Read + 2 * NTIMES, []⟩ rfl
  obtain ⟨cells₃, hcopy⟩ := run_timesOf time .Copy ⟨cells₂, firstReading .Write + 2 * NTIMES, []⟩ rfl
  refine ⟨cells₃, ?_⟩
  rw [run_measure, measure, Prog.run_bind_of_ok _ _ hclear, Prog.run_bind_of_ok _ _ hread,
    Prog.run_bind_of_ok _ _ hwrite, Prog.run_bind_of_ok _ _ hcopy]
  rfl

end Runs

section Figures

/-- The loop takes in all times. -/
theorem foldl_take (times : List ℚ) (sofar : Sofar) :
    times.foldl Sofar.take sofar = ⟨times.foldl Statistics.lesser sofar.min_t,
      times.foldl Statistics.greater sofar.max_t, sofar.avg_t + times.sum⟩ := by
  induction times generalizing sofar with
  | nil => rw [List.sum_nil, add_zero]; rfl
  | cons time times ih =>
    rw [List.foldl_cons, ih, List.foldl_cons, List.foldl_cons, List.sum_cons, ← add_assoc]
    rfl

/-- What the row of a function is to show of its times: the least, the greatest, and their mean. -/
structure TimesRight (times : List ℚ) (row : Row) : Prop where
  least : IsLeast {time | time ∈ times} row.min_t
  greatest : IsGreatest {time | time ∈ times} row.max_t
  mean : row.avg_t = Statistics.mean times
  between : row.min_t ≤ row.avg_t ∧ row.avg_t ≤ row.max_t

/-- What the whole row is to show: the times, and the bytes that a pass transfers in the least time, in
units of 10^6 bytes per second. -/
structure RowRight (times : List ℚ) (bytes : ℕ) (row : Row) : Prop extends TimesRight times row where
  rate : row.best_rate = .finite (bytes / row.min_t / 10 ^ 6)

/-- A list of measured times begins with one of them. -/
theorem exists_first {times : List ℚ} (hlength : times.length = NTIMES) : ∃ first rest, times = first :: rest :=
  List.exists_cons_of_length_eq_add_one hlength

/-- The first time, taken in twice, makes no difference. -/
theorem setOf_mem_cons_self (first : ℚ) (rest : List ℚ) :
    {time | time ∈ first :: first :: rest} = {time | time ∈ first :: rest} := by
  ext time
  exact List.mem_cons.trans (or_iff_right_of_imp fun h => List.mem_cons.mpr (.inl h))

section Times

variable {times : List ℚ} (hlength : times.length = NTIMES)

include hlength

/-- The least time of a row is right. -/
theorem rowOf_least : IsLeast {time | time ∈ times} (rowOf times).min_t := by
  obtain ⟨first, rest, rfl⟩ := exists_first hlength
  rw [rowOf, foldl_take, ← setOf_mem_cons_self]
  exact Statistics.isLeast_foldl_lesser first (first :: rest)

/-- The greatest time of a row is right. -/
theorem rowOf_greatest : IsGreatest {time | time ∈ times} (rowOf times).max_t := by
  obtain ⟨first, rest, rfl⟩ := exists_first hlength
  rw [rowOf, foldl_take, ← setOf_mem_cons_self]
  exact Statistics.isGreatest_foldl_greater first (first :: rest)

/-- The average of a row is the mean. -/
theorem rowOf_mean : (rowOf times).avg_t = Statistics.mean times := by
  rw [rowOf, foldl_take, Statistics.mean, hlength]
  exact congrArg (· / (NTIMES : ℚ)) (zero_add times.sum)

/-- The average of a row lies between the least and the greatest time. -/
theorem rowOf_between :
    (rowOf times).min_t ≤ (rowOf times).avg_t ∧ (rowOf times).avg_t ≤ (rowOf times).max_t := by
  obtain ⟨first, rest, hfirst⟩ := exists_first hlength
  have hne : times ≠ [] := by
    rw [hfirst]
    exact List.cons_ne_nil first rest
  rw [rowOf_mean hlength]
  exact Statistics.mean_mem_bounds hne (fun time htime => (rowOf_least hlength).2 htime)
    fun time htime => (rowOf_greatest hlength).2 htime

/-- The times of a row are right. -/
theorem timesRight_rowOf : TimesRight times (rowOf times) :=
  ⟨rowOf_least hlength, rowOf_greatest hlength, rowOf_mean hlength, rowOf_between hlength⟩

/-- The least of positive times is positive. -/
theorem rowOf_min_pos (hpositive : ∀ time ∈ times, 0 < time) : 0 < (rowOf times).min_t :=
  hpositive _ (rowOf_least hlength).1

/-- The divisor of the best rate is not zero. -/
theorem rowOf_divisor_ne_zero (hpositive : ∀ time ∈ times, 0 < time) : (rowOf times).min_t * 1000000 ≠ 0 :=
  mul_ne_zero (rowOf_min_pos hlength hpositive).ne' (by norm_num)

/-- The best rate of a row is that of two accesses for each element. -/
theorem rowOf_rate (hpositive : ∀ time ∈ times, 0 < time) :
    (rowOf times).best_rate =
      .finite (2 * STREAM_ARRAY_SIZE * sizeofDouble / ((rowOf times).min_t * 1000000)) :=
  if_pos (rowOf_divisor_ne_zero hlength hpositive)

/-- The best rate of a row is that of its function exactly if a pass of the function makes two accesses
for each element. -/
theorem rowOf_rate_iff (hpositive : ∀ time ∈ times, 0 < time) (count : ℕ) :
    (rowOf times).best_rate =
        .finite ((sizeofDouble * (STREAM_ARRAY_SIZE * count) : ℕ) / (rowOf times).min_t / 10 ^ 6) ↔
      count = 2 := by
  have hdivisor := rowOf_divisor_ne_zero hlength hpositive
  have hsize : (sizeofDouble * STREAM_ARRAY_SIZE : ℚ) ≠ 0 := by
    unfold STREAM_ARRAY_SIZE sizeofDouble
    norm_num
  have hunit : (10 : ℚ) ^ 6 = 1000000 := by norm_num
  have hformula : (2 * STREAM_ARRAY_SIZE * sizeofDouble : ℚ) = sizeofDouble * STREAM_ARRAY_SIZE * 2 := by ring
  rw [rowOf_rate hlength hpositive, Number.finite.injEq, div_div, hunit, div_left_inj' hdivisor, hformula,
    Nat.cast_mul, Nat.cast_mul, ← mul_assoc, mul_right_inj' hsize, eq_comm]
  exact Nat.cast_inj

/-- The figures of a row are right exactly if a pass of its function makes two accesses for each
element. -/
theorem rowRight_rowOf_iff (hpositive : ∀ time ∈ times, 0 < time) (count : ℕ) :
    RowRight times (sizeofDouble * (STREAM_ARRAY_SIZE * count)) (rowOf times) ↔ count = 2 := by
  rw [← rowOf_rate_iff hlength hpositive count]
  exact ⟨RowRight.rate, fun hrate => ⟨timesRight_rowOf hlength, hrate⟩⟩

end Times

end Figures

section Verdict

variable (time : ℕ → Cpu.Timeval)

/-- The bytes that one pass of a function transfers, counted on a run of it. -/
def bytesOfPass (label : Label) (machine : Machine) : ℕ :=
  sizeofDouble * accesses time (pass .heap label) machine

/-- For all clocks that show positive times, the check prints a row for each function in which the
least, the greatest and the mean time are right, but the row as a whole is right if and only if it
is that of the copying function: the rates of the other two are not those of their loops. -/
theorem rows_right_iff (cells : Buffer → ℕ → ℚ) (hpositive : ∀ label, ∀ t ∈ timesOf time label, 0 < t) :
    ∃ rows : Label → Row,
      (memoryBandWidthCheck.run (handler time) ⟨cells, 0, []⟩).1 = .ok () ∧
      (memoryBandWidthCheck.run (handler time) ⟨cells, 0, []⟩).2.printed =
        [.header, .row .Read (rows .Read), .row .Write (rows .Write), .row .Copy (rows .Copy)] ∧
      (∀ label, TimesRight (timesOf time label) (rows label)) ∧
      ∀ label machine, RowRight (timesOf time label) (bytesOfPass time label machine) (rows label) ↔
        label = .Copy := by
  obtain ⟨last, hrun⟩ := run_memoryBandWidthCheck time cells
  refine ⟨fun label => rowOf (timesOf time label), by rw [hrun], by rw [hrun],
    fun label => timesRight_rowOf (length_timesOf time label), fun label machine => ?_⟩
  rw [bytesOfPass, (steady_pass time .heap label).counts machine,
    rowRight_rowOf_iff (length_timesOf time label) (hpositive label)]
  cases label with
  | Read => exact iff_of_false (by decide) nofun
  | Write => exact iff_of_false (by decide) nofun
  | Copy => exact iff_of_true rfl rfl

end Verdict

/-- A clock that is read once a second. -/
def everySecond (reading : ℕ) : Cpu.Timeval := ⟨Int.ofNat reading, ⟨0, by decide⟩⟩

/-- Every loop takes a second. -/
theorem elapsed_everySecond (reading : ℕ) : elapsed everySecond reading = 1 := by
  rw [elapsed, seconds, seconds]
  change ((reading + 1 : ℕ) : ℤ) + ((0 : ℕ) : ℚ) * (1 / 1000000) -
    ((reading : ℤ) + ((0 : ℕ) : ℚ) * (1 / 1000000)) = 1
  push_cast
  ring

/-- With this clock all passes take a second. -/
theorem timesOf_everySecond_pos (label : Label) : ∀ t ∈ timesOf everySecond label, 0 < t := by
  intro t ht
  obtain ⟨k, -, rfl⟩ := List.mem_map.mp ht
  rw [elapsed_everySecond]
  exact one_pos

/-- The rates with this clock. -/
theorem rows_right_everySecond :
    ∃ rows : Label → Row,
      (memoryBandWidthCheck.run (handler everySecond) ⟨fun _ _ => 0, 0, []⟩).1 = .ok () ∧
      (memoryBandWidthCheck.run (handler everySecond) ⟨fun _ _ => 0, 0, []⟩).2.printed =
        [.header, .row .Read (rows .Read), .row .Write (rows .Write), .row .Copy (rows .Copy)] ∧
      (∀ label, TimesRight (timesOf everySecond label) (rows label)) ∧
      ∀ label machine, RowRight (timesOf everySecond label) (bytesOfPass everySecond label machine) (rows label) ↔
        label = .Copy :=
  rows_right_iff everySecond (fun _ _ => 0) timesOf_everySecond_pos

/-- With this clock the row of the reading function shows 1600 units and not 800. -/
theorem read_rate_wrong :
    ¬∀ rows : Label → Row,
      (memoryBandWidthCheck.run (handler everySecond) ⟨fun _ _ => 0, 0, []⟩).2.printed =
        [.header, .row .Read (rows .Read), .row .Write (rows .Write), .row .Copy (rows .Copy)] →
      ∀ label, RowRight (timesOf everySecond label)
        (bytesOfPass everySecond label ⟨fun _ _ => 0, 0, []⟩) (rows label) := by
  intro hall
  obtain ⟨last, hrun⟩ := run_memoryBandWidthCheck everySecond fun _ _ => 0
  have hread := hall (fun label => rowOf (timesOf everySecond label)) (by rw [hrun]) .Read
  rw [bytesOfPass, (steady_pass everySecond .heap .Read).counts,
    rowRight_rowOf_iff (length_timesOf everySecond .Read) (timesOf_everySecond_pos .Read)] at hread
  cases hread

end Maestro.Memory.BandWidth
