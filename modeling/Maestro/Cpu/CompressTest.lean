import Maestro.Cpu.CpuTest
import Maestro.Effect.Loop

/-!
# The compression test

`compress_test.c` fills a buffer with random bytes, compresses it with zlib, decompresses the
result, and compares. The two directions are one function up to the calls of zlib. Sizes are
`size_t`; the counters of a `z_stream` have 32 bits, and the assignment to them drops the rest.

zlib, memory, the random numbers and the clock belong to the environment.
-/

namespace Maestro.Cpu.Compress

open Effect Text

abbrev Byte := BitVec 8

def Z_OK : ℤ := 0
def Z_STREAM_END : ℤ := 1
def Z_FINISH : ℤ := 4
def Z_DEFAULT_COMPRESSION : ℤ := -1
def EXIT_SUCCESS : ℤ := 0
def EXIT_FAILURE : ℤ := 1

/-- The size of the test data; proofs do not unroll it. -/
@[irreducible] def DATA_SIZE : BitVec 64 := 10 * 1024 * 1024

/-- The fields of a stream that the program uses; a pointer is the memory from there on. -/
structure ZStream where
  next_in : List Byte
  avail_in : BitVec 32
  next_out : List Byte
  avail_out : BitVec 32
  total_out : BitVec 64

/-- A stream filled with zeros. -/
def zeroed : ZStream := ⟨[], 0#32, [], 0#32, 0#64⟩

/-- What `deflate` or `inflate` leaves: its status, the bytes written from `next_out` on, and the
new `total_out`. -/
structure Coded where
  status : ℤ
  written : List Byte
  total_out : BitVec 64

/-- A block of memory. -/
structure Memory where
  pointer : ℕ
  bytes : List Byte

/-- The printed lines. -/
inductive CompressLine where
  | deflateInitFailed
  | deflateFailed
  | inflateInitFailed
  | inflateFailed
  | allocationFailed
  | compressionTime (seconds : ℚ)
  | decompressionTime (seconds : ℚ)
  | dataMismatch
deriving DecidableEq

/-- The printed text. -/
def CompressLine.text : CompressLine → String
  | deflateInitFailed => "deflateInit failed\n"
  | deflateFailed => "deflate failed\n"
  | inflateInitFailed => "inflateInit failed\n"
  | inflateFailed => "inflate failed\n"
  | allocationFailed => "Memory allocation failed\n"
  | compressionTime seconds => "Compression time: " ++ (Number.finite seconds).text ++ " seconds\n"
  | decompressionTime seconds => "Decompression time: " ++ (Number.finite seconds).text ++ " seconds\n"
  | dataMismatch => "Data mismatch\n"

/-- The calls of the program. -/
inductive CompressCall where
  | deflateInit (stream : ZStream) (level : ℤ)
  | deflate (stream : ZStream) (flush : ℤ)
  | deflateEnd
  | inflateInit (stream : ZStream)
  | inflate (stream : ZStream) (flush : ℤ)
  | inflateEnd
  | compressBound (size : BitVec 64)
  | malloc (size : BitVec 64)
  | free (pointer : ℕ)
  | rand
  | clock
  | fprintf (line : CompressLine)
  | printf (line : CompressLine)

/-- The functions of zlib are answered with their status; `rand` is not negative, and `malloc` may
fail. -/
abbrev CompressCalls : Interface where
  Call := CompressCall
  Reply
    | .deflateInit _ _ => ℤ
    | .deflate _ _ => Coded
    | .deflateEnd => ℤ
    | .inflateInit _ => ℤ
    | .inflate _ _ => Coded
    | .inflateEnd => ℤ
    | .compressBound _ => BitVec 64
    | .malloc _ => Option Memory
    | .free _ => Unit
    | .rand => ℕ
    | .clock => ℤ
    | .fprintf _ => Unit
    | .printf _ => Unit

abbrev CompressProg (ε α : Type) := Prog CompressCalls ε α

section Calls

variable {ε : Type}

def deflateInit (level : ℤ) (stream : ZStream) : CompressProg ε ℤ :=
  Prog.perform (I := CompressCalls) (.deflateInit stream level)

def deflate (stream : ZStream) (flush : ℤ) : CompressProg ε Coded :=
  Prog.perform (I := CompressCalls) (.deflate stream flush)

def deflateEnd : CompressProg ε ℤ := Prog.perform (I := CompressCalls) .deflateEnd

def inflateInit (stream : ZStream) : CompressProg ε ℤ :=
  Prog.perform (I := CompressCalls) (.inflateInit stream)

def inflate (stream : ZStream) (flush : ℤ) : CompressProg ε Coded :=
  Prog.perform (I := CompressCalls) (.inflate stream flush)

def inflateEnd : CompressProg ε ℤ := Prog.perform (I := CompressCalls) .inflateEnd

def compressBound (size : BitVec 64) : CompressProg ε (BitVec 64) :=
  Prog.perform (I := CompressCalls) (.compressBound size)

def malloc (size : BitVec 64) : CompressProg ε (Option Memory) :=
  Prog.perform (I := CompressCalls) (.malloc size)

def free (pointer : ℕ) : CompressProg ε Unit := Prog.perform (I := CompressCalls) (.free pointer)
def rand : CompressProg ε ℕ := Prog.perform (I := CompressCalls) .rand
def clock : CompressProg ε ℤ := Prog.perform (I := CompressCalls) .clock
def fprintf (line : CompressLine) : CompressProg ε Unit := Prog.perform (I := CompressCalls) (.fprintf line)
def printf (line : CompressLine) : CompressProg ε Unit := Prog.perform (I := CompressCalls) (.printf line)

end Calls

/-- Memory after some bytes were written from its start on. -/
def overwrite (memory written : List Byte) : List Byte := written ++ memory.drop written.length

/-- The stream before the call that does the work; the two sizes are cut to 32 bits. -/
def loaded (source : List Byte) (source_size : BitVec 64) (dest : List Byte) (dest_size : BitVec 64) : ZStream :=
  { zeroed with
    next_in := source
    avail_in := source_size.setWidth 32
    next_out := dest
    avail_out := dest_size.setWidth 32 }

/-- The two directions, which differ in the calls of zlib and in the lines for a failure: the new
contents of the destination, and its size. -/
def codeData (init : ZStream → CompressProg Exit ℤ) (code : ZStream → ℤ → CompressProg Exit Coded)
    (finish : CompressProg Exit ℤ) (initFailed codeFailed : CompressLine) (source : List Byte)
    (source_size : BitVec 64) (dest : List Byte) (dest_size : BitVec 64) :
    CompressProg Exit (List Byte × BitVec 64) := do
  let status ← init zeroed
  if status ≠ Z_OK then do
    fprintf initFailed
    Prog.exit EXIT_FAILURE
  else do
    let coded ← code (loaded source source_size dest dest_size) Z_FINISH
    if coded.status ≠ Z_STREAM_END then do
      fprintf codeFailed
      Prog.exit EXIT_FAILURE
    else do
      let _ ← finish
      return (overwrite dest coded.written, coded.total_out)

def compress_data : List Byte → BitVec 64 → List Byte → BitVec 64 → CompressProg Exit (List Byte × BitVec 64) :=
  codeData (deflateInit Z_DEFAULT_COMPRESSION) deflate deflateEnd .deflateInitFailed .deflateFailed

def decompress_data : List Byte → BitVec 64 → List Byte → BitVec 64 → CompressProg Exit (List Byte × BitVec 64) :=
  codeData inflateInit inflate inflateEnd .inflateInitFailed .inflateFailed

/-- The loop body of `generate_random_data`. -/
def fillByte (data : List Byte) (i : ℕ) : CompressProg Exit (List Byte) := do
  let value ← rand
  return data.set i (BitVec.ofNat 8 (value % 256))

/-- Fill a buffer with random bytes. -/
def generate_random_data (data : List Byte) (size : BitVec 64) : CompressProg Exit (List Byte) :=
  (List.range size.toNat).foldlM fillByte data

/-- The first difference of two blocks, if there is one in the first `n` bytes. -/
def memcmp : ℕ → List Byte → List Byte → ℤ
  | n + 1, a :: first, b :: second => if a = b then memcmp n first second else a.toNat - b.toNat
  | _, _, _ => 0

/-- The time between two values of `clock`, in seconds. -/
def secondsBetween (start_time end_time : ℤ) : ℚ := (end_time - start_time : ℤ) / CLOCKS_PER_SEC

/-- The end of the test: the data must be the same. -/
def verify (source_data compressed_data decompressed_data : Memory) (source decompressed : List Byte)
    (decompressed_size : BitVec 64) : CompressProg Exit ℤ :=
  if decompressed_size ≠ DATA_SIZE ∨ memcmp DATA_SIZE.toNat source decompressed ≠ 0 then do
    fprintf .dataMismatch
    return EXIT_FAILURE
  else do
    free source_data.pointer
    free compressed_data.pointer
    free decompressed_data.pointer
    return EXIT_SUCCESS

/-- The test with its buffers allocated. -/
def measure (source_data compressed_data decompressed_data : Memory) : CompressProg Exit ℤ := do
  let source ← generate_random_data source_data.bytes DATA_SIZE
  let compressed_size ← compressBound DATA_SIZE
  let start_time ← clock
  let compressed ← compress_data source DATA_SIZE compressed_data.bytes compressed_size
  let end_time ← clock
  printf (.compressionTime (secondsBetween start_time end_time))
  let start_time ← clock
  let decompressed ← decompress_data compressed.1 compressed.2 decompressed_data.bytes DATA_SIZE
  let end_time ← clock
  printf (.decompressionTime (secondsBetween start_time end_time))
  verify source_data compressed_data decompressed_data source decompressed.1 decompressed.2

/-- The program. -/
def main : CompressProg Exit ℤ := do
  let source_data ← malloc DATA_SIZE
  let bound ← compressBound DATA_SIZE
  let compressed_data ← malloc bound
  let decompressed_data ← malloc DATA_SIZE
  match source_data, compressed_data, decompressed_data with
  | some source_data, some compressed_data, some decompressed_data =>
    measure source_data compressed_data decompressed_data
  | _, _, _ =>
    fprintf .allocationFailed
    return EXIT_FAILURE

end Maestro.Cpu.Compress
