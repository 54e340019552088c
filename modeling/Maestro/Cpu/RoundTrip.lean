import Maestro.Cpu.CompressTest

/-!
# The round trip of the compression test

zlib is assumed to be correct for the 32-bit counters of a stream, so what is compressed is what
is left of the size after the assignment to `avail_in`. The main result says for which sizes the
round trip restores the source, and the test itself is one of these cases.
-/

namespace Maestro.Cpu.Compress

open Effect

/-- The `avail_in` bytes at `next_in`. -/
def ZStream.input (stream : ZStream) : List Byte := stream.next_in.take stream.avail_in.toNat

/-- At the end of the stream the written bytes encode the whole input. -/
def EncodesInput (decode : List Byte → Option (List Byte)) (stream : ZStream) (coded : Coded) : Prop :=
  coded.status = Z_STREAM_END → decode coded.written = some stream.input ∧
    coded.written.length ≤ stream.avail_out.toNat ∧ coded.total_out.toNat = coded.written.length

/-- The end of the stream is reached if the output fits, and then the output is written. -/
def WritesOutput (output : List Byte) (stream : ZStream) (coded : Coded) : Prop :=
  (coded.status = Z_STREAM_END ↔ output.length ≤ stream.avail_out.toNat) ∧
    (coded.status = Z_STREAM_END → coded.written = output ∧ coded.total_out.toNat = output.length)

/-- zlib does what its documentation says of a fresh stream that is finished in one call; `decode`
is the meaning of its format. -/
structure CorrectZlib {σ : Type} (h : Handler CompressCalls σ) (decode : List Byte → Option (List Byte)) :
    Prop where
  deflate : ∀ (s : σ) (stream : ZStream), stream.total_out = 0#64 →
    (h.answer (.deflateInit zeroed Z_DEFAULT_COMPRESSION) s).1 = Z_OK →
      EncodesInput decode stream
        (h.answer (.deflate stream Z_FINISH) (h.answer (.deflateInit zeroed Z_DEFAULT_COMPRESSION) s).2).1
  inflate : ∀ (s : σ) (stream : ZStream) (output : List Byte), stream.total_out = 0#64 →
    (h.answer (.inflateInit zeroed) s).1 = Z_OK → decode stream.input = some output →
      WritesOutput output stream
        (h.answer (.inflate stream Z_FINISH) (h.answer (.inflateInit zeroed) s).2).1

/-- A block of memory with its size. -/
structure Buffer where
  size : BitVec 64
  bytes : List Byte
  length_bytes : bytes.length = size.toNat

/-- Writing all of a block of memory leaves nothing of it. -/
theorem overwrite_of_length_eq {memory written : List Byte} (hlength : memory.length = written.length) :
    overwrite memory written = written := by
  rw [overwrite, ← hlength, List.drop_length, List.append_nil]

/-- What was written is read back. -/
theorem take_overwrite (memory written : List Byte) : (overwrite memory written).take written.length = written :=
  List.take_left

/-- The size of the data fits 32 bits. -/
theorem DATA_SIZE_lt : DATA_SIZE.toNat < 2 ^ 32 := by
  unfold DATA_SIZE
  decide

/-- A block is equal to itself. -/
theorem memcmp_self (n : ℕ) (bytes : List Byte) : memcmp n bytes bytes = 0 := by
  induction n generalizing bytes with
  | zero => cases bytes <;> rfl
  | succ n ih =>
    cases bytes with
    | nil => rfl
    | cons a rest =>
      rw [memcmp, if_pos rfl]
      exact ih rest

section Run

variable {σ : Type} (h : Handler CompressCalls σ)

/-- A direction returns if the stream can be set up and comes to its end in the call; it returns
what the call has written. -/
theorem codeData_returns_iff {init : ZStream → CompressProg Exit ℤ}
    {code : ZStream → ℤ → CompressProg Exit Coded} {finish : CompressProg Exit ℤ}
    {initFailed codeFailed : CompressLine} {source dest : List Byte} {source_size dest_size : BitVec 64}
    {s s₁ s₂ s₃ : σ} {status ended : ℤ} {coded : Coded} {result : List Byte × BitVec 64}
    (hinit : (init zeroed).run h s = (.ok status, s₁))
    (hcode : (code (loaded source source_size dest dest_size) Z_FINISH).run h s₁ = (.ok coded, s₂))
    (hfinish : finish.run h s₂ = (.ok ended, s₃)) :
    ((codeData init code finish initFailed codeFailed source source_size dest dest_size).run h s).1 =
        .ok result ↔
      status = Z_OK ∧ coded.status = Z_STREAM_END ∧ result = (overwrite dest coded.written, coded.total_out) := by
  rw [codeData, Prog.run_bind_of_ok h s hinit]
  by_cases hstatus : status = Z_OK
  · rw [if_neg (not_not.mpr hstatus), Prog.run_bind_of_ok h s₁ hcode]
    by_cases hend : coded.status = Z_STREAM_END
    · rw [if_neg (not_not.mpr hend), Prog.run_bind_of_ok h s₂ hfinish]
      change Except.ok _ = Except.ok result ↔ _
      rw [Except.ok.injEq]
      exact ⟨fun heq => ⟨hstatus, hend, heq.symm⟩, fun hresult => hresult.2.2.symm⟩
    · rw [if_pos hend]
      exact iff_of_false nofun fun hresult => hend hresult.2.1
  · rw [if_pos hstatus]
    exact iff_of_false nofun fun hresult => hstatus hresult.1

/-- Filling a buffer keeps its length. -/
theorem length_generate_random_data {memory data : List Byte} {size : BitVec 64} {s s' : σ}
    (hrun : (generate_random_data memory size).run h s = (.ok data, s')) : data.length = memory.length := by
  rw [generate_random_data] at hrun
  generalize List.range size.toNat = indices at hrun
  induction indices generalizing memory s with
  | nil =>
    cases hrun
    rfl
  | cons i rest ih =>
    have hrest : (rest.foldlM fillByte (memory.set i (BitVec.ofNat 8 ((h.answer .rand s).1 % 256)))).run h
        (h.answer .rand s).2 = (.ok data, s') := hrun
    rw [ih hrest, List.length_set]

variable {h} {decode : List Byte → Option (List Byte)} (hcorrect : CorrectZlib h decode)

include hcorrect

/-- A compression that returns has encoded what is left of the size, in fewer than `2 ^ 32` bytes. -/
theorem encoded_of_compress_data {source dest : List Byte} {source_size dest_size size : BitVec 64}
    {compressed : List Byte} {s : σ}
    (hcompress : ((compress_data source source_size dest dest_size).run h s).1 = .ok (compressed, size)) :
    ∃ written, compressed = overwrite dest written ∧ size.toNat = written.length ∧
      written.length < 2 ^ 32 ∧ decode written = some (source.take (source_size.setWidth 32).toNat) := by
  obtain ⟨hinit, hend, hresult⟩ := (codeData_returns_iff h rfl rfl rfl).mp hcompress
  obtain ⟨hdecode, hroom, hsize⟩ := hcorrect.deflate s _ rfl hinit hend
  cases hresult
  exact ⟨_, rfl, hsize, lt_of_le_of_lt hroom (BitVec.isLt _), hdecode⟩

/-- Bytes that encode something are decompressed if and only if the output fits into what is left of
the capacity. -/
theorem decompress_data_of_encoded (rest dest : List Byte) (dest_size : BitVec 64) {written output : List Byte}
    {size : BitVec 64} {s : σ}
    (hmemory : (h.answer (.inflateInit zeroed) s).1 = Z_OK) (hsize : size.toNat = written.length)
    (hlength : written.length < 2 ^ 32) (hdecode : decode written = some output)
    (hfits : output.length ≤ (dest_size.setWidth 32).toNat) :
    ∃ size', size'.toNat = output.length ∧
      ((decompress_data (overwrite rest written) size dest dest_size).run h s).1 =
        .ok (overwrite dest output, size') := by
  have hcount : (size.setWidth 32).toNat = written.length := by
    rw [BitVec.toNat_setWidth, hsize, Nat.mod_eq_of_lt hlength]
  have hinput : (loaded (overwrite rest written) size dest dest_size).input = written := by
    change (overwrite rest written).take (size.setWidth 32).toNat = written
    rw [hcount, take_overwrite]
  obtain ⟨hend, hwrites⟩ := hcorrect.inflate s (loaded (overwrite rest written) size dest dest_size) output rfl
    hmemory (hinput.symm ▸ hdecode)
  obtain ⟨hwritten, htotal⟩ := hwrites (hend.mpr hfits)
  refine ⟨_, htotal, (codeData_returns_iff h rfl rfl rfl).mpr ⟨hmemory, hend.mpr hfits, ?_⟩⟩
  exact Prod.ext (congrArg (overwrite dest) hwritten.symm) rfl

/-- The decompression restores as many bytes as are left of the size. -/
theorem decompress_of_compress (source restored : Buffer) (hroom : restored.size = source.size)
    {dest compressed : List Byte} {dest_size size : BitVec 64} {s s' : σ}
    (hcompress : ((compress_data source.bytes source.size dest dest_size).run h s).1 = .ok (compressed, size))
    (hmemory : (h.answer (.inflateInit zeroed) s').1 = Z_OK) :
    ∃ size', size'.toNat = source.size.toNat % 2 ^ 32 ∧
      ((decompress_data compressed size restored.bytes restored.size).run h s').1 =
        .ok (overwrite restored.bytes (source.bytes.take (source.size.toNat % 2 ^ 32)), size') := by
  obtain ⟨written, rfl, hsize, hlength, hdecode⟩ := encoded_of_compress_data hcorrect hcompress
  have hleft : (source.size.setWidth 32).toNat = source.size.toNat % 2 ^ 32 := BitVec.toNat_setWidth ..
  have htake : (source.bytes.take (source.size.toNat % 2 ^ 32)).length = source.size.toNat % 2 ^ 32 := by
    rw [List.length_take, source.length_bytes]
    exact Nat.min_eq_left (Nat.mod_le _ _)
  rw [hleft] at hdecode
  obtain ⟨size', hsize', hrun⟩ := decompress_data_of_encoded hcorrect dest restored.bytes restored.size
    hmemory hsize hlength hdecode (by rw [htake, hroom, hleft])
  exact ⟨size', hsize'.trans htake, hrun⟩

/-- A size below `2 ^ 32` is restored with all of its bytes. -/
theorem restored_of_lt (source restored : Buffer) (hroom : restored.size = source.size)
    (hlt : source.size.toNat < 2 ^ 32) {dest compressed : List Byte} {dest_size size : BitVec 64} {s s' : σ}
    (hcompress : ((compress_data source.bytes source.size dest dest_size).run h s).1 = .ok (compressed, size))
    (hmemory : (h.answer (.inflateInit zeroed) s').1 = Z_OK) :
    ((decompress_data compressed size restored.bytes restored.size).run h s').1 =
      .ok (source.bytes, source.size) := by
  obtain ⟨size', hsize', hrun⟩ := decompress_of_compress hcorrect source restored hroom hcompress hmemory
  rw [Nat.mod_eq_of_lt hlt] at hsize' hrun
  have hsame : restored.bytes.length = source.bytes.length := by
    rw [restored.length_bytes, hroom, source.length_bytes]
  rw [hrun, ← source.length_bytes, List.take_length, overwrite_of_length_eq hsame, BitVec.eq_of_toNat_eq hsize']

/-- For every correct zlib, every source and every destination for which the compression returns: the
decompression into a buffer of the size of the source returns, sets this size and restores the source
if and only if the size is below `2 ^ 32`. -/
theorem round_trip_iff (source dest restored : Buffer) (hroom : restored.size = source.size)
    {compressed : List Byte} {size : BitVec 64} {s s' : σ}
    (hcompress : ((compress_data source.bytes source.size dest.bytes dest.size).run h s).1 = .ok (compressed, size))
    (hmemory : (h.answer (.inflateInit zeroed) s').1 = Z_OK) :
    ((decompress_data compressed size restored.bytes restored.size).run h s').1 = .ok (source.bytes, source.size) ↔
      source.size.toNat < 2 ^ 32 := by
  constructor
  · intro hsame
    obtain ⟨size', hsize', hrun⟩ := decompress_of_compress hcorrect source restored hroom hcompress hmemory
    rw [hrun, Except.ok.injEq, Prod.mk.injEq] at hsame
    rw [hsame.2] at hsize'
    rw [hsize']
    exact Nat.mod_lt _ (by decide)
  · intro hlt
    exact restored_of_lt hcorrect source restored hroom hlt hcompress hmemory

/-- The test itself never finds a mismatch: with its buffers allocated it succeeds, if it returns. -/
theorem measure_returns (hmemory : ∀ s, (h.answer (.inflateInit zeroed) s).1 = Z_OK)
    {source_data compressed_data decompressed_data : Memory}
    (hsource : source_data.bytes.length = DATA_SIZE.toNat)
    (hdecompressed : decompressed_data.bytes.length = DATA_SIZE.toNat) {value : ℤ} {s : σ}
    (hrun : ((measure source_data compressed_data decompressed_data).run h s).1 = .ok value) :
    value = EXIT_SUCCESS := by
  obtain ⟨source, s₁, hfill, hrun⟩ := Prog.run_of_bind_ok h s hrun
  have hlength : source.length = DATA_SIZE.toNat := (length_generate_random_data h hfill).trans hsource
  obtain ⟨compressed_size, s₂, -, hrun⟩ := Prog.run_of_bind_ok h s₁ hrun
  obtain ⟨start_time, s₃, -, hrun⟩ := Prog.run_of_bind_ok h s₂ hrun
  obtain ⟨⟨compressed, size⟩, s₄, hcompress, hrun⟩ := Prog.run_of_bind_ok h s₃ hrun
  obtain ⟨end_time, s₅, -, hrun⟩ := Prog.run_of_bind_ok h s₄ hrun
  obtain ⟨_, s₆, -, hrun⟩ := Prog.run_of_bind_ok h s₅ hrun
  obtain ⟨start_time, s₇, -, hrun⟩ := Prog.run_of_bind_ok h s₆ hrun
  obtain ⟨⟨decompressed, decompressed_size⟩, s₈, hdecompress, hrun⟩ := Prog.run_of_bind_ok h s₇ hrun
  obtain ⟨end_time, s₉, -, hrun⟩ := Prog.run_of_bind_ok h s₈ hrun
  obtain ⟨_, s₁₀, -, hrun⟩ := Prog.run_of_bind_ok h s₉ hrun
  have hrestored := restored_of_lt hcorrect ⟨DATA_SIZE, source, hlength⟩
    ⟨DATA_SIZE, decompressed_data.bytes, hdecompressed⟩ rfl DATA_SIZE_lt (congrArg Prod.fst hcompress) (hmemory s₇)
  cases hrestored.symm.trans (congrArg Prod.fst hdecompress)
  change ((verify source_data compressed_data decompressed_data source source DATA_SIZE).run h s₁₀).1 = _ at hrun
  have hsame : ¬(DATA_SIZE ≠ DATA_SIZE ∨ memcmp DATA_SIZE.toNat source source ≠ 0) := by
    rw [memcmp_self]
    simp
  rw [verify, if_neg hsame] at hrun
  cases hrun
  rfl

/-- The program fails only if memory runs out, or stops in zlib. -/
theorem main_returns (hmemory : ∀ s, (h.answer (.inflateInit zeroed) s).1 = Z_OK)
    (hmalloc : ∀ s size memory, (h.answer (.malloc size) s).1 = some memory → memory.bytes.length = size.toNat)
    {value : ℤ} {s : σ} (hrun : (main.run h s).1 = .ok value) :
    value = EXIT_SUCCESS ∨ ∃ s' size, (h.answer (.malloc size) s').1 = none := by
  obtain ⟨source_data, s₁, hsource, hrun⟩ := Prog.run_of_bind_ok h s hrun
  obtain ⟨bound, s₂, -, hrun⟩ := Prog.run_of_bind_ok h s₁ hrun
  obtain ⟨compressed_data, s₃, hcompressed, hrun⟩ := Prog.run_of_bind_ok h s₂ hrun
  obtain ⟨decompressed_data, s₄, hdecompressed, hrun⟩ := Prog.run_of_bind_ok h s₃ hrun
  have hsource := Except.ok.inj (congrArg Prod.fst hsource)
  have hcompressed := Except.ok.inj (congrArg Prod.fst hcompressed)
  have hdecompressed := Except.ok.inj (congrArg Prod.fst hdecompressed)
  cases source_data with
  | none => exact .inr ⟨_, _, hsource⟩
  | some source_data =>
    cases compressed_data with
    | none => exact .inr ⟨_, _, hcompressed⟩
    | some compressed_data =>
      cases decompressed_data with
      | none => exact .inr ⟨_, _, hdecompressed⟩
      | some decompressed_data =>
        exact .inl (measure_returns hcorrect hmemory (hmalloc _ _ _ hsource) (hmalloc _ _ _ hdecompressed) hrun)

end Run

def Z_BUF_ERROR : ℤ := -5

/-- Come to the end of the stream with these bytes, if the input is known and they fit. -/
def emit (known : Bool) (bytes : List Byte) (avail_out : BitVec 32) : Coded :=
  if known = true ∧ bytes.length ≤ avail_out.toNat then ⟨Z_STREAM_END, bytes, BitVec.ofNat 64 bytes.length⟩
  else ⟨Z_BUF_ERROR, [], 0#64⟩

/-- A zlib that knows one input and its code, and fails on all others. -/
def tableZlib (data code : List Byte) : Handler CompressCalls Unit where
  answer
    | .deflateInit _ _, s => (Z_OK, s)
    | .deflate stream _, s => (emit (stream.input == data) code stream.avail_out, s)
    | .deflateEnd, s => (Z_OK, s)
    | .inflateInit _, s => (Z_OK, s)
    | .inflate stream _, s => (emit (stream.input == code) data stream.avail_out, s)
    | .inflateEnd, s => (Z_OK, s)
    | .compressBound size, s => (size, s)
    | .malloc _, s => (none, s)
    | .free _, s => ((), s)
    | .rand, s => (0, s)
    | .clock, s => (0, s)
    | .fprintf _, s => ((), s)
    | .printf _, s => ((), s)

/-- The meaning of the one code. -/
def tableDecode (data code bytes : List Byte) : Option (List Byte) := if bytes = code then some data else none

/-- The end of the stream is reached with the bytes that fit. -/
theorem emit_of_fits {known : Bool} {bytes : List Byte} {avail_out : BitVec 32} (hknown : known = true)
    (hfits : bytes.length ≤ avail_out.toNat) :
    emit known bytes avail_out = ⟨Z_STREAM_END, bytes, BitVec.ofNat 64 bytes.length⟩ ∧
      (BitVec.ofNat 64 bytes.length).toNat = bytes.length := by
  have hlt := BitVec.isLt avail_out
  refine ⟨if_pos ⟨hknown, hfits⟩, ?_⟩
  rw [BitVec.toNat_ofNat, Nat.mod_eq_of_lt (by omega)]

/-- It is not reached otherwise. -/
theorem emit_end_iff {known : Bool} {bytes : List Byte} {avail_out : BitVec 32} :
    (emit known bytes avail_out).status = Z_STREAM_END ↔ known = true ∧ bytes.length ≤ avail_out.toNat := by
  by_cases hends : known = true ∧ bytes.length ≤ avail_out.toNat
  · rw [(emit_of_fits hends.1 hends.2).1]
    exact iff_of_true rfl hends
  · rw [emit, if_neg hends]
    exact iff_of_false (by decide) hends

/-- A zlib that knows one input is correct. -/
theorem correct_tableZlib (data code : List Byte) : CorrectZlib (tableZlib data code) (tableDecode data code) where
  deflate := by
    intro s stream _ _
    change EncodesInput (tableDecode data code) stream (emit (stream.input == data) code stream.avail_out)
    intro hend
    obtain ⟨hknown, hfits⟩ := emit_end_iff.mp hend
    obtain ⟨hemit, htotal⟩ := emit_of_fits hknown hfits
    rw [hemit, eq_of_beq hknown]
    exact ⟨if_pos rfl, hfits, htotal⟩
  inflate := by
    intro s stream output _ _ hdecode
    change WritesOutput output stream (emit (stream.input == code) data stream.avail_out)
    have hcode : stream.input = code := by
      by_contra hother
      rw [tableDecode, if_neg hother] at hdecode
      cases hdecode
    rw [tableDecode, if_pos hcode, Option.some.injEq] at hdecode
    rw [← hdecode]
    refine ⟨?_, fun hend => ?_⟩
    · rw [emit_end_iff, hcode, beq_self_eq_true]
      exact and_iff_right rfl
    · obtain ⟨hknown, hfits⟩ := emit_end_iff.mp hend
      obtain ⟨hemit, htotal⟩ := emit_of_fits hknown hfits
      rw [hemit]
      exact ⟨rfl, htotal⟩

/-- A block of zeros. -/
def zeros (size : BitVec 64) : Buffer where
  size := size
  bytes := List.replicate size.toNat 0#8
  length_bytes := List.length_replicate

/-- Two bytes, and their code. -/
def twoBytes : Buffer := ⟨2#64, [0x70#8, 0x69#8], rfl⟩
def twoBytesCode : List Byte :=
  [0x78#8, 0x9C#8, 0x2B#8, 0xC8#8, 0x04#8, 0x00#8, 0x01#8, 0x4B#8, 0x00#8, 0xDA#8]

/-- Two bytes are restored. -/
theorem round_trip_two_bytes :
    ((decompress_data twoBytesCode 10#64 (zeros 2#64).bytes 2#64).run (tableZlib twoBytes.bytes twoBytesCode) ()).1 =
      .ok (twoBytes.bytes, 2#64) := by
  have hcompress : ((compress_data twoBytes.bytes twoBytes.size (zeros 10#64).bytes (zeros 10#64).size).run
      (tableZlib twoBytes.bytes twoBytesCode) ()).1 = .ok (twoBytesCode, 10#64) := by decide
  have hmemory : ((tableZlib twoBytes.bytes twoBytesCode).answer (.inflateInit zeroed) ()).1 = Z_OK := rfl
  exact (round_trip_iff (correct_tableZlib _ _) twoBytes (zeros 10#64) (zeros 2#64) rfl hcompress hmemory).mpr
    (by decide)

/-- The code of no bytes. -/
def emptyCode : List Byte := [0x78#8, 0x9C#8, 0x03#8, 0x00#8, 0x00#8, 0x00#8, 0x00#8, 0x01#8]

/-- A source of `2 ^ 32` bytes is compressed to the code of no bytes. -/
theorem compress_data_large (large : Buffer) (hsize : large.size = 0x100000000#64) :
    ((compress_data large.bytes large.size (zeros 8#64).bytes 8#64).run (tableZlib [] emptyCode) ()).1 =
      .ok (overwrite (zeros 8#64).bytes emptyCode, BitVec.ofNat 64 emptyCode.length) := by
  have hinput : (loaded large.bytes large.size (zeros 8#64).bytes 8#64).input = [] := by
    change large.bytes.take (large.size.setWidth 32).toNat = []
    rw [hsize]
    exact List.take_zero
  have hemit : emit ((loaded large.bytes large.size (zeros 8#64).bytes 8#64).input == []) emptyCode 8#32 =
      ⟨Z_STREAM_END, emptyCode, BitVec.ofNat 64 emptyCode.length⟩ := by
    rw [hinput]
    rfl
  refine (codeData_returns_iff (tableZlib [] emptyCode) rfl rfl rfl).mpr ⟨rfl, ?_, ?_⟩
  · exact congrArg Coded.status hemit
  · exact congrArg (fun coded : Coded => (overwrite (zeros 8#64).bytes coded.written, coded.total_out)) hemit.symm

/-- A source of `2 ^ 32` bytes is not restored. -/
theorem round_trip_loses_bytes :
    ¬∀ (h : Handler CompressCalls Unit) (decode : List Byte → Option (List Byte)), CorrectZlib h decode →
      ∀ (source dest restored : Buffer) (compressed : List Byte) (size : BitVec 64), restored.size = source.size →
        ((compress_data source.bytes source.size dest.bytes dest.size).run h ()).1 = .ok (compressed, size) →
        (h.answer (.inflateInit zeroed) ()).1 = Z_OK →
        ((decompress_data compressed size restored.bytes restored.size).run h ()).1 =
          .ok (source.bytes, source.size) := by
  intro hall
  obtain ⟨large, hsize⟩ : ∃ large : Buffer, large.size = 0x100000000#64 := ⟨zeros 0x100000000#64, rfl⟩
  have hcorrect := correct_tableZlib [] emptyCode
  have hcompress := compress_data_large large hsize
  have hsame := hall _ _ hcorrect large (zeros 8#64) large _ _ rfl hcompress rfl
  have hmemory : ((tableZlib [] emptyCode).answer (.inflateInit zeroed) ()).1 = Z_OK := rfl
  obtain ⟨size', hsize', hrun⟩ := decompress_of_compress hcorrect large large rfl hcompress hmemory
  rw [hrun, Except.ok.injEq, Prod.mk.injEq] at hsame
  rw [hsame.2, hsize] at hsize'
  revert hsize'
  decide

end Maestro.Cpu.Compress
