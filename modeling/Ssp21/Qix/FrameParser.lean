import Ssp21.Foundation.Runs
import Ssp21.Link.CastagnoliCRC32

/-!
# QIX frames

A key server delivers keys over a serial port, in frames of 47 bytes.

* `QIXFrameWriter.write` is what a writer puts on the port.
* `QIXFrameParser` holds a buffer of one frame.  `parse` is called when the buffer is full: it
  shifts out what stands in front of the first pair of synchronization bytes and waits for more,
  or takes the buffer for a frame.
* `FrameReader` is the loop that reads from the port.  A read fills some of the space that is left.

The state of the loop is determined by the bytes in the filled part of the buffer (`window`), and a
read is the same as its bytes one by one (`readSome_window`).  `resynchronization` follows: noise
is shifted out without losing a byte of the frames behind it.
-/

namespace Ssp21

open Wire

/-! ## Frames -/

/-- `QIXFrame::Status`. -/
inductive QIXFrame.Status
  | ok
  | keyCompromised
  | undefined
  deriving DecidableEq, Repr

structure QIXFrame where
  keyId : UInt64
  keyData : Bytes
  status : QIXFrame.Status
  deriving DecidableEq, Repr

namespace QIXFrameWriter

/-- `QIXFrameWriter::write`: the bytes that go to the port.  It throws if the key does not have 32
bytes.  The status of the frame is not looked at. -/
def write (frame : QIXFrame) : Option Bytes :=
  if frame.keyData.length ≠ 32 then none
  else
    let fields := bigEndian 8 frame.keyId.toNat ++ frame.keyData ++ [0x01]
    some ([0x5A, 0xA5] ++ fields ++ bigEndian 4 (CastagnoliCRC32.calculate fields).toNat)

end QIXFrameWriter

/-! ## The parser -/

namespace QIXFrameParser

def sync1 : UInt8 := 0x5A
def sync2 : UInt8 := 0xA5

def syncSize : Nat := 2
def keyIdSize : Nat := 8
def keySize : Nat := 32
def statusSize : Nat := 1
def crcSize : Nat := 4
def crcDataSize : Nat := keyIdSize + keySize + statusSize
def totalFrameSize : Nat := syncSize + crcDataSize + crcSize

def getStatus (value : UInt8) : QIXFrame.Status :=
  if value = 0x01 then .ok
  else if value = 0xFF then .keyCompromised
  else .undefined

def calcFrameCrc (buffer : Bytes) : UInt32 :=
  CastagnoliCRC32.calculate ((buffer.drop syncSize).take crcDataSize)

def readFrameCrc (buffer : Bytes) : UInt32 :=
  UInt32.ofNat (ofBigEndian ((buffer.drop (syncSize + crcDataSize)).take crcSize))

def readFrameFields (buffer : Bytes) : QIXFrame where
  keyId := UInt64.ofNat (ofBigEndian ((buffer.drop syncSize).take keyIdSize))
  keyData := (buffer.drop (syncSize + keyIdSize)).take keySize
  status := getStatus (buffer.getD (syncSize + keyIdSize + keySize) 0)

/-- `find_sync`: how many bytes it advances over, and what is left. -/
def findSync : Bytes → Nat × Bytes
  | [] => (0, [])
  | [byte] => if byte = sync1 then (0, [byte]) else (1, [])
  | first :: second :: rest =>
      if first = sync1 ∧ second = sync2 then (0, first :: second :: rest)
      else ((findSync (second :: rest)).1 + 1, (findSync (second :: rest)).2)

end QIXFrameParser

/-- The parser: a buffer for one frame, and how many bytes at its front are to be kept. -/
structure QIXFrameParser where
  numBytesBuffered : Nat
  buffer : Bytes
  buffer_length : buffer.length = QIXFrameParser.totalFrameSize
  buffered_lt : numBytesBuffered < QIXFrameParser.totalFrameSize

namespace QIXFrameParser

/-- What `find_sync` leaves is the end of the input. -/
theorem findSync_eq (input : Bytes) :
    (findSync input).2 = input.drop (findSync input).1 := by
  induction input with
  | nil => rfl
  | cons first rest ih =>
      cases rest with
      | nil =>
          rw [findSync]
          split_ifs <;> rfl
      | cons second rest =>
          rw [findSync]
          split_ifs
          · rfl
          · exact ih

/-- `parse`, on a buffer that is full.  Without a pair of synchronization bytes at the very front
the end of the buffer moves to its front; the source copies overlapping memory here. -/
def parse (parser : QIXFrameParser) : Option QIXFrame × QIXFrameParser :=
  let remainder := (findSync parser.buffer).2
  if hshort : remainder.length < totalFrameSize then
    (none,
      { numBytesBuffered := remainder.length
        buffer := remainder ++ parser.buffer.drop remainder.length
        buffer_length := by
          have hlength := parser.buffer_length
          rw [List.length_append, List.length_drop]
          omega
        buffered_lt := hshort })
  else if calcFrameCrc parser.buffer ≠ readFrameCrc parser.buffer then
    (none, { parser with numBytesBuffered := 0, buffered_lt := by decide })
  else
    (some (readFrameFields parser.buffer),
      { parser with numBytesBuffered := 0, buffered_lt := by decide })

end QIXFrameParser

/-! ## The read loop -/

/-- The loop of `read_some`: the parser, the start of the space that is still to be filled, and what
it has produced: the frames that were parsed, and those that went to the handler. -/
structure FrameReader where
  parser : QIXFrameParser
  filled : Nat
  filled_lt : filled < QIXFrameParser.totalFrameSize
  parsed : List QIXFrame
  handled : List QIXFrame

namespace FrameReader

open QIXFrameParser

/-- Before the first read.  The buffer may hold anything. -/
def start (buffer : Bytes) (hbuffer : buffer.length = totalFrameSize) : FrameReader where
  parser := ⟨0, buffer, hbuffer, by decide⟩
  filled := 0
  filled_lt := by decide
  parsed := []
  handled := []

/-- The handler gets the frames with a good key. -/
def handle (frame : QIXFrame) : List QIXFrame :=
  match frame.status with
  | .ok => [frame]
  | .keyCompromised => []
  | .undefined => []

/-- The bytes of a read go into the space that is left. -/
def fill (reader : FrameReader) (data : Bytes)
    (hroom : reader.filled + data.length ≤ totalFrameSize) : QIXFrameParser :=
  { reader.parser with
    buffer := reader.parser.buffer.take reader.filled ++ data ++
      reader.parser.buffer.drop (reader.filled + data.length)
    buffer_length := by
      have hlength := reader.parser.buffer_length
      rw [List.length_append, List.length_append, List.length_take, List.length_drop]
      omega }

/-- A read completes with some bytes, at most as many as there is space for.  When the space is
filled, the parser is run and the next read starts behind what the parser keeps. -/
def readSome (reader : FrameReader) (data : Bytes) : Option FrameReader :=
  if hroom : reader.filled + data.length ≤ totalFrameSize then
    if hmore : reader.filled + data.length < totalFrameSize then
      some { reader with
        parser := reader.fill data hroom
        filled := reader.filled + data.length
        filled_lt := hmore }
    else
      let result := (reader.fill data hroom).parse
      some
        { parser := result.2
          filled := result.2.numBytesBuffered
          filled_lt := result.2.buffered_lt
          parsed := reader.parsed ++ result.1.toList
          handled := reader.handled ++ result.1.toList.flatMap handle }
  else none

/-- The port gives at most as many bytes as there is space for. -/
def Fits (reader : FrameReader) (data : Bytes) : Prop :=
  reader.filled + data.length ≤ totalFrameSize

instance (reader : FrameReader) (data : Bytes) : Decidable (reader.Fits data) :=
  inferInstanceAs (Decidable (_ ≤ _))

theorem readSome_of_fits (reader : FrameReader) (data : Bytes) (hfits : reader.Fits data) :
    ∃ reader', reader.readSome data = some reader' := by
  have hroom : reader.filled + data.length ≤ totalFrameSize := hfits
  rw [readSome, dif_pos hroom]
  split_ifs
  · exact ⟨_, rfl⟩
  · exact ⟨_, rfl⟩

/-! ## Bytes one by one -/

/-- The part of the buffer that has been filled. -/
def window (reader : FrameReader) : Bytes := reader.parser.buffer.take reader.filled

/-- What a full buffer comes to: a frame or nothing, and the bytes to keep. -/
def settle (full : Bytes) : Option QIXFrame × Bytes :=
  if (findSync full).2.length < totalFrameSize then (none, (findSync full).2)
  else if calcFrameCrc full ≠ readFrameCrc full then (none, [])
  else (some (readFrameFields full), [])

theorem parse_settle (parser : QIXFrameParser) :
    (parser.parse.1, parser.parse.2.buffer.take parser.parse.2.numBytesBuffered) =
      settle parser.buffer := by
  rw [parse, settle]
  split_ifs with hshort hcrc
  · simp
  · rfl
  · rfl

/-- One more byte behind the window. -/
def push (window : Bytes) (byte : UInt8) : Option QIXFrame × Bytes :=
  if (window ++ [byte]).length < totalFrameSize then (none, window ++ [byte])
  else settle (window ++ [byte])

/-- The frames that a number of bytes lead to, and the window behind them. -/
def pushAll : Bytes → Bytes → List QIXFrame × Bytes
  | window, [] => ([], window)
  | window, byte :: rest =>
      ((push window byte).1.toList ++ (pushAll (push window byte).2 rest).1,
        (pushAll (push window byte).2 rest).2)

theorem pushAll_append (window data more : Bytes) :
    pushAll window (data ++ more) =
      ((pushAll window data).1 ++ (pushAll (pushAll window data).2 more).1,
        (pushAll (pushAll window data).2 more).2) := by
  induction data generalizing window with
  | nil => rfl
  | cons byte data ih => simp only [List.cons_append, pushAll, ih, List.append_assoc]

theorem pushAll_short {window data : Bytes}
    (hshort : (window ++ data).length < totalFrameSize) :
    pushAll window data = ([], window ++ data) := by
  induction data generalizing window with
  | nil => simp [pushAll]
  | cons byte data ih =>
      have hbyte : (window ++ [byte]).length < totalFrameSize := by
        simp only [List.length_append, List.length_cons, List.length_nil] at hshort ⊢
        omega
      have hrest := @ih (window ++ [byte]) (by simpa using hshort)
      simp only [pushAll, push, hbyte, if_true, hrest]
      simp

theorem pushAll_full {window data : Bytes} (hwindow : window.length < totalFrameSize)
    (hfull : (window ++ data).length = totalFrameSize) :
    pushAll window data =
      ((settle (window ++ data)).1.toList, (settle (window ++ data)).2) := by
  rcases List.eq_nil_or_concat data with rfl | ⟨front, byte, rfl⟩
  · simp only [List.append_nil] at hfull
    omega
  · simp only [List.concat_eq_append] at hfull ⊢
    have hshort : (window ++ front).length < totalFrameSize := by
      simp only [List.length_append, List.length_cons, List.length_nil] at hfull ⊢
      omega
    have hbyte : ¬ (window ++ (front ++ [byte])).length < totalFrameSize := by
      rw [hfull]
      exact Nat.lt_irrefl _
    rw [pushAll_append, pushAll_short hshort]
    simp only [pushAll, push, List.append_assoc, hbyte, if_false, List.nil_append,
      List.append_nil]

/-- A window is the bytes that were pushed since the buffer was empty. -/
theorem pushAll_window {window : Bytes} (hwindow : window.length < totalFrameSize) (data : Bytes) :
    pushAll [] (window ++ data) = pushAll window data := by
  rw [pushAll_append, @pushAll_short [] window hwindow]
  rfl

/-- The first full buffer of a stream, and what comes after it. -/
theorem pushAll_long {stream : Bytes} (hlong : totalFrameSize ≤ stream.length) :
    (pushAll [] stream).1 = (settle (stream.take totalFrameSize)).1.toList ++
      (pushAll (settle (stream.take totalFrameSize)).2 (stream.drop totalFrameSize)).1 := by
  have hfull : ([] ++ stream.take totalFrameSize).length = totalFrameSize := by
    rw [List.nil_append, List.length_take]
    omega
  conv_lhs => rw [← List.take_append_drop totalFrameSize stream]
  rw [pushAll_append, pushAll_full (by decide) hfull, List.nil_append]

theorem window_length (reader : FrameReader) : reader.window.length = reader.filled := by
  have hlength := reader.parser.buffer_length
  have hfilled := reader.filled_lt
  rw [window, List.length_take]
  omega

theorem take_fill (reader : FrameReader) (data : Bytes)
    (hroom : reader.filled + data.length ≤ totalFrameSize) :
    (reader.fill data hroom).buffer.take (reader.filled + data.length) = reader.window ++ data := by
  have hlength : reader.filled + data.length = (reader.window ++ data).length := by
    rw [List.length_append, window_length]
  change List.take _ (reader.window ++ data ++ _) = _
  rw [hlength, List.take_left]

/-- A read is its bytes one by one. -/
theorem readSome_window {reader reader' : FrameReader} {data : Bytes}
    (hread : reader.readSome data = some reader') :
    reader'.parsed = reader.parsed ++ (pushAll reader.window data).1 ∧
      reader'.handled = reader.handled ++ (pushAll reader.window data).1.flatMap handle ∧
      reader'.window = (pushAll reader.window data).2 := by
  have hfilled := reader.filled_lt
  have hwindow := reader.window_length
  simp only [readSome] at hread
  split_ifs at hread with hroom hmore
  · cases hread
    rw [pushAll_short (by rw [List.length_append, hwindow]; exact hmore)]
    exact ⟨by simp, by simp, take_fill reader data hroom⟩
  · -- the buffer is full, and all of it is the window and the data
    cases hread
    have hfull : (reader.window ++ data).length = totalFrameSize := by
      rw [List.length_append, hwindow]
      omega
    have hbuffer : (reader.fill data hroom).buffer = reader.window ++ data := by
      rw [← take_fill reader data hroom, List.take_of_length_le]
      rw [(reader.fill data hroom).buffer_length]
      omega
    have hsettle := parse_settle (reader.fill data hroom)
    rw [hbuffer] at hsettle
    rw [pushAll_full (by omega) hfull, ← hsettle]
    exact ⟨rfl, rfl, rfl⟩

/-- However the port cuts the stream, the loop comes to what the bytes come to. -/
theorem run_window {reader reader' : FrameReader} {reads : List Bytes}
    (hrun : Runs.run readSome reader reads = some reader') :
    reader'.parsed = reader.parsed ++ (pushAll reader.window reads.flatten).1 ∧
      reader'.handled = reader.handled ++
        (pushAll reader.window reads.flatten).1.flatMap handle := by
  induction reads generalizing reader with
  | nil =>
      cases hrun
      simp [pushAll]
  | cons data reads ih =>
      obtain ⟨next, hread, hrest⟩ := Runs.run_cons hrun
      obtain ⟨hparsed, hhandled, hwindow⟩ := readSome_window hread
      obtain ⟨hparsed', hhandled'⟩ := ih hrest
      rw [hwindow] at hparsed' hhandled'
      rw [List.flatten_cons, pushAll_append]
      constructor
      · rw [hparsed', hparsed, List.append_assoc]
      · rw [hhandled', hhandled, List.append_assoc, List.flatMap_append]

end FrameReader

/-! ## Synchronization -/

namespace QIXFrameParser

/-- A frame on the wire: it starts with the synchronization bytes and its checksum is right. -/
structure ValidFrame (bytes : Bytes) : Prop where
  length : bytes.length = totalFrameSize
  sync : ∃ rest, bytes = sync1 :: sync2 :: rest
  crc : calcFrameCrc bytes = readFrameCrc bytes

theorem findSync_frame (rest : Bytes) :
    (findSync (sync1 :: sync2 :: rest)).1 = 0 := by
  rw [findSync, if_pos ⟨rfl, rfl⟩]

/-- The search does not go beyond a synchronization pair, or a first half of it at the end. -/
theorem findSync_le (noise : Bytes) {stream : Bytes} (hstream : stream <+: [sync1] ∨
    ∃ rest, stream = sync1 :: sync2 :: rest) :
    (findSync (noise ++ stream)).1 ≤ noise.length := by
  induction noise with
  | nil =>
      rcases hstream with hhalf | ⟨rest, rfl⟩
      · rcases List.prefix_cons_iff.mp hhalf with rfl | ⟨rest, rfl, hrest⟩
        · exact Nat.le_refl 0
        · rw [List.prefix_nil.mp hrest]
          exact Nat.le_refl 0
      · exact Nat.le_of_eq (findSync_frame rest)
  | cons first noise ih =>
      cases hrest : noise ++ stream with
      | nil =>
          rw [List.cons_append, hrest, findSync]
          split_ifs <;> simp
      | cons second rest =>
          rw [hrest] at ih
          rw [List.cons_append, hrest, findSync]
          split_ifs
          · exact Nat.zero_le _
          · exact Nat.succ_le_succ ih

/-- Noise in front is not taken for a synchronization pair, even if it ends with a first half. -/
theorem findSync_pos {noise stream : Bytes} (hnoise : ¬ [sync1, sync2] <:+: noise)
    (hne : noise ≠ []) (hstream : stream.head? ≠ some sync2)
    (hlength : 2 ≤ (noise ++ stream).length) : 1 ≤ (findSync (noise ++ stream)).1 := by
  obtain ⟨first, noise, rfl⟩ := List.exists_cons_of_ne_nil hne
  cases hrest : noise ++ stream with
  | nil =>
      rw [List.cons_append, hrest] at hlength
      simp at hlength
  | cons second rest =>
      rw [List.cons_append, hrest, findSync, if_neg]
      · exact Nat.succ_le_succ (Nat.zero_le _)
      · rintro ⟨rfl, rfl⟩
        cases noise with
        | nil =>
            rw [List.nil_append] at hrest
            rw [hrest] at hstream
            exact hstream rfl
        | cons _ noise =>
            cases hrest
            exact hnoise ⟨[], noise, rfl⟩

end QIXFrameParser

namespace FrameReader

open QIXFrameParser

theorem settle_frame {bytes : Bytes} (hvalid : ValidFrame bytes) :
    settle bytes = (some (readFrameFields bytes), []) := by
  obtain ⟨rest, hsync⟩ := hvalid.sync
  have hwhole : (findSync bytes).2 = bytes := by
    rw [findSync_eq, hsync, findSync_frame, List.drop_zero]
  rw [settle, hwhole, hvalid.length, if_neg (Nat.lt_irrefl _),
    if_neg (not_not.mpr hvalid.crc)]

/-- The front of a stream of frames. -/
theorem frames_front {frames : List Bytes} (hframes : ∀ bytes ∈ frames, ValidFrame bytes)
    (n : Nat) : frames.flatten.take n <+: [sync1] ∨
      ∃ rest, frames.flatten.take n = sync1 :: sync2 :: rest := by
  cases frames with
  | nil => simp
  | cons bytes frames =>
      obtain ⟨rest, hsync⟩ := (hframes bytes List.mem_cons_self).sync
      rw [List.flatten_cons, hsync]
      match n with
      | 0 => exact .inl List.nil_prefix
      | 1 => exact .inl (List.prefix_refl _)
      | n + 2 => exact .inr ⟨(rest ++ frames.flatten).take n, rfl⟩

theorem frames_head {frames : List Bytes} (hframes : ∀ bytes ∈ frames, ValidFrame bytes)
    (n : Nat) : (frames.flatten.take n).head? ≠ some sync2 := by
  have hne : some sync1 ≠ some sync2 := by decide
  rcases frames_front hframes n with hhalf | ⟨rest, hsync⟩
  · rcases List.prefix_cons_iff.mp hhalf with hnil | ⟨rest, hsync, -⟩
    · rw [hnil]
      simp
    · rw [hsync]
      exact hne
  · rw [hsync]
    exact hne

/-- A full buffer that starts with noise: some of the noise, and nothing else, is shifted out. -/
theorem settle_noise {frames : List Bytes} (hframes : ∀ bytes ∈ frames, ValidFrame bytes)
    {noise : Bytes} (hnoise : ¬ [sync1, sync2] <:+: noise) (hne : noise ≠ []) {full : Bytes}
    (hfull : full = (noise ++ frames.flatten).take totalFrameSize)
    (hlength : full.length = totalFrameSize) :
    ∃ count, 1 ≤ count ∧ count ≤ totalFrameSize ∧ count ≤ noise.length ∧
      settle full = (none, full.drop count) := by
  have hsplit : full = noise.take totalFrameSize ++
      frames.flatten.take (totalFrameSize - noise.length) := by
    rw [hfull, List.take_append]
  have hfront : ¬ [sync1, sync2] <:+: noise.take totalFrameSize :=
    fun h => hnoise (h.trans ( List.take_prefix _ _).isInfix)
  have hfrontNe : noise.take totalFrameSize ≠ [] := by
    intro hnil
    rcases List.take_eq_nil_iff.mp hnil with hzero | hnil
    · cases hzero
    · exact hne hnil
  have hle := findSync_le (noise.take totalFrameSize)
    (frames_front hframes (totalFrameSize - noise.length))
  have hpos := findSync_pos hfront hfrontNe
    (frames_head hframes (totalFrameSize - noise.length)) (by
      rw [← hsplit, hlength]
      decide)
  rw [← hsplit] at hle hpos
  refine ⟨(findSync full).1, hpos, hle.trans (List.length_take_le _ _),
    hle.trans (List.length_take_le' _ _), ?_⟩
  rw [settle, findSync_eq, if_pos]
  rw [List.length_drop, hlength]
  have hsize : totalFrameSize = 47 := rfl
  omega

/-- From the start: the frames in a stream of noise and frames behind it come out.  By induction on
the length of the stream; a full buffer either is the next frame or starts with noise. -/
theorem pushAll_stream {frames : List Bytes} (hframes : ∀ bytes ∈ frames, ValidFrame bytes)
    {noise : Bytes} (hnoise : ¬ [sync1, sync2] <:+: noise) {stream : Bytes}
    (hstream : stream = noise ++ frames.flatten) :
    (pushAll [] stream).1 = frames.map readFrameFields := by
  induction hn : stream.length using Nat.strong_induction_on
    generalizing frames noise stream with
  | _ n ih =>
      by_cases hshort : stream.length < totalFrameSize
      · -- less than a frame is left
        rw [@pushAll_short [] stream hshort]
        cases frames with
        | nil => rfl
        | cons bytes frames =>
            have hlength := (hframes bytes List.mem_cons_self).length
            rw [hstream, List.flatten_cons, List.length_append, List.length_append] at hshort
            omega
      · have hsize : totalFrameSize = 47 := rfl
        have hfull : (stream.take totalFrameSize).length = totalFrameSize := by
          rw [List.length_take]
          omega
        rw [pushAll_long (not_lt.mp hshort)]
        by_cases hne : noise = []
        · cases frames with
          | nil =>
              rw [hstream, hne] at hshort
              exact absurd (by decide) hshort
          | cons bytes frames =>
              have hvalid := hframes bytes List.mem_cons_self
              rw [hne, List.nil_append, List.flatten_cons] at hstream
              have hbytes : stream.take totalFrameSize = bytes := by
                rw [hstream, ← hvalid.length, List.take_left]
              have hnext : stream.drop totalFrameSize = frames.flatten := by
                rw [hstream, ← hvalid.length, List.drop_left]
              rw [hbytes, hnext, settle_frame hvalid, List.map_cons]
              refine congrArg (List.cons _) (ih _ ?_
                (fun other hin => hframes other (List.mem_cons_of_mem _ hin)) hnoise
                (by rw [hne, List.nil_append]) rfl)
              rw [← hnext, List.length_drop, ← hn]
              omega
        · obtain ⟨count, hpos, hcount, hle, hsettle⟩ := settle_noise hframes hnoise hne
            (by rw [hstream]) hfull
          have hkept : (stream.take totalFrameSize).drop count ++ stream.drop totalFrameSize =
              stream.drop count := by
            rw [← List.drop_append_of_le_length (hcount.trans hfull.ge), List.take_append_drop]
          rw [hsettle, ← pushAll_window, hkept]
          · refine ih _ ?_ hframes
              (fun h => hnoise (h.trans (List.drop_suffix count _).isInfix)) ?_ rfl
            · rw [List.length_drop, ← hn]
              omega
            · rw [hstream, List.drop_append_of_le_length hle]
          · rw [List.length_drop, hfull]
            omega

theorem handle_flatMap (frames : List QIXFrame) :
    frames.flatMap handle = frames.filter (fun frame => frame.status = .ok) := by
  induction frames with
  | nil => rfl
  | cons frame frames ih =>
      rw [List.flatMap_cons, ih, handle]
      cases hstatus : frame.status <;> simp [hstatus]

/-- **Resynchronization.**  A loop that has just been started is given noise without a pair of
synchronization bytes and then frames, cut into reads in any way that fits the space the port is
given.  The frames are parsed, in order and nothing else, and those with a good key go to the
handler. -/
theorem resynchronization (buffer : Bytes) (hbuffer : buffer.length = totalFrameSize)
    (noise : Bytes) (hnoise : ¬ [sync1, sync2] <:+: noise) (frames : List Bytes)
    (hframes : ∀ bytes ∈ frames, ValidFrame bytes) (reads : List Bytes)
    (hreads : reads.flatten = noise ++ frames.flatten)
    (hfits : Runs.Along readSome Fits (start buffer hbuffer) reads) :
    ∃ reader, Runs.run readSome (start buffer hbuffer) reads = some reader ∧
      reader.parsed = frames.map readFrameFields ∧
      reader.handled = (frames.map readFrameFields).filter (fun frame => frame.status = .ok) := by
  obtain ⟨reader, hrun⟩ := Runs.exists_run_of_along readSome_of_fits hfits
  obtain ⟨hparsed, hhandled⟩ := run_window hrun
  have hwindow : (start buffer hbuffer).window = [] := rfl
  rw [hwindow, pushAll_stream hframes hnoise hreads] at hparsed hhandled
  refine ⟨reader, hrun, hparsed, ?_⟩
  rw [hhandled, handle_flatMap]
  rfl

namespace Written

def buffer : Bytes := List.replicate totalFrameSize 0

def frame (status : QIXFrame.Status) : QIXFrame :=
  ⟨5, [0x5A, 0xA5] ++ List.replicate 30 7, status⟩

/-- The frame as it is written, and a key that contains the synchronization bytes. -/
def bytes (status : QIXFrame.Status) : Bytes := ((QIXFrameWriter.write (frame status)).getD [])

/-- Noise that ends with a first half of the pair, then the frame, in three reads. -/
theorem resynchronization_noise : ∃ reader,
    Runs.run readSome (start buffer rfl)
      [[0x5A, 0, 0x5A], (bytes .ok).take 44, (bytes .ok).drop 44] = some reader ∧
    reader.parsed = [readFrameFields (bytes .ok)] := by
  have hvalid : ValidFrame (bytes .ok) := ⟨by decide +kernel, ⟨_, rfl⟩, by decide +kernel⟩
  have hframes : ∀ other ∈ [bytes .ok], ValidFrame other := by
    intro other hin
    rw [List.mem_singleton.mp hin]
    exact hvalid
  obtain ⟨reader, hrun, hparsed, -⟩ := resynchronization buffer rfl [0x5A, 0, 0x5A] (by decide)
    [bytes .ok] hframes [[0x5A, 0, 0x5A], (bytes .ok).take 44, (bytes .ok).drop 44]
    (by decide +kernel) (by decide +kernel)
  exact ⟨reader, hrun, hparsed⟩

end Written

end FrameReader

/-! ## Round trip -/

namespace QIXFrameWriter

open QIXFrameParser

section Layout

variable {id key crc : Bytes} {status : UInt8}

/-- The fields of a frame, one behind the other. -/
def layout (id key crc : Bytes) (status : UInt8) : Bytes :=
  [sync1, sync2] ++ (id ++ key ++ [status]) ++ crc

theorem calcFrameCrc_layout (hid : id.length = keyIdSize) (hkey : key.length = keySize) :
    calcFrameCrc (layout id key crc status) =
      CastagnoliCRC32.calculate (id ++ key ++ [status]) := by
  have hfields : (id ++ key ++ [status]).length = crcDataSize := by
    simp only [List.length_append, hid, hkey, List.length_singleton]
    rfl
  have htake : ((id ++ key ++ [status]) ++ crc).take crcDataSize = id ++ key ++ [status] :=
    List.take_left' hfields
  exact congrArg CastagnoliCRC32.calculate htake

theorem readFrameCrc_layout (hid : id.length = keyIdSize) (hkey : key.length = keySize)
    (hcrc : crc.length = crcSize) :
    readFrameCrc (layout id key crc status) = UInt32.ofNat (ofBigEndian crc) := by
  have hfront : ([sync1, sync2] ++ (id ++ key ++ [status])).length = syncSize + crcDataSize := by
    simp only [List.length_append, hid, hkey, List.length_cons, List.length_nil]
    rfl
  rw [readFrameCrc, layout, List.drop_left' hfront, ← hcrc, List.take_length]

theorem readFrameFields_layout (hid : id.length = keyIdSize) (hkey : key.length = keySize) :
    readFrameFields (layout id key crc status) =
      ⟨UInt64.ofNat (ofBigEndian id), key, getStatus status⟩ := by
  have hlayout : layout id key crc status =
      [sync1, sync2] ++ (id ++ (key ++ (status :: crc))) := by
    simp [layout]
  have hbehind : (layout id key crc status).drop (syncSize + keyIdSize) =
      key ++ (status :: crc) := by
    rw [hlayout, ← List.drop_drop]
    exact List.drop_left' hid
  have hdata : ((layout id key crc status).drop (syncSize + keyIdSize)).take keySize = key := by
    rw [hbehind]
    exact List.take_left' hkey
  have hkeyId : ((layout id key crc status).drop syncSize).take keyIdSize = id := by
    rw [hlayout]
    exact List.take_left' hid
  have hstatus : (layout id key crc status).getD (syncSize + keyIdSize + keySize) 0 = status := by
    rw [List.getD_eq_getElem?_getD, ← List.head?_drop, ← List.drop_drop, hbehind,
      List.drop_left' hkey]
    rfl
  rw [readFrameFields, hkeyId, hdata, hstatus]

end Layout

/-- What is written for a frame is a frame, with the same key and a good status. -/
theorem write_valid {frame : QIXFrame} {bytes : Bytes} (hwrite : write frame = some bytes) :
    ValidFrame bytes ∧ readFrameFields bytes = { frame with status := .ok } := by
  simp only [write] at hwrite
  split_ifs at hwrite with hlength
  rw [not_not] at hlength
  let id := bigEndian 8 frame.keyId.toNat
  let crc := CastagnoliCRC32.calculate (id ++ frame.keyData ++ [0x01])
  have hbytes : layout id frame.keyData (bigEndian 4 crc.toNat) 0x01 = bytes :=
    Option.some.inj hwrite
  have hid : id.length = keyIdSize := bigEndian_length 8 _
  have hcrc : (bigEndian 4 crc.toNat).length = crcSize := bigEndian_length 4 _
  rw [← hbytes]
  refine ⟨⟨?_, ⟨_, rfl⟩, ?_⟩, ?_⟩
  · simp only [layout, List.length_append, hid, hlength, hcrc, List.length_cons, List.length_nil]
    rfl
  · have hlt : crc.toNat < 256 ^ 4 := crc.toNat_lt
    rw [calcFrameCrc_layout hid hlength, readFrameCrc_layout hid hlength hcrc,
      ofBigEndian_bigEndian, Nat.mod_eq_of_lt hlt, UInt32.ofNat_toNat]
  · have hlt : frame.keyId.toNat < 256 ^ 8 := frame.keyId.toNat_lt
    rw [readFrameFields_layout hid hlength, ofBigEndian_bigEndian, Nat.mod_eq_of_lt hlt,
      UInt64.ofNat_toNat]
    rfl

/-- Frames with 32-byte keys come back with their keys. -/
theorem write_fields {frames : List QIXFrame}
    (hkeys : ∀ frame ∈ frames, frame.keyData.length = keySize) :
    (∀ bytes ∈ frames.filterMap write, ValidFrame bytes) ∧
      (frames.filterMap write).map readFrameFields =
        frames.map (fun frame => { frame with status := .ok }) := by
  constructor
  · intro bytes hin
    obtain ⟨frame, -, hwrite⟩ := List.mem_filterMap.mp hin
    exact (write_valid hwrite).1
  · induction frames with
    | nil => rfl
    | cons frame frames ih =>
        have hlength : ¬ frame.keyData.length ≠ 32 := not_not.mpr (hkeys frame List.mem_cons_self)
        obtain ⟨bytes, hwrite⟩ : ∃ bytes, write frame = some bytes := by
          rw [write, if_neg hlength]
          exact ⟨_, rfl⟩
        rw [List.filterMap_cons_some hwrite, List.map_cons, List.map_cons, (write_valid hwrite).2,
          ih fun other hin => hkeys other (List.mem_cons_of_mem _ hin)]

/-- **Round trip.**  A loop that has just been started is given what the writer wrote for a list of
frames with 32-byte keys, cut into reads in any way that fits.  Identifiers and keys come back, and
the frames come back as they were exactly if all of them have a good status, because that is the
status that is written. -/
theorem round_trip_iff (buffer : Bytes) (hbuffer : buffer.length = totalFrameSize)
    (frames : List QIXFrame) (hkeys : ∀ frame ∈ frames, frame.keyData.length = keySize)
    (reads : List Bytes) (hreads : reads.flatten = (frames.filterMap write).flatten)
    (hfits : Runs.Along FrameReader.readSome FrameReader.Fits (FrameReader.start buffer hbuffer)
      reads) :
    ∃ reader,
      Runs.run FrameReader.readSome (FrameReader.start buffer hbuffer) reads = some reader ∧
      reader.parsed.map (fun frame => (frame.keyId, frame.keyData)) =
        frames.map (fun frame => (frame.keyId, frame.keyData)) ∧
      (reader.parsed = frames ↔ ∀ frame ∈ frames, frame.status = .ok) := by
  obtain ⟨hvalid, hfields⟩ := write_fields hkeys
  have hnoise : ¬ [sync1, sync2] <:+: ([] : Bytes) := by decide
  obtain ⟨reader, hrun⟩ := Runs.exists_run_of_along FrameReader.readSome_of_fits hfits
  obtain ⟨hparsed, -⟩ := FrameReader.run_window hrun
  have hwindow : (FrameReader.start buffer hbuffer).window = [] := rfl
  rw [hwindow, FrameReader.pushAll_stream hvalid hnoise hreads, hfields] at hparsed
  change reader.parsed = frames.map _ at hparsed
  refine ⟨reader, hrun, ?_, ?_⟩
  · rw [hparsed, List.map_map]
    rfl
  rw [hparsed]
  constructor
  · intro heq frame hin
    have hsame := List.map_inj_left.mp (heq.trans (List.map_id frames).symm) frame hin
    exact (congrArg QIXFrame.status hsame).symm
  · intro hstatus
    refine (List.map_congr_left fun frame hin => ?_).trans (List.map_id frames)
    rw [← hstatus frame hin]
    rfl

section Samples

open FrameReader.Written

theorem round_trip_good : ∃ reader,
    Runs.run FrameReader.readSome (FrameReader.start buffer rfl) [bytes .ok] = some reader ∧
    reader.parsed = [frame .ok] := by
  obtain ⟨reader, hrun, -, hsame⟩ := round_trip_iff buffer rfl [frame .ok] (by decide) [bytes .ok]
    (by decide +kernel) (by decide +kernel)
  exact ⟨reader, hrun, hsame.mpr (by decide)⟩

/-- A compromised key is written as a good one: it is parsed as such, and handed on. -/
theorem compromised_read_as_good :
    write (frame .keyCompromised) = some (bytes .keyCompromised) ∧
    ((Runs.run FrameReader.readSome (FrameReader.start buffer rfl)
      [bytes .keyCompromised]).map fun reader => (reader.parsed, reader.handled)) =
        some ([frame .ok], [frame .ok]) := by
  decide +kernel

end Samples

end QIXFrameWriter

end Ssp21
