import Ssp21.Link.LinkParser
import Ssp21.Codec.VLength

/-!
# Link frames and the frame writers

`Frame.encode` is the layout of a link frame.  `LinkFrameWriter` produces it in
place, behind the message that it lets the upper layer write into its buffer;
`RawFrameWriter` adds nothing.  `parse_frame` states that a parser that waits
for a frame recognises one, whatever follows it.
-/

namespace Ssp21

open Wire Link

/-- The content of a link frame. -/
structure Frame where
  destination : UInt16
  source : UInt16
  payload : Bytes
  deriving DecidableEq, Repr

namespace Frame

/-- The synchronization bytes, the addresses and the payload length. -/
def headerFields (destination source : UInt16) (length : Nat) : Bytes :=
  [sync1, sync2] ++ (bigEndian 2 destination.toNat ++
    (bigEndian 2 source.toNat ++ bigEndian 2 length))

/-- Four checksum bytes. -/
def crcBytes (data : Bytes) : Bytes :=
  bigEndian crcSize (CastagnoliCRC32.calculate data).toNat

def header (destination source : UInt16) (length : Nat) : Bytes :=
  headerFields destination source length ++ crcBytes (headerFields destination source length)

/-- The bytes of a frame. -/
def encode (frame : Frame) : Bytes :=
  header frame.destination frame.source frame.payload.length ++
    (frame.payload ++ crcBytes frame.payload)

@[simp] theorem headerFields_length (destination source : UInt16) (length : Nat) :
    (headerFields destination source length).length = headerFieldsSize := by
  simp [headerFields, headerFieldsSize]

@[simp] theorem crcBytes_length (data : Bytes) : (crcBytes data).length = crcSize := by
  simp [crcBytes]

@[simp] theorem header_length (destination source : UInt16) (length : Nat) :
    (header destination source length).length = headerTotalSize := by
  simp [header, headerTotalSize]

end Frame

namespace LinkParser

open Ssp21.Frame

theorem writeAt_zero (buffer bytes : Bytes) :
    writeAt buffer 0 bytes = bytes ++ buffer.drop bytes.length := by
  simp [writeAt]

/-- The number that stands behind a known front part of the buffer. -/
theorem numberAt_append {buffer : Bytes} (front rest : Bytes) {offset width value : Nat}
    (hbuffer : buffer = front ++ (bigEndian width value ++ rest)) (hoffset : front.length = offset)
    (hlt : value < 256 ^ width) : numberAt buffer offset width = value := by
  rw [numberAt, hbuffer, List.drop_left' hoffset, List.take_left' (bigEndian_length width value),
    ofBigEndian_bigEndian, Nat.mod_eq_of_lt hlt]

/-- The numbers of a header that stands at the start of the buffer. -/
theorem numberAt_header (destination source : UInt16) {length : Nat} (rest : Bytes)
    (hlen : length < 256 ^ 2) :
    numberAt (header destination source length ++ rest) 2 2 = destination.toNat ∧
    numberAt (header destination source length ++ rest) 4 2 = source.toNat ∧
    numberAt (header destination source length ++ rest) 6 2 = length ∧
    numberAt (header destination source length ++ rest) headerFieldsSize crcSize =
      (CastagnoliCRC32.calculate (headerFields destination source length)).toNat := by
  let crc := crcBytes (headerFields destination source length) ++ rest
  refine ⟨?_, ?_, ?_, ?_⟩
  · exact numberAt_append [sync1, sync2] (bigEndian 2 source.toNat ++ (bigEndian 2 length ++ crc))
      (by simp [header, headerFields, crc]) rfl destination.toNat_lt
  · exact numberAt_append ([sync1, sync2] ++ bigEndian 2 destination.toNat)
      (bigEndian 2 length ++ crc) (by simp [header, headerFields, crc]) (by simp) source.toNat_lt
  · exact numberAt_append
      ([sync1, sync2] ++ (bigEndian 2 destination.toNat ++ bigEndian 2 source.toNat)) crc
      (by simp [header, headerFields, crc]) (by simp) hlen
  · exact numberAt_append (headerFields destination source length) rest
      (by simp [header, crcBytes]) (by simp) (UInt32.toNat_lt _)

variable {reparse : State → Context → Source → Outcome}

theorem feed_sync1 (ctx : Context) :
    feed reparse .waitSync1 ctx [sync1] = (.waitSync2, ctx.push 0 sync1, .external []) := by
  simp [feed, parseLoop, parseOne, parseSync1, Source.length, Source.bytes, Source.advance,
    State.isWaitRead, Context.push]

theorem feed_sync2 (ctx : Context) :
    feed reparse .waitSync2 ctx [sync2] = (.waitHeader 2, ctx.push 1 sync2, .external []) := by
  simp [feed, parseLoop, parseOne, parseSync2, Source.length, Source.bytes, Source.advance,
    State.isWaitRead, Context.push]

/-- Exactly the missing bytes of an item. -/
theorem transferData_exact {num target : Nat} (ctx : Context) {bytes : Bytes}
    (hlen : num + bytes.length = target) :
    transferData num ctx (.external bytes) target =
      (target, { ctx with buffer := writeAt ctx.buffer num bytes }, .external []) := by
  have hcount : min (target - num) bytes.length = bytes.length := by omega
  simp [transferData, Source.length, Source.bytes, Source.advance, hcount]
  omega

theorem feed_headerRest (ctx : Context) {num : Nat} {bytes : Bytes}
    (hlen : num + bytes.length = headerTotalSize) (hne : bytes ≠ []) :
    feed reparse (.waitHeader num) ctx bytes =
      let next := finishHeader reparse { ctx with buffer := writeAt ctx.buffer num bytes }
      (next.1, next.2, .external []) := by
  obtain ⟨byte, bytes, rfl⟩ := List.exists_cons_of_ne_nil hne
  rw [feed_cons _ _ rfl]
  simp only [parseOne, parseHeader, transferData_exact ctx hlen]
  cases bytes <;> simp [parseLoop, Source.length]

theorem feed_bodyRest (ctx : Context) {num : Nat} {bytes : Bytes}
    (hlen : num + bytes.length = headerTotalSize + ctx.payloadLength.toNat + crcSize)
    (hne : bytes ≠ []) :
    feed reparse (.waitBody num) ctx bytes =
      let next := finishBody (num + bytes.length)
        { ctx with buffer := writeAt ctx.buffer num bytes }
      (next.1, next.2, .external []) := by
  obtain ⟨byte, bytes, rfl⟩ := List.exists_cons_of_ne_nil hne
  rw [feed_cons _ _ rfl]
  simp only [parseOne, parseBody, transferData_exact ctx hlen, hlen]
  cases bytes <;> simp [parseLoop, Source.length]

/-- A whole header ends up at the start of the buffer and is then validated. -/
theorem feed_header (hkeeps : KeepsWf reparse) {ctx : Context} (hwf : Wf .waitSync1 ctx)
    (destination source : UInt16) (length : Nat) :
    feed reparse .waitSync1 ctx (header destination source length) =
      let next := finishHeader reparse
        { ctx with buffer := writeAt ctx.buffer 0 (header destination source length) }
      (next.1, next.2, .external []) := by
  obtain ⟨rest, hheader⟩ :
    ∃ rest, header destination source length = [sync1] ++ ([sync2] ++ rest) :=
    ⟨bigEndian 2 destination.toNat ++ (bigEndian 2 source.toNat ++ bigEndian 2 length) ++
      crcBytes (headerFields destination source length), by simp [header, headerFields]⟩
  have hlen : 2 + rest.length = headerTotalSize := by
    rw [← header_length destination source length, hheader]
    simp
    omega
  have hne : rest ≠ [] := by
    rintro rfl
    simp [headerTotalSize, headerFieldsSize, crcSize] at hlen
  have hsync2 : Wf .waitSync2 (ctx.push 0 sync1) :=
    Wf.ofRoom (room_writeAt _ _ hwf.room) (by simp) (by simp)
  have hbuffer : writeAt (writeAt (writeAt ctx.buffer 0 [sync1]) 1 [sync2]) 2 rest =
      writeAt ctx.buffer 0 (header destination source length) := by
    have hone : 1 ≤ (writeAt ctx.buffer 0 [sync1]).length := by simp [writeAt]
    have hpair := writeAt_writeAt (writeAt ctx.buffer 0 [sync1]) 1 [sync2] rest hone
    have hall := writeAt_writeAt ctx.buffer 0 [sync1] ([sync2] ++ rest) (Nat.zero_le _)
    simp only [List.length_singleton, Nat.zero_add] at hpair hall
    rw [hpair, hall, hheader]
  rw [hheader, feed_append hkeeps hwf, feed_sync1]
  simp only [State.isWaitRead, Bool.false_eq_true, if_false]
  rw [feed_append hkeeps hsync2, feed_sync2]
  simp only [State.isWaitRead, Bool.false_eq_true, if_false]
  rw [feed_headerRest _ hlen hne, ← hheader, ← hbuffer]
  rfl

/-- A header that its checksum confirms and whose length is allowed is accepted. -/
theorem finishHeader_header (ctx : Context) (destination source length : UInt16) (rest : Bytes)
    (hbuffer : ctx.buffer = header destination source length.toNat ++ rest)
    (hmax : length ≤ ctx.maxPayloadLength) :
    finishHeader reparse ctx =
      (.waitBody headerTotalSize, { ctx with
        result := { ctx.result with destination := destination, source := source }
        payloadLength := length }) := by
  obtain ⟨hdest, hsource, hlength, hcrc⟩ :=
    numberAt_header destination source rest length.toNat_lt
  have hfields : ctx.buffer.take headerFieldsSize =
      headerFields destination source length.toNat := by
    rw [hbuffer, header, List.append_assoc, List.take_left' (headerFields_length _ _ _)]
  rw [← hbuffer] at hdest hsource hlength hcrc
  simp only [finishHeader, readHeader, hdest, hsource, hlength, hcrc, hfields,
    UInt16.ofNat_toNat, UInt32.ofNat_toNat, ne_eq, not_true_eq_false, if_false]
  rw [if_neg (by simpa using hmax)]

/-- A payload that its checksum confirms makes the frame readable. -/
theorem finishBody_payload (ctx : Context) (total : Nat) (front payload rest : Bytes)
    (hbuffer : ctx.buffer = front ++ (payload ++ (crcBytes payload ++ rest)))
    (hfront : front.length = headerTotalSize) (hlen : payload.length = ctx.payloadLength.toNat) :
    finishBody total ctx =
      (.waitRead total, { ctx with result := { ctx.result with payload := payload } }) := by
  have hpayload : (ctx.buffer.drop headerTotalSize).take ctx.payloadLength.toNat = payload := by
    rw [hbuffer, List.drop_left' hfront, List.take_left' hlen]
  have hcrc : numberAt ctx.buffer (headerTotalSize + ctx.payloadLength.toNat) crcSize =
      (CastagnoliCRC32.calculate payload).toNat :=
    numberAt_append (front ++ payload) rest
      (by rw [hbuffer]; simp [crcBytes]) (by simp [hfront, hlen]) (UInt32.toNat_lt _)
  simp [finishBody, hpayload, hcrc]

/-- The context behind an accepted header. -/
def Context.withHeader (ctx : Context) (destination source length : UInt16) : Context :=
  { ctx with
    buffer := writeAt ctx.buffer 0 (header destination source length.toNat)
    result := { ctx.result with destination := destination, source := source }
    payloadLength := length }

theorem feed_goodHeader (hkeeps : KeepsWf reparse) {ctx : Context} (hwf : Wf .waitSync1 ctx)
    (destination source length : UInt16) (hmax : length ≤ ctx.maxPayloadLength) :
    feed reparse .waitSync1 ctx (header destination source length.toNat) =
      (.waitBody headerTotalSize, ctx.withHeader destination source length, .external []) := by
  have hdone : finishHeader reparse
      { ctx with buffer := writeAt ctx.buffer 0 (header destination source length.toNat) } =
      (.waitBody headerTotalSize, ctx.withHeader destination source length) :=
    finishHeader_header _ destination source length _ (writeAt_zero _ _) hmax
  rw [feed_header hkeeps hwf]
  simp only [hdone]

theorem feed_goodBody (ctx : Context) (destination source length : UInt16) {payload : Bytes}
    (hlen : payload.length = length.toNat) :
    feed reparse (.waitBody headerTotalSize) (ctx.withHeader destination source length)
        (payload ++ crcBytes payload) =
      (.waitRead (headerTotalSize + (payload ++ crcBytes payload).length),
        { ctx.withHeader destination source length with
          buffer := writeAt (ctx.withHeader destination source length).buffer headerTotalSize
            (payload ++ crcBytes payload)
          result := ⟨destination, source, payload⟩ }, .external []) := by
  have hne : payload ++ crcBytes payload ≠ [] := by
    intro hnil
    have hsize : (payload ++ crcBytes payload).length = 0 := by rw [hnil]; rfl
    simp [crcSize] at hsize
  have htotal : headerTotalSize + (payload ++ crcBytes payload).length =
      headerTotalSize + (ctx.withHeader destination source length).payloadLength.toNat +
        crcSize := by
    simp only [List.length_append, crcBytes_length, hlen, Context.withHeader]
    omega
  have hbuffer : writeAt (ctx.withHeader destination source length).buffer headerTotalSize
      (payload ++ crcBytes payload) =
        header destination source length.toNat ++ (payload ++ (crcBytes payload ++
          (ctx.withHeader destination source length).buffer.drop
            (headerTotalSize + (payload ++ crcBytes payload).length))) := by
    simp only [writeAt, Context.withHeader, List.take_zero, List.nil_append,
      List.append_assoc, List.take_left' (header_length _ _ _)]
  rw [feed_bodyRest _ htotal hne]
  simp only
  rw [finishBody_payload _ _ _ payload _ hbuffer (header_length _ _ _) hlen]
  rfl

theorem feed_frame (hkeeps : KeepsWf reparse) {ctx : Context} (hwf : Wf .waitSync1 ctx)
    (frame : Frame) (rest : Bytes)
    (hmax : frame.payload.length ≤ ctx.maxPayloadLength.toNat) :
    ∃ num ctx', feed reparse .waitSync1 ctx (frame.encode ++ rest) =
        (.waitRead num, ctx', .external rest) ∧
      ctx'.result = ⟨frame.destination, frame.source, frame.payload⟩ ∧
      ctx'.maxPayloadLength = ctx.maxPayloadLength ∧ ctx'.reports = ctx.reports := by
  have hlen : (UInt16.ofNat frame.payload.length).toNat = frame.payload.length := by
    rw [UInt16.toNat_ofNat']
    exact Nat.mod_eq_of_lt (Nat.lt_of_le_of_lt hmax ctx.maxPayloadLength.toNat_lt)
  have hhead := feed_goodHeader hkeeps hwf frame.destination frame.source
    (UInt16.ofNat frame.payload.length) (by rw [UInt16.le_iff_toNat_le, hlen]; exact hmax)
  rw [hlen] at hhead
  have hwf' := feed_wf hkeeps hwf (header frame.destination frame.source frame.payload.length)
  rw [hhead] at hwf'
  have hwhole := feed_append hkeeps hwf (header frame.destination frame.source
    frame.payload.length) (frame.payload ++ crcBytes frame.payload ++ rest)
  rw [hhead] at hwhole
  simp only [State.isWaitRead, Bool.false_eq_true, if_false] at hwhole
  rw [feed_append hkeeps hwf', feed_goodBody ctx _ _ _ hlen.symm] at hwhole
  simp only [State.isWaitRead, if_true, Source.bytes, List.nil_append] at hwhole
  rw [Frame.encode, List.append_assoc, hwhole]
  exact ⟨_, _, rfl, rfl, rfl, rfl⟩

/-- **Recognition.**  A parser at the start of a frame takes exactly the bytes of
the frame, whatever stands behind them, offers its content and reports nothing. -/
theorem parse_frame {parser : LinkParser} (hwf : parser.WellFormed)
    (hstart : parser.state = .waitSync1) (frame : Frame) (rest : Bytes)
    (hmax : frame.payload.length ≤ parser.context.maxPayloadLength.toNat) :
    ∃ next : LinkParser, parser.parse (frame.encode ++ rest) = (next, rest) ∧
      next.read = some ⟨frame.destination, frame.source, frame.payload⟩ ∧
      next.context.maxPayloadLength = parser.context.maxPayloadLength ∧
      next.context.reports = parser.context.reports := by
  obtain ⟨ctx, state⟩ := parser
  change state = .waitSync1 at hstart
  subst hstart
  obtain ⟨num, ctx', hfeed, hresult, hlimit, hreports⟩ :=
    feed_frame (parseMany_wf 1) hwf frame rest hmax
  refine ⟨⟨ctx', .waitRead num⟩, ?_, ?_, hlimit, hreports⟩
  · rw [parse_eq_feed]
    simp [hfeed, Source.bytes]
  · simp [LinkParser.read, State.isWaitRead, hresult]

end LinkParser

/-! ## Frame writers -/

/-- The two implementations of `IFrameWriter`, with their configuration. -/
inductive FrameWriter
  | raw (maxPayloadSize : UInt16)
  | link (destination source : UInt16) (maxPayloadSize : UInt16)
  deriving DecidableEq, Repr

namespace FrameWriter

def maxPayloadSize : FrameWriter → UInt16
  | raw maxPayloadSize => maxPayloadSize
  | link _ _ maxPayloadSize => maxPayloadSize

/-- The frame around a message. -/
def frame : FrameWriter → Bytes → Bytes
  | raw _, written => written
  | link destination source _, written =>
      Frame.header destination source written.length ++ (written ++ Frame.crcBytes written)

/-- What `WriteResult` carries: the message as written and the whole frame. -/
structure WriteResult where
  written : Bytes
  frame : Bytes
  deriving DecidableEq, Repr

/-- `IFrameWriter::write`.  The message is written directly into the frame buffer;
the link writer leaves room for a header and finds out about the room for the
trailing checksum only afterwards. -/
def write (writer : FrameWriter) (payload : Nat → Except FormatError Bytes) :
    Except FormatError WriteResult :=
  match writer with
  | raw maxPayloadSize =>
      match payload maxPayloadSize.toNat with
      | .error e => .error e
      | .ok written => .ok ⟨written, writer.frame written⟩
  | link _ _ maxPayloadSize =>
      let room := minFrameSize + maxPayloadSize.toNat - headerTotalSize
      match payload room with
      | .error e => .error e
      | .ok written =>
          if room - written.length < crcSize then .error .insufficientSpace
          else if written.length > 65535 then .error .insufficientSpace
          else .ok ⟨written, writer.frame written⟩

/-- The room a message is given. -/
def room : FrameWriter → Nat
  | raw maxPayloadSize => maxPayloadSize.toNat
  | link _ _ maxPayloadSize => minFrameSize + maxPayloadSize.toNat - headerTotalSize

theorem room_lt (writer : FrameWriter) : writer.room < 2 ^ 32 := by
  cases writer with
  | raw maxPayloadSize =>
      have hlt := maxPayloadSize.toNat_lt
      simp only [room]
      omega
  | link destination source maxPayloadSize =>
      have hlt := maxPayloadSize.toNat_lt
      simp only [room, minFrameSize, headerTotalSize, headerFieldsSize, crcSize]
      omega

/-- A frame that was written frames a message that the payload itself produced. -/
theorem write_ok {writer : FrameWriter} {payload : Nat → Except FormatError Bytes}
    {result : WriteResult} (hwrite : writer.write payload = .ok result) :
    payload writer.room = .ok result.written ∧ result.frame = writer.frame result.written := by
  cases writer with
  | raw maxPayloadSize =>
      simp only [write] at hwrite
      split at hwrite
      · cases hwrite
      · rename_i written hwritten
        cases hwrite
        exact ⟨hwritten, rfl⟩
  | link destination source maxPayloadSize =>
      simp only [write] at hwrite
      split at hwrite
      · cases hwrite
      · rename_i written hwritten
        split_ifs at hwrite
        cases hwrite
        exact ⟨hwritten, rfl⟩

/-- A payload of known bytes is framed exactly if it is within the maximum payload size. -/
theorem write_eq (writer : FrameWriter) {payload : Nat → Except FormatError Bytes} {bytes : Bytes}
    (hpayload : ∀ room, payload room =
      if bytes.length ≤ room then .ok bytes else .error .insufficientSpace) :
    writer.write payload =
      if bytes.length ≤ writer.maxPayloadSize.toNat then .ok ⟨bytes, writer.frame bytes⟩
      else .error .insufficientSpace := by
  cases writer with
  | raw size =>
      simp only [write, hpayload, maxPayloadSize]
      by_cases hfits : bytes.length ≤ size.toNat
      · simp [hfits]
      · simp [hfits]
  | link destination source size =>
      have hlt := size.toNat_lt
      -- the room behind the header is four bytes more than the payload may have
      have hroom : minFrameSize + size.toNat - headerTotalSize = size.toNat + crcSize := by
        simp only [minFrameSize, headerTotalSize]
        omega
      simp only [write, hpayload, maxPayloadSize, hroom]
      by_cases hfits : bytes.length ≤ size.toNat
      · have hwritten : bytes.length ≤ size.toNat + crcSize := by omega
        have hcrc : ¬ size.toNat + crcSize - bytes.length < crcSize := by omega
        have hshort : ¬ bytes.length > 65535 := by omega
        simp only [hwritten, if_true, hcrc, hshort, if_false, hfits]
      · by_cases hwritten : bytes.length ≤ size.toNat + crcSize
        · have hcrc : size.toNat + crcSize - bytes.length < crcSize := by omega
          simp only [hwritten, if_true, hcrc, hfits, if_false]
        · simp only [hwritten, hfits, if_false]

end FrameWriter

end Ssp21
