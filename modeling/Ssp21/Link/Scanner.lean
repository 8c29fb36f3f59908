import Ssp21.Link.FrameStream

/-!
# The parser as a scanner of a stream

The parser keeps a position, a number of buffered bytes, a buffer with stale bytes behind
them and the fields of the last header it has seen.  What it does next depends on less:
on the bytes of the frame it is in the middle of.  `Scanner` keeps just these.

* `collect` adds a byte to an unfinished frame, or drops what cannot be one.
* `finish` looks at a frame whose header or whose body is complete.
* `scan` does so for a whole stream; it knows nothing of chunks.

`Holds` ties a parser to an unfinished frame.  One byte keeps it (`parse_byte`), also a
byte that makes a header fail, which is then reprocessed inside the buffer.  So a whole
stream does, in any chunking (`readChunks_scan`).
-/

namespace Ssp21

open Wire Link

namespace Scanner

open LinkParser (Result Report numberAt)

/-- What is unfinished behind a part of a stream, and what the part has yielded. -/
structure Scan where
  pending : Bytes
  frames : List Result
  reports : List Report
  deriving DecidableEq, Repr

/-- Add a byte to an unfinished frame.  The first two must be the synchronization bytes. -/
def collect (pending : Bytes) (byte : UInt8) : Bytes :=
  match pending with
  | [] => if byte = sync1 then [byte] else []
  | [first] => if byte = sync2 then [first, byte] else []
  | _ => pending ++ [byte]

/-- The fields of a header at the start of a string. -/
def destination (bytes : Bytes) : UInt16 := UInt16.ofNat (numberAt bytes 2 2)

def source (bytes : Bytes) : UInt16 := UInt16.ofNat (numberAt bytes 4 2)

def payloadLength (bytes : Bytes) : UInt16 := UInt16.ofNat (numberAt bytes 6 2)

/-- The checksum that the header should have, and the one it has. -/
def expectedHeaderCrc (bytes : Bytes) : UInt32 :=
  CastagnoliCRC32.calculate (bytes.take headerFieldsSize)

def actualHeaderCrc (bytes : Bytes) : UInt32 :=
  UInt32.ofNat (numberAt bytes headerFieldsSize crcSize)

/-- The size of the frame that a header announces. -/
def frameSize (bytes : Bytes) : Nat :=
  headerTotalSize + (payloadLength bytes).toNat + crcSize

def payload (bytes : Bytes) : Bytes :=
  (bytes.drop headerTotalSize).take (payloadLength bytes).toNat

def actualBodyCrc (bytes : Bytes) : UInt32 :=
  UInt32.ofNat (numberAt bytes (headerTotalSize + (payloadLength bytes).toNat) crcSize)

/-- What a complete header leads to. -/
def finishHeader (limit : UInt16) (pending : Bytes) : Scan :=
  if expectedHeaderCrc pending ≠ actualHeaderCrc pending then
    ⟨(pending.drop 2).foldl collect [], [],
      [.badHeaderCrc (expectedHeaderCrc pending) (actualHeaderCrc pending)]⟩
  else if payloadLength pending > limit then
    ⟨[], [], [.badBodyLength limit (payloadLength pending)]⟩
  else ⟨pending, [], []⟩

/-- What a complete frame leads to. -/
def finishBody (pending : Bytes) : Scan :=
  if CastagnoliCRC32.calculate (payload pending) ≠ actualBodyCrc pending then
    ⟨[], [], [.badBodyCrc (CastagnoliCRC32.calculate (payload pending)) (actualBodyCrc pending)]⟩
  else ⟨[], [⟨destination pending, source pending, payload pending⟩], []⟩

def finish (limit : UInt16) (pending : Bytes) : Scan :=
  if pending.length = headerTotalSize then finishHeader limit pending
  else if pending.length = frameSize pending then finishBody pending
  else ⟨pending, [], []⟩

def step (limit : UInt16) (pending : Bytes) (byte : UInt8) : Scan :=
  finish limit (collect pending byte)

/-- One byte after the other. -/
def scan (limit : UInt16) : Bytes → Bytes → Scan
  | pending, [] => ⟨pending, [], []⟩
  | pending, byte :: bytes =>
      let first := step limit pending byte
      let rest := scan limit first.pending bytes
      ⟨rest.pending, first.frames ++ rest.frames, first.reports ++ rest.reports⟩

variable {limit : UInt16}

theorem scan_append (pending front back : Bytes) :
    scan limit pending (front ++ back) =
      let first := scan limit pending front
      let rest := scan limit first.pending back
      ⟨rest.pending, first.frames ++ rest.frames, first.reports ++ rest.reports⟩ := by
  induction front generalizing pending with
  | nil => simp [scan]
  | cons byte front ih => simp [scan, ih]

theorem scan_singleton (pending : Bytes) (byte : UInt8) :
    scan limit pending [byte] = step limit pending byte := by
  simp [scan]

/-! ## Short strings -/

theorem collect_length_le (pending : Bytes) (byte : UInt8) :
    (collect pending byte).length ≤ pending.length + 1 := by
  unfold collect
  split
  · split_ifs <;> simp
  · split_ifs <;> simp
  · simp

theorem foldl_collect_length_le (bytes pending : Bytes) :
    (bytes.foldl collect pending).length ≤ pending.length + bytes.length := by
  induction bytes generalizing pending with
  | nil => simp
  | cons byte bytes ih =>
      have hone := collect_length_le pending byte
      have hmore := ih (collect pending byte)
      simp only [List.foldl_cons, List.length_cons]
      omega

/-- Nothing is looked at before a header is complete. -/
theorem finish_short {pending : Bytes} (hshort : pending.length < headerTotalSize) :
    finish limit pending = ⟨pending, [], []⟩ := by
  rw [finish, if_neg (by omega), if_neg (by simp only [frameSize]; omega)]

/-- Fewer bytes than a header has are only collected. -/
theorem scan_short (bytes : Bytes) {pending : Bytes}
    (hshort : pending.length + bytes.length < headerTotalSize) :
    scan limit pending bytes = ⟨bytes.foldl collect pending, [], []⟩ := by
  induction bytes generalizing pending with
  | nil => rfl
  | cons byte bytes ih =>
      have hone := collect_length_le pending byte
      rw [List.length_cons] at hshort
      have hfirst : step limit pending byte = ⟨collect pending byte, [], []⟩ :=
        finish_short (by omega)
      simp only [scan, hfirst, ih (show (collect pending byte).length + bytes.length <
        headerTotalSize by omega), List.foldl_cons, List.append_nil]

/-- Behind the synchronization bytes everything is collected. -/
theorem foldl_collect_synced (front bytes : Bytes) (hfront : 2 ≤ front.length) :
    bytes.foldl collect front = front ++ bytes := by
  induction bytes generalizing front with
  | nil => simp
  | cons byte bytes ih =>
      have hone : collect front byte = front ++ [byte] := by
        match front, hfront with
        | _ :: _ :: _, _ => rfl
      rw [List.foldl_cons, hone, ih _ (by simp; omega)]
      simp

end Scanner

namespace LinkParser

/-! ## Reprocessing inside the buffer

A header that fails is read again from the buffer while the synchronization bytes and the
header bytes found in it are moved down over what has been read.  A place is written only
after it was read, so that the result is that of a separate copy. -/

theorem drop_writeAt {buffer bytes : Bytes} {offset count : Nat} (hin : offset ≤ buffer.length)
    (hbehind : offset + bytes.length ≤ count) :
    (writeAt buffer offset bytes).drop count = buffer.drop count := by
  have hfront : (buffer.take offset ++ bytes).length = offset + bytes.length := by
    simp [hin]
  rw [writeAt, List.drop_append, List.drop_eq_nil_of_le (by omega), hfront, List.drop_drop,
    List.nil_append]
  congr 1
  omega

theorem length_writeAt {buffer bytes : Bytes} {offset : Nat}
    (hin : offset + bytes.length ≤ buffer.length) :
    (writeAt buffer offset bytes).length = buffer.length := by
  simp only [writeAt, List.length_append, List.length_take, List.length_drop]
  omega

/-- A part of the buffer. -/
abbrev part (buffer : Bytes) (offset length : Nat) : Bytes :=
  (buffer.drop offset).take length

theorem drop_part (buffer : Bytes) (offset length count : Nat) :
    (part buffer offset length).drop count = part buffer (offset + count) (length - count) := by
  rw [part, part, List.drop_take, List.drop_drop]

theorem length_part {buffer : Bytes} {offset length : Nat}
    (hin : offset + length ≤ buffer.length) : (part buffer offset length).length = length := by
  rw [part, List.length_take, List.length_drop]
  omega

/-- The outcomes of a turn inside the buffer and on a copy of the bytes: they agree, what is
left still stands in the buffer, and no header can be completed with it. -/
structure InPlace (inner outer : Outcome) : Prop where
  state : inner.1 = outer.1
  context : inner.2.1 = outer.2.1
  early : inner.1 = .waitSync1 ∨ inner.1 = .waitSync2 ∨ ∃ num, inner.1 = .waitHeader num
  rest : ∃ offset length, inner.2.2 = .buffered offset length ∧
    outer.2.2 = .external (part inner.2.1.buffer offset length) ∧
    inner.1.numBuffered ≤ offset ∧ inner.1.numBuffered + length < headerTotalSize ∧
    offset + length ≤ inner.2.1.buffer.length

theorem parseSync1_found (count : Nat) {ctx : Context} {input : Source}
    (hsync : (input.bytes ctx.buffer).headD 0 = sync1) :
    parseSync1 (count + 1) ctx input =
      (.waitSync2, { ctx with buffer := writeAt ctx.buffer 0 [sync1] }, input.advance 1) := by
  simp only [parseSync1, hsync, if_true]

theorem parseSync1_skip (count : Nat) {ctx : Context} {input : Source}
    (hsync : (input.bytes ctx.buffer).headD 0 ≠ sync1) :
    parseSync1 (count + 1) ctx input = parseSync1 count ctx (input.advance 1) := by
  simp only [parseSync1, if_neg hsync]

theorem parseSync2_found {ctx : Context} {input : Source}
    (hsync : (input.bytes ctx.buffer).headD 0 = sync2) :
    parseSync2 ctx input =
      (.waitHeader 2, { ctx with buffer := writeAt ctx.buffer 1 [sync2] }, input.advance 1) := by
  simp only [parseSync2, hsync, if_true]

theorem parseSync2_skip {ctx : Context} {input : Source}
    (hsync : (input.bytes ctx.buffer).headD 0 ≠ sync2) :
    parseSync2 ctx input = (.waitSync1, ctx, input.advance 1) := by
  simp only [parseSync2, if_neg hsync]

theorem advance_part (buffer : Bytes) (offset length : Nat) :
    (Source.external (part buffer offset length)).advance 1 =
      .external (part buffer (offset + 1) (length - 1)) := by
  rw [Source.advance, drop_part]

theorem parseSync1_inPlace (count : Nat) (ctx : Context) {offset : Nat}
    (hcount : count < headerTotalSize) (hin : offset + count ≤ ctx.buffer.length) :
    InPlace (parseSync1 count ctx (.buffered offset count))
      (parseSync1 count ctx (.external (part ctx.buffer offset count))) := by
  induction count generalizing offset with
  | zero =>
      exact ⟨rfl, rfl, Or.inl rfl, offset, 0, rfl, rfl, Nat.zero_le _, hcount, hin⟩
  | succ count ih =>
      by_cases hsync : (part ctx.buffer offset (count + 1)).headD 0 = sync1
      · have hinner := parseSync1_found count
          (show ((Source.buffered offset (count + 1)).bytes ctx.buffer).headD 0 = sync1 from hsync)
        have houter := parseSync1_found count (show ((Source.external (part ctx.buffer offset
          (count + 1))).bytes ctx.buffer).headD 0 = sync1 from hsync)
        have hkept : part (writeAt ctx.buffer 0 [sync1]) (offset + 1) count =
            part ctx.buffer (offset + 1) count := by
          rw [part, drop_writeAt (Nat.zero_le _) (by simp)]
        have hle := le_writeAt_length ctx.buffer 0 [sync1]
        rw [hinner, houter, advance_part]
        refine ⟨rfl, rfl, Or.inr (Or.inl rfl), offset + 1, count, rfl, ?_, ?_, ?_, ?_⟩
        · simp only [Nat.add_sub_cancel, hkept]
        · simp [State.numBuffered]
        · simp only [State.numBuffered]
          omega
        · simp only
          omega
      · have hinner := parseSync1_skip count
          (show ((Source.buffered offset (count + 1)).bytes ctx.buffer).headD 0 ≠ sync1 from hsync)
        have houter := parseSync1_skip count (show ((Source.external (part ctx.buffer offset
          (count + 1))).bytes ctx.buffer).headD 0 ≠ sync1 from hsync)
        rw [hinner, houter, advance_part]
        exact ih (by omega) (by omega)

theorem parseSync2_inPlace (ctx : Context) {offset length : Nat} (hoffset : 1 ≤ offset)
    (hlen : 0 < length) (hshort : 1 + length < headerTotalSize)
    (hin : offset + length ≤ ctx.buffer.length) :
    InPlace (parseSync2 ctx (.buffered offset length))
      (parseSync2 ctx (.external (part ctx.buffer offset length))) := by
  by_cases hsync : (part ctx.buffer offset length).headD 0 = sync2
  · have hinner := parseSync2_found
      (show ((Source.buffered offset length).bytes ctx.buffer).headD 0 = sync2 from hsync)
    have houter := parseSync2_found (show ((Source.external (part ctx.buffer offset
      length)).bytes ctx.buffer).headD 0 = sync2 from hsync)
    have hkept : part (writeAt ctx.buffer 1 [sync2]) (offset + 1) (length - 1) =
        part ctx.buffer (offset + 1) (length - 1) := by
      rw [part, drop_writeAt (by omega) (by simp; omega)]
    have hle := le_writeAt_length ctx.buffer 1 [sync2]
    rw [hinner, houter, advance_part]
    refine ⟨rfl, rfl, Or.inr (Or.inr ⟨2, rfl⟩), offset + 1, length - 1, rfl, ?_, ?_, ?_, ?_⟩
    · simp only [hkept]
    · simp only [State.numBuffered]
      omega
    · simp only [State.numBuffered]
      omega
    · simp only
      omega
  · have hinner := parseSync2_skip
      (show ((Source.buffered offset length).bytes ctx.buffer).headD 0 ≠ sync2 from hsync)
    have houter := parseSync2_skip (show ((Source.external (part ctx.buffer offset
      length)).bytes ctx.buffer).headD 0 ≠ sync2 from hsync)
    rw [hinner, houter, advance_part]
    refine ⟨rfl, rfl, Or.inl rfl, offset + 1, length - 1, rfl, rfl, Nat.zero_le _, ?_, ?_⟩
    · simp only [State.numBuffered]
      omega
    · simp only
      omega

section

variable {reparse : State → Context → Source → Outcome}

/-- All that is left goes into the header, which stays incomplete. -/
theorem parseHeader_inPlace (ctx : Context) {num offset length : Nat} (hnum : num ≤ offset)
    (hshort : num + length < headerTotalSize) (hin : offset + length ≤ ctx.buffer.length) :
    InPlace (parseHeader reparse num ctx (.buffered offset length))
      (parseHeader reparse num ctx (.external (part ctx.buffer offset length))) := by
  have hcopy : min (headerTotalSize - num) length = length := by omega
  have hpart := length_part hin
  have hmoved : (part ctx.buffer offset length).take length = part ctx.buffer offset length :=
    List.take_of_length_le (by omega)
  have hopen : length + num ≠ headerTotalSize := by omega
  simp only [parseHeader, transferData, Source.length, Source.bytes, Source.advance, hpart, hcopy]
  rw [hmoved, if_pos hopen, if_pos hopen]
  refine ⟨rfl, rfl, Or.inr (Or.inr ⟨_, rfl⟩), offset + length, 0, by simp, ?_, ?_, ?_, ?_⟩
  · simp [part, List.drop_eq_nil_of_le (Nat.le_of_eq hpart)]
  · simp only [State.numBuffered]
    omega
  · simp only [State.numBuffered]
    omega
  · have hle := le_writeAt_length ctx.buffer num (part ctx.buffer offset length)
    simp only
    omega

theorem parseOne_inPlace {state : State} (ctx : Context) {offset length : Nat}
    (hearly : state = .waitSync1 ∨ state = .waitSync2 ∨ ∃ num, state = .waitHeader num)
    (hnum : state.numBuffered ≤ offset) (hlen : 0 < length)
    (hshort : state.numBuffered + length < headerTotalSize)
    (hin : offset + length ≤ ctx.buffer.length) :
    InPlace (parseOne reparse state ctx (.buffered offset length))
      (parseOne reparse state ctx (.external (part ctx.buffer offset length))) := by
  rcases hearly with rfl | rfl | ⟨num, rfl⟩
  · have h := parseSync1_inPlace length ctx (by simpa [State.numBuffered] using hshort) hin
    simpa only [parseOne, Source.length, length_part hin] using h
  · exact parseSync2_inPlace ctx hnum hlen hshort hin
  · exact parseHeader_inPlace ctx hnum hshort hin

/-- The loop does inside the buffer what it does on a copy. -/
theorem parseLoop_inPlace (fuel : Nat) {inner outer : Outcome} (h : InPlace inner outer) :
    InPlace (parseLoop reparse fuel inner.1 inner.2.1 inner.2.2)
      (parseLoop reparse fuel outer.1 outer.2.1 outer.2.2) := by
  induction fuel generalizing inner outer with
  | zero => exact h
  | succ fuel ih =>
      obtain ⟨hstate, hctx, hearly, offset, length, hinner, houter, hnum, hshort, hin⟩ := h
      obtain ⟨state, ctx, input⟩ := inner
      obtain ⟨state', ctx', input'⟩ := outer
      simp only at hstate hctx hinner houter hearly hnum hshort hin
      subst hstate hctx hinner houter
      have hwait : state.isWaitRead = false := by
        rcases hearly with rfl | rfl | ⟨num, rfl⟩ <;> rfl
      simp only [parseLoop, Source.length, length_part hin, hwait, Bool.false_eq_true, or_false]
      by_cases hlen : length = 0
      · rw [if_pos hlen, if_pos hlen]
        exact ⟨rfl, rfl, hearly, offset, length, rfl, rfl, hnum, hshort, hin⟩
      · rw [if_neg hlen, if_neg hlen]
        exact ih (parseOne_inPlace ctx hearly hnum (by omega) hshort hin)

end

/-! ## The parser holds an unfinished frame -/

/-- The position that an unfinished frame is collected in. -/
def position : Bytes → State
  | [] => .waitSync1
  | [_] => .waitSync2
  | pending =>
      if pending.length < headerTotalSize then .waitHeader pending.length
      else .waitBody pending.length

/-- The parser is in the middle of a frame: its bytes stand at the start of the buffer, and
the fields of a complete header have been read from there. -/
structure Holds (pending : Bytes) (parser : LinkParser) : Prop where
  wf : parser.WellFormed
  state : parser.state = position pending
  buffer : pending <+: parser.context.buffer
  fields : headerTotalSize ≤ pending.length →
    parser.context.payloadLength = Scanner.payloadLength pending ∧
    parser.context.result.destination = Scanner.destination pending ∧
    parser.context.result.source = Scanner.source pending

/-- The limit is the same, and there are some more reports. -/
structure Context.Adds (before after : Context) (reports : List Report) : Prop where
  limit : after.maxPayloadLength = before.maxPayloadLength
  reports : after.reports = before.reports ++ reports

theorem position_header {pending : Bytes} (hlow : 2 ≤ pending.length)
    (hhigh : pending.length < headerTotalSize) : position pending = .waitHeader pending.length := by
  match pending, hlow with
  | _ :: _ :: _, _ => exact if_pos hhigh

theorem position_body {pending : Bytes} (hlow : headerTotalSize ≤ pending.length) :
    position pending = .waitBody pending.length := by
  match pending, hlow with
  | _ :: _ :: _, hlow => exact if_neg (Nat.not_lt.mpr hlow)

theorem position_not_waitRead (pending : Bytes) : (position pending).isWaitRead = false := by
  unfold position
  split
  · rfl
  · rfl
  · split_ifs <;> rfl

theorem position_start {pending : Bytes} (hstart : position pending = .waitSync1) :
    pending = [] := by
  match pending with
  | [] => rfl
  | [_] => cases hstart
  | _ :: _ :: _ =>
      simp only [position] at hstart
      split_ifs at hstart

theorem Holds.hasResult {pending : Bytes} {parser : LinkParser} (h : Holds pending parser) :
    parser.hasResult = false := by
  rw [LinkParser.hasResult, h.state, position_not_waitRead]

/-- A parser at the start of a frame holds nothing. -/
theorem holds_nil {parser : LinkParser} (hwf : parser.WellFormed)
    (hstart : parser.state = .waitSync1) : Holds [] parser :=
  ⟨hwf, hstart, List.nil_prefix, fun hlong => absurd hlong (by decide)⟩

theorem starts_writeAt {pending buffer : Bytes} (hstarts : pending <+: buffer) (bytes : Bytes) :
    pending ++ bytes <+: writeAt buffer pending.length bytes := by
  obtain ⟨rest, rfl⟩ := hstarts
  exact ⟨(pending ++ rest).drop (pending.length + bytes.length), by simp [writeAt]⟩

theorem numberAt_of_starts {pending buffer : Bytes} (hstarts : pending <+: buffer)
    {offset width : Nat} (hin : offset + width ≤ pending.length) :
    numberAt buffer offset width = numberAt pending offset width := by
  obtain ⟨rest, rfl⟩ := hstarts
  rw [numberAt, numberAt, List.drop_append_of_le_length (by omega),
    List.take_append_of_le_length (by rw [List.length_drop]; omega)]

theorem take_of_starts {pending buffer : Bytes} (hstarts : pending <+: buffer) {count : Nat}
    (hin : count ≤ pending.length) : buffer.take count = pending.take count := by
  obtain ⟨rest, rfl⟩ := hstarts
  exact List.take_append_of_le_length hin

theorem part_of_starts {pending buffer : Bytes} (hstarts : pending <+: buffer)
    {offset length : Nat} (hin : offset + length ≤ pending.length) :
    part buffer offset length = part pending offset length := by
  obtain ⟨rest, rfl⟩ := hstarts
  rw [part, List.drop_append_of_le_length (by omega),
    List.take_append_of_le_length (by rw [List.length_drop]; omega)]

section

variable {reparse : State → Context → Source → Outcome}

theorem feed_headerByte (ctx : Context) {num : Nat} (byte : UInt8)
    (hnum : num + 1 < headerTotalSize) :
    feed reparse (.waitHeader num) ctx [byte] =
      (.waitHeader (num + 1), ctx.push num byte, .external []) := by
  rw [feed_cons _ _ rfl]
  simp only [parseOne, parseHeader, transferData_one ctx byte [] (Nat.lt_of_succ_lt hnum)
    (Or.inr rfl)]
  rw [if_pos (Nat.ne_of_lt hnum)]
  rfl

theorem feed_bodyByte (ctx : Context) {num : Nat} (byte : UInt8)
    (hnum : num + 1 < headerTotalSize + ctx.payloadLength.toNat + crcSize) :
    feed reparse (.waitBody num) ctx [byte] =
      (.waitBody (num + 1), ctx.push num byte, .external []) := by
  rw [feed_cons _ _ rfl]
  simp only [parseOne, parseBody, transferData_one ctx byte [] (Nat.lt_of_succ_lt hnum)
    (Or.inr rfl)]
  rw [if_pos (Nat.ne_of_lt hnum)]
  rfl

theorem feed_notSync1 (ctx : Context) {byte : UInt8} (hsync : byte ≠ sync1) :
    feed reparse .waitSync1 ctx [byte] = (.waitSync1, ctx, .external []) := by
  simp [feed, parseLoop, parseOne, parseSync1, Source.length, Source.bytes, Source.advance,
    State.isWaitRead, hsync]

theorem feed_notSync2 (ctx : Context) {byte : UInt8} (hsync : byte ≠ sync2) :
    feed reparse .waitSync2 ctx [byte] = (.waitSync1, ctx, .external []) := by
  simp [feed, parseLoop, parseOne, parseSync2, Source.length, Source.bytes, Source.advance,
    State.isWaitRead, hsync]

/-- A byte that does not complete a header. -/
theorem feed_collect (hkeeps : KeepsWf reparse) {pending : Bytes} {state : State} {ctx : Context}
    (h : Holds pending ⟨ctx, state⟩) (byte : UInt8)
    (hshort : pending.length + 1 < headerTotalSize) :
    ∃ state' ctx', feed reparse state ctx [byte] = (state', ctx', .external []) ∧
      Holds (Scanner.collect pending byte) ⟨ctx', state'⟩ ∧ ctx.Adds ctx' [] := by
  have hwf := feed_wf hkeeps h.wf [byte]
  have hadds : ctx.Adds ctx [] := ⟨rfl, (List.append_nil _).symm⟩
  have hstate : state = position pending := h.state
  -- a header that is not complete has no fields
  have hfields : ∀ ctx' : Context, ∀ state',
      headerTotalSize ≤ (Scanner.collect pending byte).length →
      (⟨ctx', state'⟩ : LinkParser).context.payloadLength = Scanner.payloadLength
        (Scanner.collect pending byte) ∧
      ctx'.result.destination = Scanner.destination (Scanner.collect pending byte) ∧
      ctx'.result.source = Scanner.source (Scanner.collect pending byte) := by
    intro ctx' state' hlong
    have hle := Scanner.collect_length_le pending byte
    omega
  match pending with
  | [] =>
      change state = .waitSync1 at hstate
      subst hstate
      by_cases hsync : byte = sync1
      · subst hsync
        rw [feed_sync1] at hwf ⊢
        exact ⟨_, _, rfl, ⟨hwf, rfl, starts_writeAt h.buffer [sync1], hfields _ _⟩,
          hadds.1, hadds.2⟩
      · rw [feed_notSync1 ctx hsync] at hwf ⊢
        have hcollect : Scanner.collect [] byte = [] := if_neg hsync
        rw [hcollect]
        exact ⟨_, _, rfl, h, hadds⟩
  | [first] =>
      change state = .waitSync2 at hstate
      subst hstate
      by_cases hsync : byte = sync2
      · subst hsync
        rw [feed_sync2] at hwf ⊢
        exact ⟨_, _, rfl, ⟨hwf, rfl, starts_writeAt h.buffer [sync2], hfields _ _⟩,
          hadds.1, hadds.2⟩
      · rw [feed_notSync2 ctx hsync] at hwf ⊢
        have hcollect : Scanner.collect [first] byte = [] := if_neg hsync
        rw [hcollect]
        exact ⟨_, _, rfl, holds_nil hwf rfl, hadds⟩
  | first :: second :: rest =>
      have hposition := position_header (show 2 ≤ (first :: second :: rest).length by simp)
        (Nat.lt_of_succ_lt hshort)
      rw [hposition] at hstate
      subst hstate
      rw [feed_headerByte ctx byte hshort] at hwf ⊢
      have hnext : position (first :: second :: rest ++ [byte]) =
          .waitHeader ((first :: second :: rest).length + 1) := by
        rw [position_header (by simp) (by simpa using hshort)]
        simp
      exact ⟨_, _, rfl, ⟨hwf, hnext.symm, starts_writeAt h.buffer [byte], hfields _ _⟩, hadds.1,
        hadds.2⟩

/-- Fewer bytes than a header has. -/
theorem feed_collects (hkeeps : KeepsWf reparse) (bytes : Bytes) {pending : Bytes} {state : State}
    {ctx : Context} (h : Holds pending ⟨ctx, state⟩)
    (hshort : pending.length + bytes.length < headerTotalSize) :
    ∃ state' ctx', feed reparse state ctx bytes = (state', ctx', .external []) ∧
      Holds (bytes.foldl Scanner.collect pending) ⟨ctx', state'⟩ ∧ ctx.Adds ctx' [] := by
  induction bytes generalizing pending state ctx with
  | nil => exact ⟨state, ctx, rfl, h, rfl, (List.append_nil _).symm⟩
  | cons byte bytes ih =>
      rw [List.length_cons] at hshort
      have hone := Scanner.collect_length_le pending byte
      obtain ⟨state₁, ctx₁, hfirst, hholds, hlimit, hreports⟩ :=
        feed_collect hkeeps h byte (by omega)
      obtain ⟨state₂, ctx₂, hmore, hholds', hlimit', hreports'⟩ := ih hholds (by omega)
      refine ⟨state₂, ctx₂, ?_, hholds', hlimit'.trans hlimit, ?_⟩
      · have hwait : state.isWaitRead = false := h.hasResult
        rw [feed_split hkeeps h.wf hwait, hfirst]
        exact hmore
      · rw [hreports', hreports, List.append_nil, List.append_nil]

end

/-! ## A complete header, a complete frame -/

/-- The context of a header that fails: its fields have been read, and it is reported. -/
def reportHeader (ctx : Context) : Context :=
  { readHeader ctx with
    reports := ctx.reports ++ [.badHeaderCrc (Scanner.expectedHeaderCrc ctx.buffer)
      (Scanner.actualHeaderCrc ctx.buffer)] }

/-- The checksum of the header in the buffer is wrong. -/
def HeaderFails (ctx : Context) : Prop :=
  Scanner.expectedHeaderCrc ctx.buffer ≠ Scanner.actualHeaderCrc ctx.buffer

instance (ctx : Context) : Decidable (HeaderFails ctx) := inferInstanceAs (Decidable (_ ≠ _))

theorem finishHeader_fails (reparse : State → Context → Source → Outcome) {ctx : Context}
    (hfails : HeaderFails ctx) :
    finishHeader reparse ctx =
      let call := reparse .waitSync1 (reportHeader ctx) (.buffered 2 (headerTotalSize - 2))
      (call.1, call.2.1) :=
  if_pos hfails

/-- The nested call works on the bytes behind the synchronization bytes as if they had
arrived just now. -/
theorem reparse_holds {pending : Bytes} {ctx : Context} (hroom : Wf .waitSync1 ctx)
    (hstarts : pending <+: ctx.buffer) (hlen : pending.length = headerTotalSize) :
    let call := parseMany 1 .waitSync1 ctx (.buffered 2 (headerTotalSize - 2))
    Holds ((pending.drop 2).foldl Scanner.collect []) ⟨call.2.1, call.1⟩ ∧
      ctx.Adds call.2.1 [] := by
  intro call
  have hsize : 2 + (headerTotalSize - 2) ≤ ctx.buffer.length := by
    have hle := hstarts.length_le
    have htwo : 2 ≤ headerTotalSize := by decide
    omega
  have hcopy : part ctx.buffer 2 (headerTotalSize - 2) = pending.drop 2 := by
    rw [part_of_starts hstarts (by rw [hlen]; decide), part,
      List.take_of_length_le (by rw [List.length_drop, hlen])]
  have hdrop : (pending.drop 2).length = headerTotalSize - 2 := by rw [List.length_drop, hlen]
  obtain ⟨state, after, hfeed, hholds, hadds⟩ := feed_collects (parseMany_wf 0) (pending.drop 2)
    (holds_nil (show (⟨ctx, .waitSync1⟩ : LinkParser).WellFormed from hroom) rfl)
    (by rw [hdrop]; decide)
  have hstart : InPlace (.waitSync1, ctx, .buffered 2 (headerTotalSize - 2))
      (.waitSync1, ctx, .external (pending.drop 2)) :=
    ⟨rfl, rfl, Or.inl rfl, 2, headerTotalSize - 2, rfl, by rw [hcopy], Nat.zero_le _,
      show 0 + (headerTotalSize - 2) < headerTotalSize by decide, hsize⟩
  have hsame := @parseLoop_inPlace (parseMany 0) (headerTotalSize - 2) _ _ hstart
  have houter : parseLoop (parseMany 0) (headerTotalSize - 2) .waitSync1 ctx
      (.external (pending.drop 2)) = (state, after, .external []) := by
    rw [← hfeed, feed, hdrop]
  have hstate : call.1 = state := hsame.state.trans (congrArg Prod.fst houter)
  have hctx : call.2.1 = after := hsame.context.trans (congrArg (fun o => o.2.1) houter)
  rw [hstate, hctx]
  exact ⟨hholds, hadds⟩

/-- The header is complete. -/
theorem finishHeader_scan {pending : Bytes} {ctx : Context} (hroom : Wf .waitSync1 ctx)
    (hstarts : pending <+: ctx.buffer) (hlen : pending.length = headerTotalSize) :
    let next := finishHeader (parseMany 1) ctx
    let scan := Scanner.finishHeader ctx.maxPayloadLength pending
    Holds scan.pending ⟨next.2, next.1⟩ ∧ ctx.Adds next.2 scan.reports ∧ scan.frames = [] := by
  have hexpected : Scanner.expectedHeaderCrc ctx.buffer = Scanner.expectedHeaderCrc pending := by
    rw [Scanner.expectedHeaderCrc, take_of_starts hstarts (by rw [hlen]; decide)]
    rfl
  have hactual : Scanner.actualHeaderCrc ctx.buffer = Scanner.actualHeaderCrc pending := by
    rw [Scanner.actualHeaderCrc, numberAt_of_starts hstarts (by rw [hlen]; decide)]
    rfl
  have hlength : UInt16.ofNat (numberAt ctx.buffer 6 2) = Scanner.payloadLength pending := by
    rw [numberAt_of_starts hstarts (by rw [hlen]; decide)]
    rfl
  by_cases hfails : HeaderFails ctx
  · have hcrc := hfails
    rw [HeaderFails, hexpected, hactual] at hcrc
    have hroom' : Wf .waitSync1 (reportHeader ctx) := Wf.ofRoom hroom.room (by simp) (by simp)
    obtain ⟨hholds, hlimit, hreports⟩ := reparse_holds hroom' hstarts hlen
    rw [finishHeader_fails _ hfails]
    simp only [Scanner.finishHeader, if_pos hcrc]
    refine ⟨hholds, ⟨hlimit, ?_⟩, trivial⟩
    rw [hreports, List.append_nil, reportHeader, hexpected, hactual]
  · have hcrc : ¬ Scanner.expectedHeaderCrc pending ≠ Scanner.actualHeaderCrc pending := by
      rwa [HeaderFails, hexpected, hactual] at hfails
    have hnext : finishHeader (parseMany 1) ctx =
        if Scanner.payloadLength pending > ctx.maxPayloadLength then
          (.waitSync1, { readHeader ctx with reports := ctx.reports ++
            [.badBodyLength ctx.maxPayloadLength (Scanner.payloadLength pending)] })
        else (.waitBody headerTotalSize, readHeader ctx) := by
      rw [← hlength]
      exact if_neg hfails
    rw [hnext]
    simp only [Scanner.finishHeader, if_neg hcrc]
    by_cases hlong : Scanner.payloadLength pending > ctx.maxPayloadLength
    · rw [if_pos hlong, if_pos hlong]
      exact ⟨holds_nil (Wf.ofRoom hroom.room (by simp) (by simp)) rfl, ⟨rfl, rfl⟩, rfl⟩
    · rw [if_neg hlong, if_neg hlong]
      refine ⟨⟨⟨hroom.room, by simp, ?_⟩, ?_, hstarts, fun _ => ⟨hlength, ?_, ?_⟩⟩,
        ⟨rfl, (List.append_nil _).symm⟩, rfl⟩
      · intro num hnum
        cases hnum
        refine ⟨Nat.le_refl _, ?_, ?_⟩
        · simp only [crcSize]
          omega
        · simpa only [readHeader, hlength, gt_iff_lt, UInt16.not_lt] using hlong
      · rw [position_body (Nat.le_of_eq hlen.symm), hlen]
      · exact congrArg UInt16.ofNat (numberAt_of_starts hstarts (by rw [hlen]; decide))
      · exact congrArg UInt16.ofNat (numberAt_of_starts hstarts (by rw [hlen]; decide))

/-- The frame is complete. -/
theorem finishBody_scan {pending : Bytes} {ctx : Context} (total : Nat)
    (hroom : Wf .waitSync1 ctx) (hstarts : pending <+: ctx.buffer)
    (hlen : pending.length = Scanner.frameSize pending)
    (hlength : ctx.payloadLength = Scanner.payloadLength pending)
    (hdestination : ctx.result.destination = Scanner.destination pending)
    (hsource : ctx.result.source = Scanner.source pending) :
    let next := finishBody total ctx
    let scan := Scanner.finishBody pending
    ctx.Adds next.2 scan.reports ∧ scan.pending = [] ∧ Wf next.1 next.2 ∧
      (scan.frames = [] ∧ next.1 = .waitSync1 ∨
        scan.frames = [next.2.result] ∧ next.1 = .waitRead total) := by
  have hpayload : (ctx.buffer.drop headerTotalSize).take ctx.payloadLength.toNat =
      Scanner.payload pending := by
    rw [hlength]
    refine part_of_starts hstarts ?_
    rw [hlen, Scanner.frameSize]
    omega
  have hactual : UInt32.ofNat (numberAt ctx.buffer (headerTotalSize + ctx.payloadLength.toNat)
      crcSize) = Scanner.actualBodyCrc pending := by
    rw [hlength, numberAt_of_starts hstarts (by rw [hlen, Scanner.frameSize])]
    rfl
  simp only [finishBody, Scanner.finishBody, hpayload, hactual]
  by_cases hcrc : CastagnoliCRC32.calculate (Scanner.payload pending) ≠
      Scanner.actualBodyCrc pending
  · rw [if_pos hcrc, if_pos hcrc]
    exact ⟨⟨rfl, rfl⟩, rfl, Wf.ofRoom hroom.room (by simp) (by simp), Or.inl ⟨rfl, rfl⟩⟩
  · rw [if_neg hcrc, if_neg hcrc]
    refine ⟨⟨rfl, (List.append_nil _).symm⟩, rfl, Wf.ofRoom hroom.room (by simp) (by simp),
      Or.inr ⟨?_, rfl⟩⟩
    rw [hdestination, hsource]

/-! ## One byte -/

/-- What the parser makes of a byte is what the scanner makes of it. -/
structure Follows (before : LinkParser) (scan : Scanner.Scan) (after : LinkParser) : Prop where
  adds : before.context.Adds after.context scan.reports
  wf : after.WellFormed
  next : scan.frames = [] ∧ Holds scan.pending after ∨
    scan.pending = [] ∧ ∃ result, scan.frames = [result] ∧ after.read = some result

theorem parse_byte_of_feed {parser : LinkParser} {byte : UInt8} {state : State} {ctx : Context}
    (hfeed : feed (parseMany 1) parser.state parser.context [byte] = (state, ctx, .external [])) :
    parser.parse [byte] = (⟨ctx, state⟩, []) := by
  rw [parse_eq_feed, hfeed]
  rfl

theorem read_waitRead {parser : LinkParser} {num : Nat} (hstate : parser.state = .waitRead num) :
    parser.read = some parser.context.result := by
  rw [LinkParser.read, hstate]
  rfl

/-- What the scanner makes of a byte is what the parser makes of it. -/
def FollowsByte (pending : Bytes) (parser : LinkParser) (byte : UInt8) : Prop :=
  (parser.parse [byte]).2 = [] ∧
    Follows parser (Scanner.step parser.context.maxPayloadLength pending byte)
      (parser.parse [byte]).1

section

variable {pending : Bytes} {ctx : Context} {state : State}

/-- A byte behind the synchronization bytes ends up behind the others. -/
theorem starts_push (h : Holds pending ⟨ctx, state⟩) (byte : UInt8) :
    pending ++ [byte] <+: (ctx.push pending.length byte).buffer ∧
      Wf .waitSync1 (ctx.push pending.length byte) :=
  ⟨starts_writeAt h.buffer [byte], Wf.ofRoom (room_writeAt _ _ h.wf.room) (by simp) (by simp)⟩

theorem collect_synced {pending : Bytes} (byte : UInt8) (htwo : 2 ≤ pending.length) :
    Scanner.collect pending byte = pending ++ [byte] :=
  Scanner.foldl_collect_synced pending [byte] htwo

theorem parse_byte_short (h : Holds pending ⟨ctx, state⟩) (byte : UInt8)
    (hshort : pending.length + 1 < headerTotalSize) : FollowsByte pending ⟨ctx, state⟩ byte := by
  obtain ⟨state', ctx', hfeed, hholds, hadds⟩ := feed_collect (parseMany_wf 1) h byte hshort
  have hone := Scanner.collect_length_le pending byte
  rw [FollowsByte, parse_byte_of_feed hfeed, Scanner.step, Scanner.finish_short (by omega)]
  exact ⟨rfl, hadds, hholds.wf, Or.inl ⟨rfl, hholds⟩⟩

/-- The last byte of a header. -/
theorem parse_byte_header (h : Holds pending ⟨ctx, state⟩) (byte : UInt8)
    (hheader : pending.length + 1 = headerTotalSize) : FollowsByte pending ⟨ctx, state⟩ byte := by
  have htwo : 2 ≤ pending.length := by
    have hsize : 3 ≤ headerTotalSize := by decide
    omega
  have hstate : state = position pending := h.state
  rw [position_header htwo (by omega)] at hstate
  subst hstate
  have hlen : (pending ++ [byte]).length = headerTotalSize := by simpa using hheader
  obtain ⟨hpush, hpushed⟩ := starts_push h byte
  obtain ⟨hholds, hadds, hframes⟩ := finishHeader_scan hpushed hpush hlen
  have hfeed := @feed_headerRest (parseMany 1) ctx pending.length [byte] hheader (by simp)
  rw [FollowsByte, parse_byte_of_feed hfeed, Scanner.step, collect_synced byte htwo,
    Scanner.finish, if_pos hlen]
  exact ⟨rfl, ⟨hadds.limit, hadds.reports⟩, hholds.wf, Or.inl ⟨hframes, hholds⟩⟩

/-- A byte behind a complete header changes none of its fields. -/
theorem Holds.fields_push (h : Holds pending ⟨ctx, state⟩) (byte : UInt8)
    (hlong : headerTotalSize ≤ pending.length) :
    ctx.payloadLength = Scanner.payloadLength (pending ++ [byte]) ∧
      ctx.result.destination = Scanner.destination (pending ++ [byte]) ∧
      ctx.result.source = Scanner.source (pending ++ [byte]) := by
  have hsame : ∀ offset, offset + 2 ≤ headerTotalSize →
      numberAt (pending ++ [byte]) offset 2 = numberAt pending offset 2 := by
    intro offset hin
    exact numberAt_of_starts (List.prefix_append _ _) (by omega)
  obtain ⟨hlength, hdestination, hsource⟩ := h.fields hlong
  exact ⟨hlength.trans (congrArg UInt16.ofNat (hsame 6 (by decide)).symm),
    hdestination.trans (congrArg UInt16.ofNat (hsame 2 (by decide)).symm),
    hsource.trans (congrArg UInt16.ofNat (hsame 4 (by decide)).symm)⟩

/-- A byte of the body. -/
theorem parse_byte_body (h : Holds pending ⟨ctx, state⟩) (byte : UInt8)
    (hlong : headerTotalSize ≤ pending.length) : FollowsByte pending ⟨ctx, state⟩ byte := by
  have htwo : 2 ≤ pending.length := Nat.le_trans (by decide) hlong
  have hstate : state = position pending := h.state
  rw [position_body hlong] at hstate
  subst hstate
  obtain ⟨hlength, hdestination, hsource⟩ := h.fields_push byte hlong
  obtain ⟨hpush, hpushed⟩ := starts_push h byte
  have hhigh : pending.length < headerTotalSize + ctx.payloadLength.toNat + crcSize :=
    (h.wf.body pending.length rfl).2.1
  have hsize : headerTotalSize + ctx.payloadLength.toNat + crcSize =
      Scanner.frameSize (pending ++ [byte]) := by
    rw [Scanner.frameSize, ← hlength]
  have hnotHeader : ¬ (pending ++ [byte]).length = headerTotalSize := by
    simp only [List.length_append, List.length_singleton]
    omega
  by_cases hlast : (pending ++ [byte]).length = Scanner.frameSize (pending ++ [byte])
  · -- the last byte of the frame
    have hmissing : pending.length + [byte].length =
        headerTotalSize + ctx.payloadLength.toNat + crcSize := by
      rw [hsize, ← hlast, List.length_append]
    have hfeed := @feed_bodyRest (parseMany 1) ctx pending.length [byte] hmissing (by simp)
    obtain ⟨hadds, hpending, hwf, hnext⟩ := finishBody_scan (pending.length + 1) hpushed hpush hlast
      hlength hdestination hsource
    rw [FollowsByte, parse_byte_of_feed hfeed, Scanner.step, collect_synced byte htwo,
      Scanner.finish, if_neg hnotHeader, if_pos hlast]
    refine ⟨rfl, ⟨hadds.limit, hadds.reports⟩, hwf, ?_⟩
    rcases hnext with ⟨hframes, hstart⟩ | ⟨hframes, hread⟩
    · refine Or.inl ⟨hframes, ?_⟩
      rw [hpending]
      exact holds_nil hwf hstart
    · exact Or.inr ⟨hpending, _, hframes, read_waitRead hread⟩
  · have hmore : pending.length + 1 < headerTotalSize + ctx.payloadLength.toNat + crcSize := by
      rw [List.length_append, List.length_singleton] at hlast
      omega
    have hfeed := @feed_bodyByte (parseMany 1) ctx pending.length byte hmore
    have hwf := feed_wf (parseMany_wf 1) h.wf [byte]
    rw [hfeed] at hwf
    have hposition : position (pending ++ [byte]) = .waitBody (pending.length + 1) := by
      rw [position_body (by simp; omega)]
      simp
    rw [FollowsByte, parse_byte_of_feed hfeed, Scanner.step, collect_synced byte htwo,
      Scanner.finish, if_neg hnotHeader, if_neg hlast]
    exact ⟨rfl, ⟨rfl, (List.append_nil _).symm⟩, hwf, Or.inl ⟨rfl, hwf, hposition.symm, hpush,
      fun _ => ⟨hlength, hdestination, hsource⟩⟩⟩

end

/-- **One byte.**  The parser takes it, and holds what the scanner has then. -/
theorem parse_byte {pending : Bytes} {parser : LinkParser} (h : Holds pending parser)
    (byte : UInt8) : FollowsByte pending parser byte := by
  obtain ⟨ctx, state⟩ := parser
  rcases Nat.lt_trichotomy (pending.length + 1) headerTotalSize with hshort | hheader | hlong
  · exact parse_byte_short h byte hshort
  · exact parse_byte_header h byte hheader
  · exact parse_byte_body h byte (by omega)

/-! ## A stream -/

/-- Reading frame after frame from an input, the parser follows the scanner. -/
theorem drains_scan (bytes : Bytes) {pending : Bytes} {parser : LinkParser}
    (h : Holds pending parser) :
    let scan := Scanner.scan parser.context.maxPayloadLength pending bytes
    ∃ last, Drains parser bytes scan.frames last ∧ Holds scan.pending last ∧
      parser.context.Adds last.context scan.reports := by
  induction bytes generalizing pending parser with
  | nil =>
      have hdone := @Drains.done parser [] (by rw [parse_nil]; exact h.hasResult)
      rw [parse_nil] at hdone
      exact ⟨parser, hdone, h, rfl, (List.append_nil _).symm⟩
  | cons byte bytes ih =>
      obtain ⟨hrest, hadds, hwf, hnext⟩ := parse_byte h byte
      have hparse := parse_append h.wf [byte] bytes
      simp only [Scanner.scan]
      rcases hnext with ⟨hframes, hholds⟩ | ⟨hpending, result, hframes, hread⟩
      · -- nothing is complete: the rest is parsed in the same call
        obtain ⟨last, hdrains, hlast, hadds'⟩ := ih hholds
        rw [hadds.limit] at hdrains hlast hadds'
        rw [if_neg (by rw [hholds.hasResult]; decide)] at hparse
        rw [hframes, List.nil_append]
        refine ⟨last, hdrains.congr hparse, hlast, hadds'.limit.trans hadds.limit, ?_⟩
        rw [hadds'.reports, hadds.reports, List.append_assoc]
      · -- a frame is complete: it is read, and the parser is reset
        obtain ⟨last, hdrains, hlast, hadds'⟩ :=
          ih (holds_nil (reset_wellFormed hwf) rfl)
        rw [show (parser.parse [byte]).1.reset.context.maxPayloadLength =
          parser.context.maxPayloadLength from hadds.limit] at hdrains hlast hadds'
        rw [if_pos (hasResult_of_read hread), hrest, List.nil_append] at hparse
        rw [hframes, List.singleton_append, hpending]
        refine ⟨last, .frame ?_ ?_, hlast, hadds'.limit.trans hadds.limit, ?_⟩
        · rw [show byte :: bytes = [byte] ++ bytes from rfl, hparse]
          exact hread
        · rw [show byte :: bytes = [byte] ++ bytes from rfl, hparse]
          exact hdrains
        · rw [hadds'.reports, ← List.append_assoc, ← hadds.reports]
          rfl

/-- **The parser is a scanner.**  In any chunking a stream yields the frames and the
reports that the scanner finds in it, and no byte is left. -/
theorem readChunks_scan {pending : Bytes} {parser : LinkParser} (h : Holds pending parser)
    (chunks : List Bytes) :
    let scan := Scanner.scan parser.context.maxPayloadLength pending chunks.flatten
    ∃ last, parser.readChunks chunks = (last, scan.frames, []) ∧ Holds scan.pending last ∧
      parser.context.Adds last.context scan.reports := by
  obtain ⟨last, hdrains, hlast, hadds⟩ := drains_scan chunks.flatten h
  exact ⟨last, readChunks_of_drains hdrains h.wf h.hasResult, hlast, hadds⟩

end LinkParser

end Ssp21
