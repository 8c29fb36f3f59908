import Ssp21.Link.Scanner
import Mathlib.Algebra.Group.Nat.Even

/-!
# What a parser finds in a stream

Results about streams of any bytes: frames, noise and damaged frames in any mixture.

* `chunking_independent`: it does not matter how a stream is cut.
* `frames_sound_calls_bounded`: every frame that is found stands in the stream, behind the
  one before, and every call of `parse_one` stays in the buffer.
* `header_failure_loses_nothing`: a header that fails costs the two synchronization bytes.
* `frame_behind_noise_iff`: noise costs the frame behind it exactly if it ends with an odd
  number of first synchronization bytes.

`Enters` describes the calls of `parse_one` inside a call of `parse`, those that reprocess
a header included.  All of them stay in the bounds of the buffer (`enters_inBounds`).
-/

namespace Ssp21

open Wire Link

namespace Scanner

open LinkParser (numberAt part)

variable {limit : UInt16}

/-! ## Frames stand in the stream -/

/-- What is known of an unfinished frame. -/
structure Partial (limit : UInt16) (pending : Bytes) : Prop where
  sync : pending <+: [sync1, sync2] ∨ [sync1, sync2] <+: pending
  header : headerTotalSize ≤ pending.length →
    expectedHeaderCrc pending = actualHeaderCrc pending ∧ payloadLength pending ≤ limit

theorem Partial.nil : Partial limit [] :=
  ⟨Or.inl List.nil_prefix, fun hlong => absurd hlong (by decide)⟩

/-- The first two bytes that are kept are the synchronization bytes. -/
theorem collect_sync {pending : Bytes}
    (hsync : pending <+: [sync1, sync2] ∨ [sync1, sync2] <+: pending) (byte : UInt8) :
    collect pending byte <+: [sync1, sync2] ∨ [sync1, sync2] <+: collect pending byte := by
  match pending with
  | [] =>
      by_cases hbyte : byte = sync1
      · subst hbyte
        exact Or.inl ⟨[sync2], rfl⟩
      · rw [show collect [] byte = [] from if_neg hbyte]
        exact Or.inl List.nil_prefix
  | [first] =>
      by_cases hbyte : byte = sync2
      · subst hbyte
        have hfirst : first = sync1 := by
          rcases hsync with h | h
          · exact (List.cons_prefix_cons.mp h).1
          · exact absurd h.length_le (by simp)
        subst hfirst
        exact Or.inl List.prefix_rfl
      · rw [show collect [first] byte = [] from if_neg hbyte]
        exact Or.inl List.nil_prefix
  | first :: second :: rest =>
      refine Or.inr ?_
      have hboth : [sync1, sync2] <+: first :: second :: rest := by
        rcases hsync with h | h
        · rw [h.eq_of_length_le (by simp)]
        · exact h
      exact hboth.trans (List.prefix_append _ _)

theorem foldl_collect_sync (bytes : Bytes) {pending : Bytes}
    (hsync : pending <+: [sync1, sync2] ∨ [sync1, sync2] <+: pending) :
    bytes.foldl collect pending <+: [sync1, sync2] ∨
      [sync1, sync2] <+: bytes.foldl collect pending := by
  induction bytes generalizing pending with
  | nil => exact hsync
  | cons byte bytes ih => exact ih (collect_sync hsync byte)

/-- Bytes are dropped only at the front. -/
theorem collect_suffix (pending : Bytes) (byte : UInt8) :
    collect pending byte <:+ pending ++ [byte] := by
  unfold collect
  split
  · split_ifs
    · exact List.suffix_rfl
    · exact List.nil_suffix
  · split_ifs
    · exact List.suffix_rfl
    · exact List.nil_suffix
  · exact List.suffix_rfl

theorem foldl_collect_suffix (bytes pending : Bytes) :
    bytes.foldl collect pending <:+ pending ++ bytes := by
  induction bytes generalizing pending with
  | nil => simp
  | cons byte bytes ih =>
      obtain ⟨gap, hgap⟩ := collect_suffix pending byte
      have hall : pending ++ byte :: bytes = gap ++ (collect pending byte ++ bytes) := by
        rw [← List.append_assoc, hgap, List.append_assoc, List.singleton_append]
      rw [hall]
      exact (ih _).trans (List.suffix_append _ _)

/-- The digits of a number that stands in a string. -/
theorem bigEndian_numberAt {bytes : Bytes} {offset width : Nat}
    (hin : offset + width ≤ bytes.length) :
    bigEndian width (numberAt bytes offset width) = part bytes offset width := by
  have hlen : (part bytes offset width).length = width := LinkParser.length_part hin
  have hdigits := bigEndian_ofBigEndian (part bytes offset width)
  rwa [hlen] at hdigits

theorem numberAt_lt (bytes : Bytes) (offset width : Nat) :
    numberAt bytes offset width < 256 ^ width :=
  Nat.lt_of_lt_of_le (ofBigEndian_lt _)
    (Nat.pow_le_pow_right (by decide) (List.length_take_le _ _))

theorem toNat_number16 (bytes : Bytes) (offset : Nat) :
    (UInt16.ofNat (numberAt bytes offset 2)).toNat = numberAt bytes offset 2 := by
  rw [UInt16.toNat_ofNat']
  exact Nat.mod_eq_of_lt (numberAt_lt bytes offset 2)

theorem toNat_number32 (bytes : Bytes) (offset : Nat) :
    (UInt32.ofNat (numberAt bytes offset crcSize)).toNat = numberAt bytes offset crcSize := by
  rw [UInt32.toNat_ofNat']
  exact Nat.mod_eq_of_lt (numberAt_lt bytes offset 4)

theorem part_append_drop (bytes : Bytes) (offset width : Nat) :
    part bytes offset width ++ bytes.drop (offset + width) = bytes.drop offset := by
  rw [part, ← List.drop_drop, List.take_append_drop]

/-- The fields of a header whose first bytes are the synchronization bytes. -/
theorem headerFields_eq_take {bytes : Bytes} (hsync : [sync1, sync2] <+: bytes)
    (hlen : headerFieldsSize ≤ bytes.length) :
    Frame.headerFields (destination bytes) (source bytes) (payloadLength bytes).toNat =
      bytes.take headerFieldsSize := by
  have hwide : 8 ≤ bytes.length := hlen
  have htwo : bytes.take 2 = [sync1, sync2] := (List.prefix_iff_eq_take.mp hsync).symm
  have hsplit : bytes.take headerFieldsSize =
      bytes.take 2 ++ (part bytes 2 2 ++ (part bytes 4 2 ++ part bytes 6 2)) := by
    have hall : bytes.take 2 ++ (part bytes 2 2 ++ (part bytes 4 2 ++ (part bytes 6 2 ++
        bytes.drop 8))) = bytes := by
      rw [part_append_drop, part_append_drop, part_append_drop, List.take_append_drop]
    have hsize : (bytes.take 2 ++ (part bytes 2 2 ++ (part bytes 4 2 ++ part bytes 6 2))).length =
        headerFieldsSize := by
      simp only [List.length_append, List.length_take, LinkParser.length_part (show 2 + 2 ≤
        bytes.length by omega), LinkParser.length_part (show 4 + 2 ≤ bytes.length by omega),
        LinkParser.length_part (show 6 + 2 ≤ bytes.length by omega), headerFieldsSize]
      omega
    conv_lhs => rw [← hall]
    rw [← List.append_assoc (part bytes 4 2), ← List.append_assoc (part bytes 2 2),
      ← List.append_assoc (bytes.take 2), List.take_left' hsize]
  rw [hsplit, htwo, Frame.headerFields, destination, source, payloadLength, toNat_number16,
    toNat_number16, toNat_number16, bigEndian_numberAt (by omega), bigEndian_numberAt (by omega),
    bigEndian_numberAt (by omega)]

/-- A string that passes all checks is a frame. -/
theorem encode_of_complete {bytes : Bytes} (hsync : [sync1, sync2] <+: bytes)
    (hlen : bytes.length = frameSize bytes)
    (hheader : expectedHeaderCrc bytes = actualHeaderCrc bytes)
    (hbody : CastagnoliCRC32.calculate (payload bytes) = actualBodyCrc bytes) :
    bytes = Frame.encode ⟨destination bytes, source bytes, payload bytes⟩ := by
  have hsize : headerTotalSize + (payloadLength bytes).toNat + crcSize = bytes.length := hlen.symm
  have hcrc : headerFieldsSize + crcSize = headerTotalSize := rfl
  have hpayload : (payload bytes).length = (payloadLength bytes).toNat :=
    LinkParser.length_part (by omega)
  have hfields := headerFields_eq_take hsync (by omega)
  have hheaderCrc : Frame.crcBytes (bytes.take headerFieldsSize) =
      part bytes headerFieldsSize crcSize := by
    rw [Frame.crcBytes, show CastagnoliCRC32.calculate (bytes.take headerFieldsSize) =
      actualHeaderCrc bytes from hheader, actualHeaderCrc, toNat_number32,
      bigEndian_numberAt (by omega)]
  have hbodyCrc : Frame.crcBytes (payload bytes) =
      part bytes (headerTotalSize + (payloadLength bytes).toNat) crcSize := by
    rw [Frame.crcBytes, hbody, actualBodyCrc, toNat_number32, bigEndian_numberAt (by omega)]
  have hend : bytes.drop (headerTotalSize + (payloadLength bytes).toNat + crcSize) = [] :=
    List.drop_eq_nil_of_le (by omega)
  have hlast := part_append_drop bytes (headerTotalSize + (payloadLength bytes).toNat) crcSize
  rw [hend, List.append_nil] at hlast
  rw [Frame.encode, Frame.header, hpayload, hfields, hheaderCrc, hbodyCrc, hlast, payload,
    part_append_drop bytes headerTotalSize, List.append_assoc, ← hcrc,
    part_append_drop bytes headerFieldsSize, List.take_append_drop]

/-- What a byte makes of an unfinished frame: the bytes before it are dropped, or they end
with a frame. -/
inductive Stepped (limit : UInt16) (bytes : Bytes) (scan : Scan) : Prop
  | unfinished (hframes : scan.frames = []) (hunfinished : Partial limit scan.pending)
      (hsuffix : scan.pending <:+ bytes)
  | frame (frame : Frame) (hframes : scan.frames = [frame.content]) (hpending : scan.pending = [])
      (hlimit : frame.payload.length ≤ limit.toNat) (hsuffix : frame.encode <:+ bytes)

theorem finish_stepped {pending : Bytes}
    (hsync : pending <+: [sync1, sync2] ∨ [sync1, sync2] <+: pending)
    (hheader : headerTotalSize < pending.length →
      expectedHeaderCrc pending = actualHeaderCrc pending ∧ payloadLength pending ≤ limit) :
    Stepped limit pending (finish limit pending) := by
  unfold finish
  split_ifs with hlen hlen'
  · unfold finishHeader
    split_ifs with hcrc hlong
    · refine .unfinished rfl ⟨foldl_collect_sync _ (Or.inl List.nil_prefix), fun hcomplete => ?_⟩ ?_
      · -- ten bytes do not complete a header
        have hle := foldl_collect_length_le (pending.drop 2) []
        simp only [List.length_drop, List.length_nil, hlen] at hle
        have hsize : 2 < headerTotalSize := by decide
        simp only at hcomplete
        omega
      · exact (foldl_collect_suffix _ []).trans (List.drop_suffix 2 pending)
    · exact .unfinished rfl Partial.nil List.nil_suffix
    · exact .unfinished rfl
        ⟨hsync, fun _ => ⟨not_not.mp hcrc, UInt16.not_lt.mp hlong⟩⟩ List.suffix_rfl
  · have hbody : headerTotalSize < pending.length := by
      rw [hlen', frameSize]
      have hpos : 0 < crcSize := by decide
      omega
    obtain ⟨hcrc, hlimit⟩ := hheader hbody
    unfold finishBody
    split_ifs with hfails
    · exact .unfinished rfl Partial.nil List.nil_suffix
    · have hboth : [sync1, sync2] <+: pending := by
        rcases hsync with h | h
        · have hle := h.length_le
          have hsize : 2 < headerTotalSize := by decide
          simp only [List.length_cons, List.length_nil] at hle
          omega
        · exact h
      have hencode := encode_of_complete hboth hlen' hcrc (not_not.mp hfails)
      have hpayload : (payload pending).length ≤ limit.toNat :=
        (List.length_take_le _ _).trans (UInt16.le_iff_toNat_le.mp hlimit)
      exact .frame ⟨destination pending, source pending, payload pending⟩ rfl rfl hpayload
        (by rw [← hencode])
  · refine .unfinished rfl ⟨hsync, fun hcomplete => hheader ?_⟩ List.suffix_rfl
    exact Nat.lt_of_le_of_ne hcomplete (Ne.symm hlen)

theorem step_stepped {pending : Bytes} (hunfinished : Partial limit pending) (byte : UInt8) :
    Stepped limit (pending ++ [byte]) (step limit pending byte) := by
  have hheader : headerTotalSize < (collect pending byte).length →
      expectedHeaderCrc (collect pending byte) = actualHeaderCrc (collect pending byte) ∧
        payloadLength (collect pending byte) ≤ limit := by
    intro hlong
    have hle := collect_length_le pending byte
    have hwhole : headerTotalSize ≤ pending.length := by omega
    obtain ⟨hcrc, hlimit⟩ := hunfinished.header hwhole
    have hstarts : pending <+: pending ++ [byte] := List.prefix_append _ _
    have hsize : headerFieldsSize + crcSize = headerTotalSize := rfl
    have hsmall : 6 + 2 ≤ headerTotalSize := by decide
    rw [LinkParser.collect_synced byte (Nat.le_trans (by decide) hwhole), expectedHeaderCrc,
      actualHeaderCrc, payloadLength, LinkParser.take_of_starts hstarts (by omega),
      LinkParser.numberAt_of_starts hstarts (by omega),
      LinkParser.numberAt_of_starts hstarts (by omega)]
    exact ⟨hcrc, hlimit⟩
  have hsuffix := collect_suffix pending byte
  cases finish_stepped (collect_sync hunfinished.sync byte) hheader with
  | unfinished hframes hunfinished' h => exact .unfinished hframes hunfinished' (h.trans hsuffix)
  | frame frame hframes hpending hlimit h =>
      exact .frame frame hframes hpending hlimit (h.trans hsuffix)

/-- Frames stand in a string one behind the other, with anything between them. -/
inductive Interleaved (limit : Nat) : List LinkParser.Result → Bytes → Prop
  | rest (bytes : Bytes) : Interleaved limit [] bytes
  | frame (gap : Bytes) (frame : Frame) {results : List LinkParser.Result} {bytes : Bytes}
      (hlimit : frame.payload.length ≤ limit) (h : Interleaved limit results bytes) :
      Interleaved limit (frame.content :: results) (gap ++ (frame.encode ++ bytes))

/-- More bytes in front make no difference. -/
theorem Interleaved.of_suffix {bound : Nat} {results : List LinkParser.Result} {bytes more : Bytes}
    (h : Interleaved bound results bytes) (hsuffix : bytes <:+ more) :
    Interleaved bound results more := by
  obtain ⟨front, rfl⟩ := hsuffix
  cases h with
  | rest bytes => exact .rest _
  | frame gap frame hlimit h =>
      rw [← List.append_assoc]
      exact .frame (front ++ gap) frame hlimit h

/-- A frame is no longer than the string it stands in. -/
theorem Interleaved.length_le {bound : Nat} {results : List LinkParser.Result} {bytes : Bytes}
    (h : Interleaved bound results bytes) {frame : Frame} (hin : frame.content ∈ results) :
    frame.encode.length ≤ bytes.length := by
  induction h with
  | rest bytes => cases hin
  | frame gap other hlimit h ih =>
      simp only [List.length_append]
      rcases List.mem_cons.mp hin with heq | hmore
      · have hsame : frame = other := by
          obtain ⟨destination, source, payload⟩ := frame
          obtain ⟨destination', source', payload'⟩ := other
          simpa [Frame.content] using heq
        rw [hsame]
        omega
      · have hle := ih hmore
        omega

/-- **Every frame that is found stands in the stream.** -/
theorem scan_interleaved (bytes : Bytes) {pending : Bytes} (hunfinished : Partial limit pending) :
    Interleaved limit.toNat (scan limit pending bytes).frames (pending ++ bytes) := by
  induction bytes generalizing pending with
  | nil => exact .rest _
  | cons byte bytes ih =>
      have hsplit : pending ++ byte :: bytes = pending ++ [byte] ++ bytes := by simp
      simp only [scan]
      cases step_stepped hunfinished byte with
      | unfinished hframes hunfinished' hsuffix =>
          rw [hframes, List.nil_append, hsplit]
          obtain ⟨gap, hgap⟩ := hsuffix
          exact (ih hunfinished').of_suffix ⟨gap, by rw [← List.append_assoc, hgap]⟩
      | frame frame hframes hpending hlimit hsuffix =>
          obtain ⟨gap, hgap⟩ := hsuffix
          have hrest := ih (@Partial.nil limit)
          rw [hframes, hpending, List.singleton_append, hsplit, ← hgap, List.append_assoc]
          exact .frame gap frame hlimit hrest

/-! ## Headers and bodies in a stream -/

/-- The synchronization bytes and ten more complete a header. -/
theorem scan_header {fields : Bytes} (hlen : fields.length = headerTotalSize - 2) :
    scan limit [] ([sync1, sync2] ++ fields) = finishHeader limit ([sync1, sync2] ++ fields) := by
  -- all bytes but the last one are only collected
  obtain ⟨front, last, rfl⟩ : ∃ front last, fields = front ++ [last] := by
    have hne : fields ≠ [] := by
      rintro rfl
      exact absurd hlen (by decide)
    exact ⟨_, _, (List.dropLast_concat_getLast hne).symm⟩
  have hfront : ([sync1, sync2] ++ front).length + 1 = headerTotalSize := by
    rw [List.length_append, List.length_singleton] at hlen
    have hsize : 3 ≤ headerTotalSize := by decide
    simp only [List.length_append, List.length_cons, List.length_nil]
    omega
  have hcollected : scan limit [] ([sync1, sync2] ++ front) =
      ⟨[sync1, sync2] ++ front, [], []⟩ := by
    rw [scan_short _ (by simp only [List.length_nil]; omega), List.foldl_append,
      show [sync1, sync2].foldl collect [] = [sync1, sync2] from rfl,
      foldl_collect_synced _ _ (by simp)]
  have hlast : collect ([sync1, sync2] ++ front) last = [sync1, sync2] ++ (front ++ [last]) := by
    rw [LinkParser.collect_synced last (by simp), List.append_assoc]
  have hcomplete : ([sync1, sync2] ++ (front ++ [last])).length = headerTotalSize := by
    rw [← hfront]
    simp
  rw [← List.append_assoc, scan_append, hcollected]
  simp only [scan_singleton, step, hlast, List.nil_append]
  rw [finish, if_pos hcomplete, List.append_assoc]

/-- **A header that fails costs its synchronization bytes.** -/
theorem scan_badHeader {fields : Bytes} (hlen : fields.length = headerTotalSize - 2)
    (hcrc : expectedHeaderCrc ([sync1, sync2] ++ fields) ≠
      actualHeaderCrc ([sync1, sync2] ++ fields)) (more : Bytes) :
    let whole := scan limit [] ([sync1, sync2] ++ fields ++ more)
    let rest := scan limit [] (fields ++ more)
    whole.frames = rest.frames ∧ whole.pending = rest.pending ∧
      whole.reports = .badHeaderCrc (expectedHeaderCrc ([sync1, sync2] ++ fields))
        (actualHeaderCrc ([sync1, sync2] ++ fields)) :: rest.reports := by
  have hfields : scan limit [] fields = ⟨fields.foldl collect [], [], []⟩ :=
    scan_short _ (by rw [hlen]; decide)
  have hwhole : scan limit [] ([sync1, sync2] ++ fields) =
      ⟨fields.foldl collect [], [], [.badHeaderCrc (expectedHeaderCrc ([sync1, sync2] ++ fields))
        (actualHeaderCrc ([sync1, sync2] ++ fields))]⟩ := by
    rw [scan_header hlen, finishHeader, if_pos hcrc]
    rfl
  intro whole rest
  have hwhole' : whole = _ := scan_append [] ([sync1, sync2] ++ fields) more
  have hrest' : rest = _ := scan_append [] fields more
  rw [hwhole', hrest', hwhole, hfields]
  exact ⟨rfl, rfl, rfl⟩

/-- More bytes behind a complete header do not change the size that it announces. -/
theorem frameSize_append {pending : Bytes} (hlong : headerTotalSize ≤ pending.length)
    (bytes : Bytes) : frameSize (pending ++ bytes) = frameSize pending := by
  have hsize : 6 + 2 ≤ headerTotalSize := by decide
  rw [frameSize, frameSize, payloadLength, payloadLength,
    LinkParser.numberAt_of_starts (List.prefix_append pending bytes) (by omega)]

/-- Exactly the missing bytes behind a complete header complete the frame. -/
theorem scan_body {pending : Bytes} (hlong : headerTotalSize ≤ pending.length) {bytes : Bytes}
    (hne : bytes ≠ []) (hlen : pending.length + bytes.length = frameSize pending) :
    scan limit pending bytes = finishBody (pending ++ bytes) := by
  induction bytes generalizing pending with
  | nil => exact absurd rfl hne
  | cons byte bytes ih =>
      have htwo : 2 ≤ pending.length := Nat.le_trans (by decide) hlong
      have hlonger : headerTotalSize < (pending ++ [byte]).length := by
        rw [List.length_append, List.length_singleton]
        omega
      have hsame := frameSize_append hlong [byte]
      have hstep : step limit pending byte = if (pending ++ [byte]).length =
          frameSize (pending ++ [byte]) then finishBody (pending ++ [byte])
          else ⟨pending ++ [byte], [], []⟩ := by
        rw [step, LinkParser.collect_synced byte htwo, finish, if_neg hlonger.ne']
      cases bytes with
      | nil =>
          rw [scan_singleton, hstep, if_pos]
          rw [hsame, ← hlen, List.length_append]
      | cons next bytes =>
          have hopen : (pending ++ [byte]).length ≠ frameSize (pending ++ [byte]) := by
            rw [hsame, ← hlen]
            simp
          have hmore := ih hlonger.le (List.cons_ne_nil next bytes) (by
            rw [hsame, ← hlen]
            simp only [List.length_append, List.length_cons, List.length_nil]
            omega)
          rw [scan, hstep, if_neg hopen, hmore]
          simp

/-- The length that a header announces. -/
theorem payloadLength_header (destination source : UInt16) {length : Nat} (rest : Bytes)
    (hlen : length < 256 ^ 2) :
    (payloadLength (Frame.header destination source length ++ rest)).toNat = length := by
  obtain ⟨-, -, hlength, -⟩ := LinkParser.numberAt_header destination source rest hlen
  rw [payloadLength, hlength, UInt16.toNat_ofNat']
  exact Nat.mod_eq_of_lt hlen

/-- A header with an allowed length is passed. -/
theorem scan_goodHeader (destination source : UInt16) {length : Nat}
    (hlimit : length ≤ limit.toNat) :
    scan limit [] (Frame.header destination source length) =
      ⟨Frame.header destination source length, [], []⟩ := by
  have hlen : length < 256 ^ 2 := Nat.lt_of_le_of_lt hlimit limit.toNat_lt
  obtain ⟨-, -, -, hnumber⟩ := LinkParser.numberAt_header destination source [] hlen
  have hlength := payloadLength_header destination source [] hlen
  rw [List.append_nil] at hnumber hlength
  have hcrc : expectedHeaderCrc (Frame.header destination source length) =
      actualHeaderCrc (Frame.header destination source length) := by
    rw [expectedHeaderCrc, actualHeaderCrc, hnumber, UInt32.ofNat_toNat, Frame.header,
      List.take_left' (Frame.headerFields_length _ _ _)]
  have hshort : ¬ payloadLength (Frame.header destination source length) > limit := by
    rw [gt_iff_lt, UInt16.lt_iff_toNat_lt, hlength]
    omega
  obtain ⟨fields, hfields⟩ : ∃ fields, Frame.header destination source length =
      [sync1, sync2] ++ fields := ⟨_, by rw [Frame.header, Frame.headerFields, List.append_assoc]⟩
  have hten : fields.length = headerTotalSize - 2 := by
    rw [← Frame.header_length destination source length, hfields]
    simp
  rw [hfields, scan_header hten, ← hfields, finishHeader, if_neg (not_not.mpr hcrc), if_neg hshort]

/-- **A body that fails costs the frame.** -/
theorem scan_badBody {frame : Frame} (hlimit : frame.payload.length ≤ limit.toNat) {body : Bytes}
    (hlen : body.length = frame.payload.length + crcSize)
    (hcrc : CastagnoliCRC32.calculate (body.take frame.payload.length) ≠
      UInt32.ofNat (ofBigEndian (body.drop frame.payload.length))) (more : Bytes) :
    let header := Frame.header frame.destination frame.source frame.payload.length
    let whole := scan limit [] (header ++ body ++ more)
    let rest := scan limit [] more
    whole.frames = rest.frames ∧ whole.pending = rest.pending ∧
      whole.reports = .badBodyCrc (CastagnoliCRC32.calculate (body.take frame.payload.length))
        (UInt32.ofNat (ofBigEndian (body.drop frame.payload.length))) :: rest.reports := by
  intro header whole rest
  have hsize : header.length = headerTotalSize := Frame.header_length _ _ _
  have hlength : ∀ bytes, (payloadLength (header ++ bytes)).toNat = frame.payload.length :=
    fun bytes => payloadLength_header _ _ bytes (Nat.lt_of_le_of_lt hlimit limit.toNat_lt)
  have hpayload : payload (header ++ body) = body.take frame.payload.length := by
    rw [payload, hlength, List.drop_left' hsize]
  have hactual : actualBodyCrc (header ++ body) =
      UInt32.ofNat (ofBigEndian (body.drop frame.payload.length)) := by
    rw [actualBodyCrc, hlength, numberAt, ← List.drop_drop, List.drop_left' hsize,
      List.take_of_length_le (by rw [List.length_drop]; omega)]
  have hframe : header.length + body.length = frameSize header := by
    have hannounced := hlength []
    rw [List.append_nil] at hannounced
    rw [frameSize, hannounced, hsize, hlen, Nat.add_assoc]
  have hne : body ≠ [] := by
    rintro rfl
    exact absurd hlen (by simp [crcSize])
  have hfailed : scan limit [] (header ++ body) =
      ⟨[], [], [.badBodyCrc (CastagnoliCRC32.calculate (body.take frame.payload.length))
        (UInt32.ofNat (ofBigEndian (body.drop frame.payload.length)))]⟩ := by
    rw [scan_append, scan_goodHeader _ _ hlimit]
    simp only [List.nil_append]
    rw [scan_body hsize.ge hne hframe, finishBody, hpayload, hactual, if_pos hcrc]
  have hwhole : whole = _ := scan_append [] (header ++ body) more
  rw [hwhole, hfailed]
  exact ⟨rfl, rfl, rfl⟩

/-! ## Noise -/

/-- The number of first synchronization bytes at the end. -/
def trailing (bytes : Bytes) : Nat :=
  (bytes.reverse.takeWhile (· = sync1)).length

theorem trailing_concat (bytes : Bytes) (byte : UInt8) :
    trailing (bytes ++ [byte]) = if byte = sync1 then trailing bytes + 1 else 0 := by
  simp only [trailing, List.reverse_append, List.reverse_singleton, List.singleton_append,
    List.takeWhile_cons, decide_eq_true_eq]
  split_ifs <;> simp

theorem exists_concat_of_trailing {bytes : Bytes} (hpos : trailing bytes ≠ 0) :
    ∃ front, bytes = front ++ [sync1] := by
  induction bytes using List.reverseRecOn with
  | nil => exact absurd rfl hpos
  | append_singleton front last _ =>
      rw [trailing_concat] at hpos
      split_ifs at hpos with hlast
      · exact ⟨front, by rw [hlast]⟩
      · exact absurd rfl hpos

/-- Behind noise the scanner waits for a frame, unless the noise ends with an odd number of
first synchronization bytes: they are taken in pairs. -/
theorem scan_noise {noise : Bytes} (hnoise : ¬ [sync1, sync2] <:+: noise) :
    scan limit [] noise = ⟨if Even (trailing noise) then [] else [sync1], [], []⟩ := by
  induction noise using List.reverseRecOn with
  | nil => simp [scan, trailing]
  | append_singleton front last ih =>
      have hfront : ¬ [sync1, sync2] <:+: front := fun h =>
        hnoise (h.trans (List.prefix_append _ _).isInfix)
      have hstep : ∀ pending : Bytes, pending.length ≤ 1 →
          step limit pending last = ⟨collect pending last, [], []⟩ := by
        intro pending hshort
        have hle := collect_length_le pending last
        have hsize : 2 < headerTotalSize := by decide
        exact finish_short (by omega)
      rw [scan_append, ih hfront]
      simp only [scan_singleton, List.nil_append]
      by_cases heven : Even (trailing front)
      · rw [if_pos heven, hstep [] (by simp), trailing_concat]
        by_cases hlast : last = sync1
        · simp [collect, hlast, Nat.even_add_one, heven]
        · simp [collect, hlast]
      · rw [if_neg heven, hstep [sync1] (by simp), trailing_concat]
        have hlast : last ≠ sync2 := by
          rintro rfl
          have hpos : trailing front ≠ 0 := by
            intro hzero
            rw [hzero] at heven
            exact heven Even.zero
          obtain ⟨before, rfl⟩ := exists_concat_of_trailing hpos
          exact hnoise ⟨before, [], by simp⟩
        by_cases hfirst : last = sync1
        · subst hfirst
          simp [collect, hlast, Nat.even_add_one, heven]
        · simp [collect, hlast, hfirst]

/-- A first synchronization byte in front of a frame costs the synchronization bytes of
the frame. -/
theorem scan_shifted (more : Bytes) :
    scan limit [sync1] ([sync1, sync2] ++ more) = scan limit [] more := by
  have hshifted : scan limit [sync1] [sync1, sync2] = ⟨[], [], []⟩ := by
    rw [scan_short _ (by decide)]
    rfl
  rw [scan_append, hshifted]
  rfl

end Scanner

namespace LinkParser

/-! ## Streams in chunks -/

/-- **Chunking independence.**  However a stream is cut, it yields the same frames and the
same reports. -/
theorem chunking_independent {parser : LinkParser} (hwf : parser.WellFormed)
    (hnone : parser.hasResult = false) {chunks chunks' : List Bytes}
    (hstream : chunks.flatten = chunks'.flatten) :
    (parser.readChunks chunks).2.1 = (parser.readChunks chunks').2.1 ∧
      (parser.readChunks chunks).1.context.reports =
        (parser.readChunks chunks').1.context.reports := by
  obtain ⟨results, last, hdrains⟩ := exists_drains hwf hnone chunks.flatten
  rw [readChunks_of_drains hdrains hwf hnone]
  rw [hstream] at hdrains
  rw [readChunks_of_drains hdrains hwf hnone]
  exact ⟨rfl, rfl⟩

/-- A damaged frame, noise and a frame, in one piece and byte by byte. -/
theorem chunking_independent_sample :
    let stream := [0x07, 0xAA, 0x07, 0xAA, 1, 2, 3] ++ (Frame.encode ⟨1, 10, [5]⟩).set 13 6 ++
      Frame.encode ⟨1, 10, [0x07, 0xAA]⟩
    ((create 8).readChunks [stream]).2.1 = [⟨1, 10, [0x07, 0xAA]⟩] ∧
      ((create 8).readChunks [stream]).2.1 =
        ((create 8).readChunks (stream.map (fun byte => [byte]))).2.1 ∧
      ((create 8).readChunks [stream]).1.context.reports =
        ((create 8).readChunks (stream.map (fun byte => [byte]))).1.context.reports := by
  intro stream
  refine ⟨by decide +kernel, ?_⟩
  exact chunking_independent (create_wellFormed 8) rfl (by decide +kernel)

/-- What two parsers that wait for a frame make of two streams, in any chunking, can be
compared on the scanner. -/
theorem readChunks_start {parser : LinkParser} (hwf : parser.WellFormed)
    (hstart : parser.state = .waitSync1) (chunks : List Bytes) :
    let scan := Scanner.scan parser.context.maxPayloadLength [] chunks.flatten
    (parser.readChunks chunks).2.1 = scan.frames ∧
      (parser.readChunks chunks).1.context.reports = parser.context.reports ++ scan.reports := by
  obtain ⟨last, hread, -, hadds⟩ := readChunks_scan (holds_nil hwf hstart) chunks
  rw [hread]
  exact ⟨rfl, hadds.reports⟩

/-- One stream yields the frames of another one, behind one more report. -/
theorem readChunks_report {parser parser' : LinkParser} (hwf : parser.WellFormed)
    (hwf' : parser'.WellFormed) (hstart : parser.state = .waitSync1)
    (hstart' : parser'.state = .waitSync1)
    (hlimit : parser.context.maxPayloadLength = parser'.context.maxPayloadLength)
    {chunks chunks' : List Bytes} {report : Report}
    (hframes : (Scanner.scan parser'.context.maxPayloadLength [] chunks.flatten).frames =
      (Scanner.scan parser'.context.maxPayloadLength [] chunks'.flatten).frames)
    (hreports : (Scanner.scan parser'.context.maxPayloadLength [] chunks.flatten).reports =
      report :: (Scanner.scan parser'.context.maxPayloadLength [] chunks'.flatten).reports) :
    (parser.readChunks chunks).2.1 = (parser'.readChunks chunks').2.1 ∧
    ∃ later,
      (parser.readChunks chunks).1.context.reports = parser.context.reports ++ report :: later ∧
      (parser'.readChunks chunks').1.context.reports = parser'.context.reports ++ later := by
  obtain ⟨hfound, hmade⟩ := readChunks_start hwf hstart chunks
  obtain ⟨hfound', hmade'⟩ := readChunks_start hwf' hstart' chunks'
  rw [hlimit, hframes] at hfound
  rw [hlimit, hreports] at hmade
  exact ⟨hfound.trans hfound'.symm, _, hmade, hmade'⟩

/-- Frames are found one by one; nothing is reported, and nothing is left over. -/
theorem scan_frames {limit : UInt16} {frames : List Frame}
    (hlimit : ∀ frame ∈ frames, frame.payload.length ≤ limit.toNat) :
    Scanner.scan limit [] (frames.map Frame.encode).flatten =
      ⟨[], frames.map Frame.content, []⟩ := by
  -- the scanner does what a parser with this limit does
  let parser : LinkParser := ⟨⟨limit, List.replicate (minFrameSize + limit.toNat) 0, ⟨0, 0, []⟩, 0,
    []⟩, .waitSync1⟩
  have hwf : parser.WellFormed := Wf.ofRoom (by simp [parser]) (by simp [parser]) (by simp [parser])
  obtain ⟨last, hdrains, hstart, hquiet⟩ := @drains_frames parser hwf rfl frames hlimit
  have hread := @readChunks_of_drains parser last [(frames.map Frame.encode).flatten] _
    (by simpa using hdrains) hwf rfl
  obtain ⟨last', hread', hholds, hadds⟩ :=
    readChunks_scan (holds_nil hwf rfl) [(frames.map Frame.encode).flatten]
  rw [hread] at hread'
  obtain ⟨rfl, hframes⟩ : last = last' ∧ frames.map Frame.content = _ := by simpa using hread'
  simp only [List.flatten_cons, List.flatten_nil, List.append_nil] at hholds hadds
  have hpending : (Scanner.scan limit [] (frames.map Frame.encode).flatten).pending = [] :=
    position_start (hholds.state.symm.trans hstart)
  have hreports : (Scanner.scan limit [] (frames.map Frame.encode).flatten).reports = [] := by
    have hnone := hadds.reports
    rw [hquiet] at hnone
    exact List.append_right_eq_self.mp hnone.symm
  calc Scanner.scan limit [] (frames.map Frame.encode).flatten
      = ⟨_, _, _⟩ := rfl
    _ = ⟨[], frames.map Frame.content, []⟩ := by rw [hpending, hreports, hframes]

/-- A frame is found, and nothing is reported. -/
theorem scan_encode {limit : UInt16} {frame : Frame} (hlimit : frame.payload.length ≤ limit.toNat) :
    (Scanner.scan limit [] frame.encode).frames = [frame.content] ∧
      (Scanner.scan limit [] frame.encode).reports = [] := by
  have hscan := @scan_frames limit [frame] (by simpa using hlimit)
  simp only [List.map_cons, List.map_nil, List.flatten_cons, List.flatten_nil, List.append_nil]
    at hscan
  rw [hscan]
  exact ⟨rfl, rfl⟩

/-! ## Noise in front of a frame -/

/-- **Resynchronization.**  Noise without the synchronization sequence, followed by a frame,
yields exactly that frame and no report, in any chunking, if and only if the noise ends with
an even number of first synchronization bytes. -/
theorem frame_behind_noise_iff {parser : LinkParser} (hwf : parser.WellFormed)
    (hstart : parser.state = .waitSync1) {noise : Bytes} (hnoise : ¬ [sync1, sync2] <:+: noise)
    {frame : Frame} (hlimit : frame.payload.length ≤ parser.context.maxPayloadLength.toNat)
    {chunks : List Bytes} (hchunks : chunks.flatten = noise ++ frame.encode) :
    ((parser.readChunks chunks).2.1 = [frame.content] ∧
      (parser.readChunks chunks).1.context.reports = parser.context.reports) ↔
    Even (Scanner.trailing noise) := by
  obtain ⟨hframes, hreports⟩ := readChunks_start hwf hstart chunks
  rw [hframes, hreports, hchunks, Scanner.scan_append, Scanner.scan_noise hnoise]
  simp only [List.nil_append, List.append_right_eq_self]
  by_cases heven : Even (Scanner.trailing noise)
  · rw [if_pos heven]
    exact iff_of_true (scan_encode hlimit) heven
  · rw [if_neg heven]
    refine iff_of_false (fun hboth => ?_) heven
    obtain ⟨more, hmore⟩ : ∃ more, frame.encode = [sync1, sync2] ++ more :=
      ⟨_, by simp [Frame.encode, Frame.header, Frame.headerFields]; rfl⟩
    -- the frame is found in what is left of it
    have hfound := hboth.1
    rw [hmore, Scanner.scan_shifted] at hfound
    have hin := Scanner.scan_interleaved more
      (@Scanner.Partial.nil parser.context.maxPayloadLength)
    have hle := hin.length_le
      (show frame.content ∈ _ by rw [hfound]; exact List.mem_singleton_self _)
    rw [hmore] at hle
    simp only [List.length_append, List.length_cons, List.length_nil] at hle
    omega

/-- Two first synchronization bytes are skipped together. -/
theorem frame_behind_noise_pair :
    let noise : Bytes := [0xFF, 0xAA, 0x07, 0x07]
    let frame : Frame := ⟨1, 10, [5]⟩
    let chunks := [noise ++ frame.encode.take 3, frame.encode.drop 3]
    ((create 8).readChunks chunks).2.1 = [frame.content] ∧
      ((create 8).readChunks chunks).1.context.reports = [] := by
  intro noise frame chunks
  exact (frame_behind_noise_iff (create_wellFormed 8) rfl (show ¬ [sync1, sync2] <:+: noise by
    decide) (show frame.payload.length ≤ (create 8).context.maxPayloadLength.toNat by decide)
    (show chunks.flatten = noise ++ frame.encode by decide +kernel)).mpr (by decide)

/-- A single first synchronization byte in front of a frame hides the frame. -/
theorem frame_behind_sync1_lost :
    let noise : Bytes := [0x07]
    let frame : Frame := ⟨1, 10, [5]⟩
    ¬ [sync1, sync2] <:+: noise ∧
      frame.payload.length ≤ (create 8).context.maxPayloadLength.toNat ∧
      ((create 8).readChunks [noise ++ frame.encode]).2.1 = [] := by
  decide +kernel

/-! ## Calls of `parse_one`

A turn of the loop of `parse_many` enters `parse_one` at a state, a context and a source.
When the header is complete and its checksum is wrong, the turn makes a nested call. -/

/-- The loop, with a number of nested calls that are allowed, enters `parse_one` at a
position: in its first turn, in a later one, or in a nested call. -/
inductive Enters : Nat → Outcome → Outcome → Prop
  | first {depth : Nat} {state : State} {ctx : Context} {input : Source}
      (hinput : input.length ≠ 0) (hwait : state.isWaitRead = false) :
      Enters (depth + 1) (state, ctx, input) (state, ctx, input)
  | later {depth : Nat} {state : State} {ctx : Context} {input : Source} {entered : Outcome}
      (hinput : input.length ≠ 0) (hwait : state.isWaitRead = false)
      (h : Enters (depth + 1) (parseOne (parseMany depth) state ctx input) entered) :
      Enters (depth + 1) (state, ctx, input) entered
  | nested {depth num : Nat} {ctx : Context} {input : Source} {entered : Outcome}
      (hinput : input.length ≠ 0)
      (hcomplete : (transferData num ctx input headerTotalSize).1 = headerTotalSize)
      (hfails : HeaderFails (transferData num ctx input headerTotalSize).2.1)
      (h : Enters depth (.waitSync1, reportHeader (transferData num ctx input headerTotalSize).2.1,
        .buffered 2 (headerTotalSize - 2)) entered) :
      Enters (depth + 1) (.waitHeader num, ctx, input) entered

/-- The size of the item that is being collected. -/
def itemSize (ctx : Context) : State → Nat
  | .waitSync1 => 1
  | .waitSync2 => 2
  | .waitHeader _ => headerTotalSize
  | .waitBody _ => headerTotalSize + ctx.payloadLength.toNat + crcSize
  | .waitRead num => num

/-- A call in the bounds of a buffer of some size: less is buffered than the item has, the
item fits, and so does what the call writes. -/
structure InBounds (size : Nat) (entered : Outcome) : Prop where
  buffered_lt : entered.1.numBuffered < itemSize entered.2.1 entered.1
  item_le : itemSize entered.2.1 entered.1 ≤ size
  buffer_length : entered.2.1.buffer.length = size
  write_le : entered.1.numBuffered +
    min (itemSize entered.2.1 entered.1 - entered.1.numBuffered) entered.2.2.length ≤ size

theorem inBounds_of_wf {state : State} {ctx : Context} (input : Source) (hwf : Wf state ctx)
    (hwait : state.isWaitRead = false) : InBounds ctx.buffer.length (state, ctx, input) := by
  have hroom := hwf.room
  have hsize : headerTotalSize + crcSize = minFrameSize := rfl
  have htwo : 2 < headerTotalSize := by decide
  have hbelow : state.numBuffered < itemSize ctx state ∧
      itemSize ctx state ≤ ctx.buffer.length := by
    cases state with
    | waitSync1 =>
        simp only [State.numBuffered, itemSize]
        omega
    | waitSync2 =>
        simp only [State.numBuffered, itemSize]
        omega
    | waitHeader num =>
        obtain ⟨hlow, hhigh⟩ := hwf.header num rfl
        simp only [State.numBuffered, itemSize]
        omega
    | waitBody num =>
        obtain ⟨hlow, hhigh, hmax⟩ := hwf.body num rfl
        have hle := UInt16.le_iff_toNat_le.mp hmax
        simp only [State.numBuffered, itemSize]
        omega
    | waitRead num => cases hwait
  refine ⟨hbelow.1, hbelow.2, rfl, ?_⟩
  simp only
  omega

/-! ### The buffer keeps its size -/

section

variable {reparse : State → Context → Source → Outcome}

/-- The nested call does not change the size of the buffer. -/
def KeepsSize (reparse : State → Context → Source → Outcome) : Prop :=
  ∀ state ctx input, Wf state ctx →
    (reparse state ctx input).2.1.buffer.length = ctx.buffer.length

theorem parseSync1_size (count : Nat) (ctx : Context) (input : Source)
    (hroom : 1 ≤ ctx.buffer.length) :
    (parseSync1 count ctx input).2.1.buffer.length = ctx.buffer.length := by
  induction count generalizing input with
  | zero => rfl
  | succ count ih =>
      simp only [parseSync1]
      split_ifs
      · exact length_writeAt (by simpa using hroom)
      · exact ih _

/-- What is moved stays inside the item. -/
theorem transferData_size {num target : Nat} (ctx : Context) (input : Source)
    (hnum : num ≤ target) (htarget : target ≤ ctx.buffer.length) :
    (transferData num ctx input target).2.1.buffer.length = ctx.buffer.length := by
  refine length_writeAt ?_
  have hle := List.length_take_le (min (target - num) input.length) (input.bytes ctx.buffer)
  omega

theorem finishHeader_size (hkeeps : KeepsSize reparse) {ctx : Context}
    (hroom : minFrameSize + ctx.maxPayloadLength.toNat ≤ ctx.buffer.length) :
    (finishHeader reparse ctx).2.buffer.length = ctx.buffer.length := by
  simp only [finishHeader]
  split_ifs
  · exact hkeeps _ _ _ (Wf.ofRoom hroom (by simp) (by simp))
  · rfl
  · rfl

theorem finishBody_size (total : Nat) (ctx : Context) :
    (finishBody total ctx).2.buffer.length = ctx.buffer.length := by
  simp only [finishBody]
  split_ifs <;> rfl

theorem parseOne_size (hkeeps : KeepsSize reparse) {state : State} {ctx : Context}
    (input : Source) (hwf : Wf state ctx) :
    (parseOne reparse state ctx input).2.1.buffer.length = ctx.buffer.length := by
  have hroom := hwf.room
  have hsize : headerTotalSize + crcSize = minFrameSize := rfl
  have htwo : 2 < headerTotalSize := by decide
  cases state with
  | waitSync1 => exact parseSync1_size _ ctx input (by omega)
  | waitSync2 =>
      simp only [parseOne, parseSync2]
      split_ifs
      · exact length_writeAt (by simp only [List.length_singleton]; omega)
      · rfl
  | waitHeader num =>
      obtain ⟨hlow, hhigh⟩ := hwf.header num rfl
      have hmoved := transferData_size ctx input (Nat.le_of_lt hhigh) (show headerTotalSize ≤ _ by
        omega)
      simp only [parseOne, parseHeader]
      split_ifs
      · exact hmoved
      · refine (finishHeader_size hkeeps ?_).trans hmoved
        rw [hmoved]
        exact hroom
  | waitBody num =>
      obtain ⟨hlow, hhigh, hmax⟩ := hwf.body num rfl
      have hle := UInt16.le_iff_toNat_le.mp hmax
      have hmoved := transferData_size ctx input (Nat.le_of_lt hhigh) (by omega)
      simp only [parseOne, parseBody]
      split_ifs
      · exact hmoved
      · exact (finishBody_size _ _).trans hmoved
  | waitRead num => rfl

theorem parseLoop_size (hwf : KeepsWf reparse) (hkeeps : KeepsSize reparse) (fuel : Nat) :
    KeepsSize (parseLoop reparse fuel) := by
  induction fuel with
  | zero => exact fun state ctx input _ => rfl
  | succ fuel ih =>
      intro state ctx input hposition
      simp only [parseLoop]
      split_ifs with hstop
      · rfl
      · rw [not_or, Bool.not_eq_true] at hstop
        have hnext := (parseOne_progress hwf hposition (Nat.pos_of_ne_zero hstop.1) hstop.2).wf
        exact (ih _ _ _ hnext).trans (parseOne_size hkeeps input hposition)

end

theorem parseMany_size (depth : Nat) : KeepsSize (parseMany depth) := by
  induction depth with
  | zero => exact fun state ctx input _ => rfl
  | succ depth ih =>
      exact fun state ctx input => parseLoop_size (parseMany_wf depth) ih _ state ctx input

/-- **Every call stays in bounds.** -/
theorem enters_inBounds {depth : Nat} {start entered : Outcome} (h : Enters depth start entered)
    (hwf : Wf start.1 start.2.1) : InBounds start.2.1.buffer.length entered := by
  induction h with
  | first hinput hwait => exact inBounds_of_wf _ hwf hwait
  | @later depth state ctx input entered hinput hwait h ih =>
      have hnext := (parseOne_progress (parseMany_wf depth) hwf
        (Nat.pos_of_ne_zero hinput) hwait).wf
      have hsize := parseOne_size (parseMany_size depth) input hwf
      rw [← show (parseOne (parseMany depth) state ctx input).2.1.buffer.length =
        ctx.buffer.length from hsize]
      exact ih hnext
  | @nested depth num ctx input entered hinput hcomplete hfails h ih =>
      obtain ⟨hlow, hhigh⟩ := hwf.header num rfl
      have hroom := hwf.room
      have hsize : headerTotalSize + crcSize = minFrameSize := rfl
      have hmoved := transferData_size ctx input (Nat.le_of_lt hhigh)
        (show headerTotalSize ≤ ctx.buffer.length by simp only at hroom; omega)
      have hcall : Wf .waitSync1
          (reportHeader (transferData num ctx input headerTotalSize).2.1) := by
        refine Wf.ofRoom ?_ (by simp) (by simp)
        change _ ≤ (transferData num ctx input headerTotalSize).2.1.buffer.length
        rw [hmoved]
        exact hroom
      rw [← show (transferData num ctx input headerTotalSize).2.1.buffer.length =
        ctx.buffer.length from hmoved]
      exact ih hcall

/-! ### Reprocessing never completes a header -/

/-- A position inside the buffer that is too close to the end of the reprocessed bytes for
another header. -/
structure Short (position : Outcome) : Prop where
  early : position.1 = .waitSync1 ∨ position.1 = .waitSync2 ∨ ∃ num, position.1 = .waitHeader num
  rest : ∃ offset length, position.2.2 = .buffered offset length ∧
    position.1.numBuffered ≤ offset ∧ position.1.numBuffered + length < headerTotalSize ∧
    offset + length ≤ position.2.1.buffer.length

theorem InPlace.short {inner outer : Outcome} (h : InPlace inner outer) : Short inner := by
  obtain ⟨offset, length, hinner, -, hnum, hshort, hin⟩ := h.rest
  exact ⟨h.early, offset, length, hinner, hnum, hshort, hin⟩

theorem Short.inPlace {position : Outcome} (h : Short position) :
    ∃ outer, InPlace position outer := by
  obtain ⟨offset, length, hinner, hnum, hshort, hin⟩ := h.rest
  exact ⟨(position.1, position.2.1, .external (part position.2.1.buffer offset length)), rfl, rfl,
    h.early, offset, length, hinner, rfl, hnum, hshort, hin⟩

theorem Short.parseOne {reparse : State → Context → Source → Outcome} {state : State}
    {ctx : Context} {input : Source} (h : Short (state, ctx, input)) (hinput : input.length ≠ 0) :
    Short (parseOne reparse state ctx input) := by
  obtain ⟨hearly, offset, length, hbuffered, hnum, hshort, hin⟩ := h
  change input = .buffered offset length at hbuffered
  subst hbuffered
  exact (parseOne_inPlace ctx hearly hnum (Nat.pos_of_ne_zero hinput) hshort hin).short

/-- The nested call that reprocesses a header. -/
theorem short_call {ctx : Context} (hroom : headerTotalSize ≤ ctx.buffer.length) :
    Short (.waitSync1, ctx, .buffered 2 (headerTotalSize - 2)) := by
  refine ⟨Or.inl rfl, 2, headerTotalSize - 2, rfl, Nat.zero_le _, ?_, ?_⟩
  · show 0 + (headerTotalSize - 2) < headerTotalSize
    decide
  · show 2 + (headerTotalSize - 2) ≤ ctx.buffer.length
    have htwo : 2 ≤ headerTotalSize := by decide
    omega

/-- The call completes a header, which is then validated. -/
def Validates (entered : Outcome) : Prop :=
  ∃ num, entered.1 = .waitHeader num ∧
    (transferData num entered.2.1 entered.2.2 headerTotalSize).1 = headerTotalSize

theorem Short.not_validates {position : Outcome} (h : Short position) : ¬ Validates position := by
  rintro ⟨num, hstate, hcomplete⟩
  obtain ⟨offset, length, hbuffered, hnum, hshort, hin⟩ := h.rest
  rw [hstate] at hshort
  rw [hbuffered] at hcomplete
  simp only [transferData, Source.length, State.numBuffered] at hcomplete hshort
  omega

theorem enters_short {depth : Nat} {start entered : Outcome} (h : Enters depth start entered)
    (hshort : Short start) : Short entered := by
  induction h with
  | first hinput hwait => exact hshort
  | later hinput hwait h ih => exact ih (hshort.parseOne hinput)
  | nested hinput hcomplete hfails h ih =>
      exact absurd ⟨_, rfl, hcomplete⟩ hshort.not_validates

theorem parseMany_short {depth : Nat} {state : State} {ctx : Context} {input : Source}
    (h : Short (state, ctx, input)) : Short (parseMany depth state ctx input) := by
  cases depth with
  | zero => exact h
  | succ depth =>
      obtain ⟨outer, hsame⟩ := h.inPlace
      exact (parseLoop_inPlace _ hsame).short

theorem Short.numBuffered_lt {position : Outcome} (h : Short position) :
    position.1.numBuffered < headerTotalSize := by
  obtain ⟨offset, length, -, -, hshort, -⟩ := h.rest
  omega

/-- **A header that fails loses no bytes.**  Two parsers with the same limit wait for a
frame.  One is given the synchronization sequence and ten bytes that do not complete it to a
header, the other one only the ten bytes, and both the same continuation, in any chunking.
They find the same frames, and make the same reports behind the one about the header.  The
call that reprocesses the ten bytes leaves fewer bytes than a header has, and no call of
`parse_one` inside it completes a header. -/
theorem header_failure_loses_nothing {parser parser' : LinkParser} (hwf : parser.WellFormed)
    (hwf' : parser'.WellFormed) (hstart : parser.state = .waitSync1)
    (hstart' : parser'.state = .waitSync1)
    (hlimit : parser.context.maxPayloadLength = parser'.context.maxPayloadLength)
    {fields : Bytes} (hlen : fields.length = headerTotalSize - 2)
    (hcrc : Scanner.expectedHeaderCrc ([sync1, sync2] ++ fields) ≠
      Scanner.actualHeaderCrc ([sync1, sync2] ++ fields)) {more : Bytes}
    {chunks chunks' : List Bytes} (hchunks : chunks.flatten = [sync1, sync2] ++ fields ++ more)
    (hchunks' : chunks'.flatten = fields ++ more) :
    (parser.readChunks chunks).2.1 = (parser'.readChunks chunks').2.1 ∧
    (∃ expected actual later,
      (parser.readChunks chunks).1.context.reports =
        parser.context.reports ++ .badHeaderCrc expected actual :: later ∧
      (parser'.readChunks chunks').1.context.reports = parser'.context.reports ++ later) ∧
    ∀ depth ctx, headerTotalSize ≤ ctx.buffer.length →
      (parseMany depth .waitSync1 ctx (.buffered 2 (headerTotalSize - 2))).1.numBuffered <
        headerTotalSize ∧
      ∀ entered, Enters depth (.waitSync1, ctx, .buffered 2 (headerTotalSize - 2)) entered →
        ¬ Validates entered := by
  obtain ⟨hsame, -, hfirst⟩ := @Scanner.scan_badHeader parser'.context.maxPayloadLength fields hlen
    hcrc more
  rw [← hchunks, ← hchunks'] at hsame hfirst
  obtain ⟨hframes, later, hreports⟩ :=
    readChunks_report hwf hwf' hstart hstart' hlimit hsame hfirst
  refine ⟨hframes, ⟨_, _, later, hreports⟩, ?_⟩
  intro depth ctx hroom
  have hcall := short_call hroom
  exact ⟨(parseMany_short hcall).numBuffered_lt,
    fun entered h => (enters_short h hcall).not_validates⟩

namespace FalseHeader

/-- Ten bytes that begin another header, which the continuation completes to a frame. -/
def fields : Bytes := (Frame.encode ⟨1, 10, [5]⟩).take 10

def continuation : Bytes := (Frame.encode ⟨1, 10, [5]⟩).drop 10

theorem fields_fail : Scanner.expectedHeaderCrc ([sync1, sync2] ++ fields) ≠
    Scanner.actualHeaderCrc ([sync1, sync2] ++ fields) := by
  decide +kernel

end FalseHeader

theorem header_failure_loses_nothing_sample :
    ((create 8).readChunks [[sync1, sync2] ++ FalseHeader.fields ++ FalseHeader.continuation]).2.1 =
      [⟨1, 10, [5]⟩] ∧
    ((create 8).readChunks [[sync1, sync2] ++ FalseHeader.fields ++ FalseHeader.continuation]).2.1 =
      ((create 8).readChunks [FalseHeader.fields, FalseHeader.continuation]).2.1 := by
  have hchunks : [[sync1, sync2] ++ FalseHeader.fields ++ FalseHeader.continuation].flatten =
      [sync1, sync2] ++ FalseHeader.fields ++ FalseHeader.continuation := List.flatten_singleton
  have hchunks' : [FalseHeader.fields, FalseHeader.continuation].flatten =
      FalseHeader.fields ++ FalseHeader.continuation := by
    rw [List.flatten_cons, List.flatten_singleton]
  have hlen : FalseHeader.fields.length = headerTotalSize - 2 := by decide +kernel
  have hboth := @header_failure_loses_nothing (create 8) (create 8) (create_wellFormed 8)
    (create_wellFormed 8) rfl rfl rfl FalseHeader.fields hlen FalseHeader.fields_fail
      FalseHeader.continuation
    [[sync1, sync2] ++ FalseHeader.fields ++ FalseHeader.continuation]
    [FalseHeader.fields, FalseHeader.continuation]
    hchunks hchunks'
  exact ⟨by decide +kernel, hboth.1⟩

/-! ### The allowed number of nested calls -/

/-- Inside a nested call no further one is made, so it does not matter what it would do. -/
theorem Short.parseLoop_eq (reparse reparse' : State → Context → Source → Outcome) (fuel : Nat)
    {state : State} {ctx : Context} {input : Source} (h : Short (state, ctx, input)) :
    parseLoop reparse fuel state ctx input = parseLoop reparse' fuel state ctx input := by
  induction fuel generalizing state ctx input with
  | zero => rfl
  | succ fuel ih =>
      simp only [parseLoop]
      split_ifs with hstop
      · rfl
      · have hturn : LinkParser.parseOne reparse state ctx input =
            LinkParser.parseOne reparse' state ctx input := by
          rcases h.early with hstate | hstate | ⟨num, hstate⟩ <;>
            (change state = _ at hstate; subst hstate)
          · rfl
          · rfl
          · have hopen : (transferData num ctx input headerTotalSize).1 ≠ headerTotalSize :=
              fun hcomplete => h.not_validates ⟨num, rfl, hcomplete⟩
            simp only [LinkParser.parseOne, parseHeader]
            rw [if_pos hopen, if_pos hopen]
        rw [hturn]
        exact ih (h.parseOne (fun hzero => hstop (Or.inl hzero)))

/-- Two levels of nesting are as good as any number of them. -/
theorem parseMany_depth (depth : Nat) {state : State} {ctx : Context} (input : Source)
    (hwf : Wf state ctx) :
    parseMany (depth + 2) state ctx input = parseMany 2 state ctx input := by
  have hheader : ∀ ctx : Context, minFrameSize + ctx.maxPayloadLength.toNat ≤ ctx.buffer.length →
      finishHeader (parseMany (depth + 1)) ctx = finishHeader (parseMany 1) ctx := by
    intro ctx hroom
    have hcall : parseMany (depth + 1) .waitSync1 (reportHeader ctx) (.buffered 2
        (headerTotalSize - 2)) = parseMany 1 .waitSync1 (reportHeader ctx) (.buffered 2
        (headerTotalSize - 2)) := by
      refine Short.parseLoop_eq _ _ _ (short_call ?_)
      have hsize : headerTotalSize + crcSize = minFrameSize := rfl
      change headerTotalSize ≤ ctx.buffer.length
      omega
    by_cases hfails : HeaderFails ctx
    · rw [finishHeader_fails _ hfails, finishHeader_fails _ hfails, hcall]
    · exact (if_neg hfails).trans (if_neg hfails).symm
  have hloop : ∀ fuel, ∀ state : State, ∀ ctx : Context, ∀ input, Wf state ctx →
      parseLoop (parseMany (depth + 1)) fuel state ctx input =
        parseLoop (parseMany 1) fuel state ctx input := by
    intro fuel
    induction fuel with
    | zero => exact fun state ctx input _ => rfl
    | succ fuel ih =>
        intro state ctx input hwf
        simp only [parseLoop]
        split_ifs with hstop
        · rfl
        · rw [not_or, Bool.not_eq_true] at hstop
          have hturn : LinkParser.parseOne (parseMany (depth + 1)) state ctx input =
              LinkParser.parseOne (parseMany 1) state ctx input := by
            cases state with
            | waitHeader num =>
                have hmoved := room_writeAt num ((input.bytes ctx.buffer).take
                  (min (headerTotalSize - num) input.length)) hwf.room
                simp only [LinkParser.parseOne, parseHeader]
                rw [hheader _ hmoved]
            | _ => rfl
          rw [hturn]
          exact ih _ _ _ (parseOne_progress (parseMany_wf 1) hwf (Nat.pos_of_ne_zero hstop.1)
            hstop.2).wf
  exact hloop input.length state ctx input hwf

/-! ## Soundness and bounds -/

/-- The parsers that calls of `parse` and `reset` lead to. -/
inductive Reachable (maxPayloadLength : UInt16) : LinkParser → Prop
  | create : Reachable maxPayloadLength (create maxPayloadLength)
  | parse {parser : LinkParser} (h : Reachable maxPayloadLength parser) (input : Bytes) :
      Reachable maxPayloadLength (parser.parse input).1
  | reset {parser : LinkParser} (h : Reachable maxPayloadLength parser) :
      Reachable maxPayloadLength parser.reset

theorem Reachable.size {maxPayloadLength : UInt16} {parser : LinkParser}
    (h : Reachable maxPayloadLength parser) :
    parser.WellFormed ∧
      parser.context.buffer.length = minFrameSize + maxPayloadLength.toNat := by
  induction h with
  | create => exact ⟨create_wellFormed _, List.length_replicate⟩
  | parse h input ih =>
      exact ⟨parse_wellFormed ih.1 input, (parseMany_size 2 _ _ _ ih.1).trans ih.2⟩
  | reset h ih => exact ⟨reset_wellFormed ih.1, ih.2⟩

/-- **Soundness and bounds.**  The frames that are read from a stream in any chunking stand
in the stream one behind the other, as `Frame.encode` lays them out, with payloads within the
limit.  In every reachable state, every call of `parse_one` inside `parse` finds fewer bytes
buffered than the item it collects has, and writes only inside the buffer, which always has
the size it was created with. -/
theorem frames_sound_calls_bounded (maxPayloadLength : UInt16) :
    (∀ chunks, Scanner.Interleaved (min maxPayloadLength.toNat maxConfigPayloadSize)
      ((create maxPayloadLength).readChunks chunks).2.1 chunks.flatten) ∧
    ∀ parser, Reachable maxPayloadLength parser → ∀ depth input entered,
      Enters depth (parser.state, parser.context, .external input) entered →
        InBounds (minFrameSize + maxPayloadLength.toNat) entered := by
  constructor
  · intro chunks
    have hlimit : (create maxPayloadLength).context.maxPayloadLength.toNat =
        min maxPayloadLength.toNat maxConfigPayloadSize := by
      have hlt := maxPayloadLength.toNat_lt
      simp only [create, UInt16.toNat_ofNat']
      omega
    obtain ⟨hframes, -⟩ := readChunks_start (create_wellFormed maxPayloadLength) rfl chunks
    rw [hframes, ← hlimit]
    exact Scanner.scan_interleaved chunks.flatten Scanner.Partial.nil
  · intro parser hreachable depth input entered hentered
    obtain ⟨hwf, hsize⟩ := hreachable.size
    have hbounds := enters_inBounds hentered hwf
    rwa [show (parser.state, parser.context, Source.external input).2.1.buffer.length = _ from
      hsize] at hbounds

/-- A parser inside the body of a frame of the maximal size. -/
theorem frames_sound_calls_bounded_sample :
    let frame : Frame := ⟨1, 10, [1, 2, 3]⟩
    let parser := ((create 3).parse (frame.encode.take 14)).1
    parser.state = .waitBody 14 ∧
      InBounds 19 (parser.state, parser.context, .external [3]) := by
  intro frame parser
  refine ⟨by decide +kernel, ?_⟩
  exact (frames_sound_calls_bounded 3).2 parser (.parse .create _) 2 [3] _
    (.first (by decide) (by decide +kernel))

end LinkParser

end Ssp21
