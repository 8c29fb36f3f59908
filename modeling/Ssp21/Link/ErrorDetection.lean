import Ssp21.Foundation.Gf2
import Ssp21.Link.Resynchronization

/-!
# What the link layer's checksum detects

`CastagnoliCRC32::calc` reads one byte at a time and looks the effect of its eight bits up
in a table.  `calculate_remainder` says what it computes: the remainder of the message
polynomial times `X ^ 32`, which a shift register obtains bit by bit.  The table enters only
through `table_eq`, which says that its words are the remainders of the one-byte messages.

Data followed by its checksum is therefore a multiple of the generator polynomial
(`residue_codeword`), and so is everything that passes a comparison of the parser.  An error
pattern that leads from one such string to another one is a multiple as well, and a burst of
at most 32 bits is none (`burst_detected`).  In a stream such an error costs one frame
(`burst_in_body`) or two bytes (`burst_in_header`), and what follows is read as usual.
-/

namespace Ssp21

open Wire Link Polynomial
open Gf2 (ofBits ofWord msbs residue modulus divide)

namespace CastagnoliCRC32

/-! ## The table computes remainders -/

/-- The generator polynomial without its leading term. -/
def generator : BitVec 32 := 0xF4ACFB13#32

/-- The bits of a byte string in the order in which they enter the division. -/
def bits (data : Bytes) : List Bool :=
  data.flatMap fun byte => msbs byte.toBitVec

@[simp] theorem bits_nil : bits [] = [] := rfl

theorem bits_cons (byte : UInt8) (data : Bytes) :
    bits (byte :: data) = msbs byte.toBitVec ++ bits data := rfl

@[simp] theorem bits_append (front back : Bytes) : bits (front ++ back) = bits front ++ bits back :=
  List.flatMap_append

@[simp] theorem length_bits (data : Bytes) : (bits data).length = 8 * data.length := by
  induction data with
  | nil => rfl
  | cons byte data ih =>
      rw [bits_cons, List.length_append, Gf2.length_msbs, ih, List.length_cons]
      omega

theorem ofBits_cons (byte : UInt8) (data : Bytes) :
    ofBits (bits (byte :: data)) = ofWord byte.toBitVec * X ^ (8 * data.length) +
      ofBits (bits data) := by
  rw [bits_cons, Gf2.ofBits_append, length_bits, ofWord]

/-- The words of the table are the remainders of the 256 one-byte messages. -/
theorem table_eq : table = (List.range 256).map fun index =>
    UInt32.ofBitVec (divide generator (msbs (BitVec.ofNat 8 index))) := by
  decide +kernel

theorem table_divide (index : UInt8) :
    (table.getD index.toNat 0).toBitVec = divide generator (msbs index.toBitVec) := by
  have hlt : index.toNat < 256 := index.toNat_lt
  have hword : BitVec.ofNat 8 index.toNat = index.toBitVec := by
    apply BitVec.eq_of_toNat_eq
    simp
  simp [table_eq, hlt, hword]

/-- One turn of the loop takes eight more bits into the remainder. -/
theorem residue_update (remainder : UInt32) (byte : UInt8) :
    residue generator (ofWord (update remainder byte).toBitVec) =
      residue generator (ofWord remainder.toBitVec * X ^ 8 + ofWord byte.toBitVec * X ^ 32) := by
  have hupdate : (update remainder byte).toBitVec =
      (table.getD (byte ^^^ (remainder >>> 24).toUInt8).toNat 0).toBitVec ^^^
        remainder.toBitVec <<< 8 := by
    simp [update]
  have hindex : (byte ^^^ (remainder >>> 24).toUInt8).toBitVec =
      byte.toBitVec ^^^ (remainder.toBitVec >>> (32 - 8)).setWidth 8 := by
    simp
  rw [hupdate, Gf2.ofWord_xor, table_divide, hindex, map_add, Gf2.residue_divide, ← map_add,
    ← Gf2.ofWord, Gf2.ofWord_xor, Gf2.ofWord_mul_X_pow _ (show 8 ≤ 32 by decide)]
  exact congrArg (residue generator) (by ring)

theorem residue_foldl (data : Bytes) (remainder : UInt32) :
    residue generator (ofWord (data.foldl update remainder).toBitVec) =
      residue generator (ofWord remainder.toBitVec * X ^ (8 * data.length) +
        ofBits (bits data) * X ^ 32) := by
  induction data generalizing remainder with
  | nil => simp
  | cons byte data ih =>
      rw [List.foldl_cons, ih, map_add, map_mul, residue_update, ← map_mul, ← map_add, ofBits_cons,
        List.length_cons]
      exact congrArg (residue generator) (by ring)

theorem residue_calculate (data : Bytes) :
    residue generator (ofWord (calculate data).toBitVec) =
      residue generator (ofBits (bits data) * X ^ 32) := by
  rw [calculate, residue_foldl]
  simp

/-- **The table-driven checksum is a polynomial remainder.**  For every byte string it is what
a shift register keeps of its bits, the remainder of the message polynomial times `X ^ 32`. -/
theorem calculate_remainder (data : Bytes) :
    (calculate data).toBitVec = divide generator (bits data) ∧
      ofWord (calculate data).toBitVec =
        ofBits (bits data) * X ^ 32 %ₘ (X ^ 32 + ofWord generator) :=
  ⟨Gf2.eq_divide_of_residue generator (residue_calculate data),
    Gf2.ofWord_eq_modByMonic generator (residue_calculate data)⟩

-- the first vector of the test suite, the digits from 1 to 9
example : divide generator (bits [0x31, 0x32, 0x33, 0x34, 0x35, 0x36, 0x37, 0x38, 0x39]) =
    0x6C9F84A8#32 := by
  decide +kernel

/-! ## Data with its checksum -/

theorem ofBits_bigEndian (width value : Nat) :
    ofBits (bits (bigEndian width value)) = ofWord (BitVec.ofNat (8 * width) value) := by
  induction width generalizing value with
  | zero => simp [bigEndian, ofWord, msbs]
  | succ width ih =>
      have hlast : ofBits (bits [UInt8.ofNat value]) = ofWord (BitVec.ofNat 8 value) := by
        rw [bits_cons, bits_nil, List.append_nil]
        rfl
      rw [bigEndian, bits_append, Gf2.ofBits_append, length_bits, ih, hlast, Nat.mul_succ,
        Gf2.ofWord_ofNat_add]
      rfl

theorem ofBits_crcBytes (data : Bytes) :
    ofBits (bits (Frame.crcBytes data)) = ofWord (calculate data).toBitVec := by
  rw [Frame.crcBytes, ofBits_bigEndian]
  simp [crcSize]

/-- Data followed by its checksum is a multiple of the generator polynomial. -/
theorem residue_codeword (data : Bytes) :
    residue generator (ofBits (bits (data ++ Frame.crcBytes data))) = 0 := by
  have htwo : (2 : (ZMod 2)[X]) = 0 := CharTwo.two_eq_zero
  have hwidth : 8 * crcSize = 32 := rfl
  rw [bits_append, Gf2.ofBits_append, length_bits, Frame.crcBytes_length, hwidth, map_add,
    ofBits_crcBytes, residue_calculate, ← map_add, ← two_mul, htwo, zero_mul, map_zero]

/-- A field that matches the data is the checksum of the data. -/
theorem eq_crcBytes_of_match {data field : Bytes} (hlen : field.length = crcSize)
    (hmatch : calculate data = UInt32.ofNat (ofBigEndian field)) :
    field = Frame.crcBytes data := by
  have hlt : ofBigEndian field < 2 ^ 32 := by
    have hlt := ofBigEndian_lt field
    rwa [hlen] at hlt
  rw [Frame.crcBytes, hmatch, UInt32.toNat_ofNat', Nat.mod_eq_of_lt hlt, ← hlen,
    bigEndian_ofBigEndian]

/-- The bits that are set in the error pattern are flipped. -/
def corrupt (sent error : Bytes) : Bytes :=
  List.zipWith (· ^^^ ·) sent error

theorem length_corrupt {sent error : Bytes} (hlen : error.length = sent.length) :
    (corrupt sent error).length = sent.length := by
  simp [corrupt, hlen]

theorem ofBits_corrupt : ∀ {sent error : Bytes}, error.length = sent.length →
    ofBits (bits (corrupt sent error)) = ofBits (bits sent) + ofBits (bits error)
  | [], [], _ => by simp [corrupt]
  | byte :: sent, flips :: error, hlen => by
      have hrest : error.length = sent.length := by simpa using hlen
      have hcons : corrupt (byte :: sent) (flips :: error) =
          (byte ^^^ flips) :: corrupt sent error := rfl
      rw [hcons, ofBits_cons, ofBits_cons, ofBits_cons, ofBits_corrupt hrest,
        length_corrupt hrest, hrest, UInt8.toBitVec_xor, Gf2.ofWord_xor]
      ring

/-- The constant term of the generator polynomial is one. -/
theorem coeff_zero_modulus : (modulus generator).coeff 0 ≠ 0 := by
  rw [modulus, coeff_add, Gf2.coeff_ofWord, coeff_X_pow]
  decide

theorem length_corrupt_codeword {data error : Bytes} (hlen : error.length = data.length + crcSize) :
    (corrupt (data ++ Frame.crcBytes data) error).length = data.length + crcSize := by
  rw [length_corrupt (by simpa using hlen), List.length_append, Frame.crcBytes_length]

/-- A burst of at most 32 bits leads from no string with a matching checksum to another one. -/
theorem corrupt_mismatch {data error : Bytes} (hlen : error.length = data.length + crcSize)
    (hburst : Gf2.Burst 32 (bits error)) :
    calculate ((corrupt (data ++ Frame.crcBytes data) error).take data.length) ≠
      UInt32.ofNat (ofBigEndian
        ((corrupt (data ++ Frame.crcBytes data) error).drop data.length)) := by
  intro hmatch
  have hsame : error.length = (data ++ Frame.crcBytes data).length := by simpa using hlen
  have hfield : ((corrupt (data ++ Frame.crcBytes data) error).drop data.length).length =
      crcSize := by
    rw [List.length_drop, length_corrupt_codeword hlen, Nat.add_sub_cancel_left]
  have hreceived := residue_codeword
    ((corrupt (data ++ Frame.crcBytes data) error).take data.length)
  rw [← eq_crcBytes_of_match hfield hmatch, List.take_append_drop, ofBits_corrupt hsame, map_add,
    residue_codeword, zero_add] at hreceived
  exact Gf2.not_dvd_of_burst coeff_zero_modulus hburst (AdjoinRoot.mk_eq_zero.mp hreceived)

end CastagnoliCRC32

namespace LinkParser

open CastagnoliCRC32 (bits calculate corrupt corrupt_mismatch length_corrupt_codeword)

/-! ## The comparisons of the parser -/

/-- The two sides of the comparison for a header, on the bytes that it stands in. -/
theorem headerCrcs_of_starts {received buffer : Bytes} (hlen : received.length = headerTotalSize)
    (hbuffer : received <+: buffer) :
    Scanner.expectedHeaderCrc buffer = calculate (received.take headerFieldsSize) ∧
      Scanner.actualHeaderCrc buffer =
        UInt32.ofNat (ofBigEndian (received.drop headerFieldsSize)) := by
  have hsize : headerFieldsSize + crcSize = headerTotalSize := rfl
  have hfield : (received.drop headerFieldsSize).take crcSize = received.drop headerFieldsSize :=
    List.take_of_length_le (by rw [List.length_drop]; omega)
  rw [Scanner.expectedHeaderCrc, Scanner.actualHeaderCrc, take_of_starts hbuffer (by omega),
    numberAt_of_starts hbuffer (by omega), numberAt, hfield]
  exact ⟨rfl, rfl⟩

/-- A body whose checksum does not match is reported and dropped. -/
theorem finishBody_fails (total : Nat) {ctx : Context} {received : Bytes}
    (hlen : received.length = ctx.payloadLength.toNat + crcSize)
    (hbuffer : received <+: ctx.buffer.drop headerTotalSize)
    (hcrc : calculate (received.take ctx.payloadLength.toNat) ≠
      UInt32.ofNat (ofBigEndian (received.drop ctx.payloadLength.toNat))) :
    (finishBody total ctx).1 = .waitSync1 ∧
      (finishBody total ctx).2.reports = ctx.reports ++
        [.badBodyCrc (calculate (received.take ctx.payloadLength.toNat))
          (UInt32.ofNat (ofBigEndian (received.drop ctx.payloadLength.toNat)))] := by
  have hpayload : (ctx.buffer.drop headerTotalSize).take ctx.payloadLength.toNat =
      received.take ctx.payloadLength.toNat := take_of_starts hbuffer (by omega)
  have hfield : numberAt ctx.buffer (headerTotalSize + ctx.payloadLength.toNat) crcSize =
      ofBigEndian (received.drop ctx.payloadLength.toNat) := by
    have hpart := part_of_starts hbuffer (Nat.le_of_eq hlen.symm)
    rw [part, part, List.drop_drop] at hpart
    rw [numberAt, hpart, List.take_of_length_le (by rw [List.length_drop]; omega)]
  simp only [finishBody, hpayload, hfield, if_pos hcrc, and_self]

/-- **Bursts are detected.**  Some of at most 32 consecutive bits of a byte string and its
checksum behind it are flipped.  Then the string and the checksum no longer match.  So a
header with such an error, wherever the parser has found it, leads to the report and the
nested call for a bad header, and a body with such an error is reported and dropped. -/
theorem burst_detected (data error : Bytes) (hlen : error.length = data.length + crcSize)
    (hburst : Gf2.Burst 32 (bits error)) :
    let received := corrupt (data ++ Frame.crcBytes data) error
    calculate (received.take data.length) ≠
      UInt32.ofNat (ofBigEndian (received.drop data.length)) ∧
    (∀ reparse ctx, data.length = headerFieldsSize → received <+: ctx.buffer →
      let call := reparse .waitSync1 (reportHeader ctx) (.buffered 2 (headerTotalSize - 2))
      finishHeader reparse ctx = (call.1, call.2.1)) ∧
    (∀ total ctx, data.length = ctx.payloadLength.toNat →
      received <+: ctx.buffer.drop headerTotalSize →
      (finishBody total ctx).1 = .waitSync1 ∧ ∃ expected actual,
        (finishBody total ctx).2.reports = ctx.reports ++ [.badBodyCrc expected actual]) := by
  intro received
  have hmismatch : calculate (received.take data.length) ≠
      UInt32.ofNat (ofBigEndian (received.drop data.length)) := corrupt_mismatch hlen hburst
  have hreceived : received.length = data.length + crcSize := length_corrupt_codeword hlen
  refine ⟨hmismatch, ?_, ?_⟩
  · intro reparse ctx hheader hbuffer
    rw [hheader] at hmismatch hreceived
    obtain ⟨hexpected, hactual⟩ := headerCrcs_of_starts hreceived hbuffer
    have hfails : HeaderFails ctx := by rwa [HeaderFails, hexpected, hactual]
    exact finishHeader_fails reparse hfails
  · intro total ctx hbody hbuffer
    rw [hbody] at hmismatch hreceived
    obtain ⟨hstate, hreport⟩ := finishBody_fails total hreceived hbuffer hmismatch
    exact ⟨hstate, _, _, hreport⟩

/-- Four flipped bits at the border between the fields of a header and its checksum. -/
theorem burst_detected_header :
    let fields := Frame.headerFields 1 10 4
    let error : Bytes := [0, 0, 0, 0, 0, 0, 0, 3, 0xC0, 0, 0, 0]
    Gf2.Burst 32 (bits error) ∧ ∀ ctx : Context,
      corrupt (fields ++ Frame.crcBytes fields) error <+: ctx.buffer →
      (finishHeader (parseMany 1) ctx).1 =
        (parseMany 1 .waitSync1 (reportHeader ctx) (.buffered 2 (headerTotalSize - 2))).1 := by
  intro fields error
  have hburst : Gf2.Burst 32 (bits error) := by decide +kernel
  exact ⟨hburst, fun ctx hbuffer => congrArg Prod.fst
    ((burst_detected fields error rfl hburst).2.1 (parseMany 1) ctx rfl hbuffer)⟩

/-! ## Bursts in a stream -/

/-- **A burst in a body costs that frame and nothing else.**  The stream behind the frame is
read as if the frame had not been there. -/
theorem burst_in_body {parser : LinkParser} (hwf : parser.WellFormed)
    (hstart : parser.state = .waitSync1) {frame : Frame}
    (hlimit : frame.payload.length ≤ parser.context.maxPayloadLength.toNat) {error : Bytes}
    (hlen : error.length = frame.payload.length + crcSize) (hburst : Gf2.Burst 32 (bits error))
    {more : Bytes} {chunks chunks' : List Bytes}
    (hchunks : chunks.flatten = Frame.header frame.destination frame.source frame.payload.length ++
      corrupt (frame.payload ++ Frame.crcBytes frame.payload) error ++ more)
    (hchunks' : chunks'.flatten = more) :
    (parser.readChunks chunks).2.1 = (parser.readChunks chunks').2.1 ∧
    ∃ expected actual later,
      (parser.readChunks chunks).1.context.reports =
        parser.context.reports ++ .badBodyCrc expected actual :: later ∧
      (parser.readChunks chunks').1.context.reports = parser.context.reports ++ later := by
  obtain ⟨hsame, -, hfirst⟩ := Scanner.scan_badBody hlimit (length_corrupt_codeword hlen)
    (corrupt_mismatch hlen hburst) more
  rw [← hchunks, ← hchunks'] at hsame hfirst
  obtain ⟨hframes, later, hreports⟩ :=
    readChunks_report hwf hwf hstart hstart rfl hsame hfirst
  exact ⟨hframes, _, _, later, hreports⟩

/-- Two flipped bits at the border between a payload and its checksum; the next frame is read. -/
theorem burst_in_body_border :
    let frame : Frame := ⟨1, 10, [1, 2, 3, 4]⟩
    let damaged := corrupt (frame.payload ++ Frame.crcBytes frame.payload)
      [0, 0, 0, 1, 0x80, 0, 0, 0]
    ((create 4092).readChunks [Frame.header 1 10 4, damaged ++ frame.encode]).2.1 =
      ((create 4092).readChunks [frame.encode]).2.1 := by
  intro frame damaged
  exact (@burst_in_body (create 4092) (create_wellFormed 4092) rfl frame (by decide)
    [0, 0, 0, 1, 0x80, 0, 0, 0] rfl (by decide +kernel) frame.encode _ _
    (by simp [damaged, frame]) (by simp)).1

/-- **A burst in a header costs its synchronization bytes.**  As long as these are intact, the
bytes behind them are read as if the header had begun with them. -/
theorem burst_in_header {parser : LinkParser} (hwf : parser.WellFormed)
    (hstart : parser.state = .waitSync1) {data error fields : Bytes}
    (hdata : data.length = headerFieldsSize) (hlen : error.length = data.length + crcSize)
    (hburst : Gf2.Burst 32 (bits error))
    (hsync : corrupt (data ++ Frame.crcBytes data) error = [sync1, sync2] ++ fields)
    {more : Bytes} {chunks chunks' : List Bytes}
    (hchunks : chunks.flatten = corrupt (data ++ Frame.crcBytes data) error ++ more)
    (hchunks' : chunks'.flatten = fields ++ more) :
    (parser.readChunks chunks).2.1 = (parser.readChunks chunks').2.1 ∧
    ∃ expected actual later,
      (parser.readChunks chunks).1.context.reports =
        parser.context.reports ++ .badHeaderCrc expected actual :: later ∧
      (parser.readChunks chunks').1.context.reports = parser.context.reports ++ later := by
  have hreceived : ([sync1, sync2] ++ fields).length = headerTotalSize := by
    rw [← hsync, length_corrupt_codeword hlen, hdata]
    rfl
  have hmismatch := corrupt_mismatch hlen hburst
  rw [hsync, hdata] at hmismatch
  obtain ⟨hexpected, hactual⟩ := headerCrcs_of_starts hreceived List.prefix_rfl
  rw [← hexpected, ← hactual] at hmismatch
  have hten : fields.length = headerTotalSize - 2 := by
    rw [← hreceived]
    simp
  obtain ⟨hsame, -, hfirst⟩ := @Scanner.scan_badHeader parser.context.maxPayloadLength fields hten
    hmismatch more
  rw [← hsync, ← hchunks, ← hchunks'] at hsame hfirst
  obtain ⟨hframes, later, hreports⟩ :=
    readChunks_report hwf hwf hstart hstart rfl hsame hfirst
  exact ⟨hframes, _, _, later, hreports⟩

/-- Four flipped bits at the border between the fields of a header and its checksum. -/
theorem burst_in_header_border :
    let data := Frame.headerFields 1 10 4
    let damaged := corrupt (data ++ Frame.crcBytes data) [0, 0, 0, 0, 0, 0, 0, 3, 0xC0, 0, 0, 0]
    ((create 4092).readChunks [damaged]).2.1 = ((create 4092).readChunks [damaged.drop 2]).2.1 := by
  intro data damaged
  exact (@burst_in_header (create 4092) (create_wellFormed 4092) rfl data
    [0, 0, 0, 0, 0, 0, 0, 3, 0xC0, 0, 0, 0] (damaged.drop 2) rfl rfl (by decide +kernel)
    (by decide +kernel) [] _ _ (by simp [damaged]) (by simp)).1

end LinkParser

end Ssp21
