import Ssp21.Foundation.Wire

/-!
# Variable-length counts

`VLength` encodes an unsigned 32-bit number in one byte when it is at most 127,
and otherwise as a count byte with its top bit set followed by the fewest
big-endian bytes that hold the number.  The writer picks the width from the
number; the reader shifts the announced number of bytes together and rejects a
width that the writer would not have picked.

Both sides are compared with one encoding, `enc`.  `minimal_prefix_code` says what
the two functions are for each other.
-/

namespace Ssp21

open Wire

/-- Why a message could not be parsed. -/
inductive ParseError
  | insufficientBytes
  | undefinedEnum
  | unexpectedFunction
  | tooManyBytes
  | implCapacityLimit
  | reservedBit
  | badVlength
  deriving DecidableEq, Repr

/-- Why a message could not be formatted. -/
inductive FormatError
  | insufficientSpace
  deriving DecidableEq, Repr

/-- `dest.put` and `write_to`: bytes are copied as a whole or not at all. -/
def putBytes (bytes : Bytes) (room : Nat) : Except FormatError Bytes :=
  if bytes.length ≤ room then .ok bytes else .error .insufficientSpace

namespace VLength

def maxOneByteValue : UInt32 := 127
def maxFourByteValue : UInt32 := 16777215
def topBitMask : UInt8 := 0x80
def bottomBitsMask : UInt8 := 0x7F

/-- How many bytes follow the first one; none when the first byte is the value. -/
def numValuesBytes (value : UInt32) : UInt8 :=
  if value ≤ maxOneByteValue then 0
  else if value ≤ 255 then 1
  else if value ≤ 65535 then 2
  else if value ≤ maxFourByteValue then 3
  else 4

def size (value : UInt32) : Nat :=
  (numValuesBytes value).toNat + 1

/-- The bytes behind the count byte. -/
def writeValue (value : UInt32) (room : Nat) : Except FormatError Bytes :=
  match (numValuesBytes value).toNat with
  | 1 => putBytes [value.toUInt8] room
  | 2 => putBytes (bigEndian 2 value.toUInt16.toNat) room
  | 3 =>
      match putBytes [((value >>> 16) &&& 0xFF).toUInt8] room with
      | .error e => .error e
      | .ok top =>
          match putBytes (bigEndian 2 (value &&& 0xFFFF).toUInt16.toNat) (room - top.length) with
          | .error e => .error e
          | .ok bottom => .ok (top ++ bottom)
  | _ => putBytes (bigEndian 4 value.toNat) room

def write (value : UInt32) (room : Nat) : Except FormatError Bytes :=
  if numValuesBytes value = 0 then putBytes [value.toUInt8] room
  else
    match putBytes [topBitMask ||| numValuesBytes value] room with
    | .error e => .error e
    | .ok first =>
        match writeValue value (room - first.length) with
        | .error e => .error e
        | .ok rest => .ok (first ++ rest)

/-- The reader's loop: shift `count` bytes into `ret`. -/
def readValue : Nat → UInt32 → Bytes → Except ParseError (UInt32 × Bytes)
  | 0, ret, src => .ok (ret, src)
  | _ + 1, _, [] => .error .insufficientBytes
  | count + 1, ret, byte :: src => readValue count ((ret <<< 8) ||| byte.toUInt32) src

def read : Bytes → Except ParseError (UInt32 × Bytes)
  | [] => .error .insufficientBytes
  | topByte :: src =>
      if topByte &&& topBitMask = 0 then .ok (topByte.toUInt32, src)
      else
        let countOfBytes := topByte &&& bottomBitsMask
        if countOfBytes < 1 ∨ countOfBytes > 4 then .error .badVlength
        else
          match readValue countOfBytes.toNat 0 src with
          | .error e => .error e
          | .ok (ret, src) =>
              if numValuesBytes ret ≠ countOfBytes then .error .badVlength
              else .ok (ret, src)

/-- The codec that the three functions form. -/
def codec : Codec ParseError FormatError UInt32 := ⟨size, write, read⟩

/-! ## The encoding both sides agree on -/

/-- The minimal encoding of a value. -/
def enc (value : UInt32) : Bytes :=
  if numValuesBytes value = 0 then [value.toUInt8]
  else (topBitMask ||| numValuesBytes value) ::
    bigEndian (numValuesBytes value).toNat value.toNat

/-- The width the writer picks is the fewest bytes that hold the value. -/
theorem numValuesBytes_cases (value : UInt32) :
    numValuesBytes value = 0 ∧ value.toNat ≤ 127 ∨
    numValuesBytes value = 1 ∧ 127 < value.toNat ∧ value.toNat < 256 ∨
    numValuesBytes value = 2 ∧ 256 ≤ value.toNat ∧ value.toNat < 256 ^ 2 ∨
    numValuesBytes value = 3 ∧ 256 ^ 2 ≤ value.toNat ∧ value.toNat < 256 ^ 3 ∨
    numValuesBytes value = 4 ∧ 256 ^ 3 ≤ value.toNat ∧ value.toNat < 256 ^ 4 := by
  have hlt := value.toNat_lt
  unfold numValuesBytes
  simp only [maxOneByteValue, maxFourByteValue, UInt32.le_iff_toNat_le, UInt32.reduceToNat]
  split_ifs <;> simp <;> omega

theorem numValuesBytes_lt (value : UInt32) :
    value.toNat < 256 ^ (numValuesBytes value).toNat ∨ numValuesBytes value = 0 := by
  rcases numValuesBytes_cases value with h | h | h | h | h <;> simp [h.1] <;> omega

/-- A three-byte number is its top byte followed by its low half. -/
theorem bigEndian_three (value : UInt32) :
    bigEndian 3 value.toNat =
      [((value >>> 16) &&& 0xFF).toUInt8] ++
        bigEndian 2 (value &&& 0xFFFF).toUInt16.toNat := by
  have hword (n : Nat) : n &&& 65535 = n % 65536 := Nat.and_two_pow_sub_one_eq_mod n 16
  have hbyte (n : Nat) : n &&& 255 = n % 256 := Nat.and_two_pow_sub_one_eq_mod n 8
  have hbottom : (value &&& 0xFFFF).toUInt16.toNat = value.toNat % 65536 := by
    simp [hword]
  have htop : ((value >>> 16) &&& 0xFF).toUInt8 = UInt8.ofNat (value.toNat / 65536) := by
    apply UInt8.toNat_inj.mp
    simp [Nat.shiftRight_eq_div_pow, hbyte]
  have hlow : UInt8.ofNat (value.toNat % 65536) = UInt8.ofNat value.toNat := by
    apply UInt8.toNat_inj.mp
    simp
  have hmid : UInt8.ofNat (value.toNat % 65536 / 256) = UInt8.ofNat (value.toNat / 256) := by
    apply UInt8.toNat_inj.mp
    simp
    omega
  rw [htop, hbottom]
  simp only [bigEndian, hlow, hmid, Nat.div_div_eq_div_mul, List.nil_append,
    List.cons_append, Nat.reduceMul]

theorem writeValue_eq (value : UInt32) (room : Nat) (hwide : numValuesBytes value ≠ 0) :
    writeValue value room =
      putBytes (bigEndian (numValuesBytes value).toNat value.toNat) room := by
  rcases numValuesBytes_cases value with h | h | h | h | h
  · exact absurd h.1 hwide
  · have hbyte : bigEndian 1 value.toNat = [value.toUInt8] := by
      simp [bigEndian]
    simp [writeValue, h.1, hbyte]
  · have hhalf : value.toUInt16.toNat = value.toNat := by
      simp
      omega
    simp [writeValue, h.1, hhalf]
  · simp only [writeValue, h.1, UInt8.reduceToNat, bigEndian_three, putBytes, List.length_append,
      List.length_singleton, bigEndian_length]
    by_cases htop : 1 ≤ room
    · by_cases hall : 2 ≤ room - 1
      · simp [htop, hall, show 3 ≤ room by omega]
      · simp [htop, hall, show ¬ 3 ≤ room by omega]
    · simp [htop, show ¬ 3 ≤ room by omega]
  · simp [writeValue, h.1]

theorem enc_length (value : UInt32) : (enc value).length = size value := by
  unfold enc size
  split_ifs with h
  · simp [h]
  · simp

theorem write_eq (value : UInt32) (room : Nat) :
    write value room =
      if (enc value).length ≤ room then .ok (enc value) else .error .insufficientSpace := by
  unfold write
  by_cases hone : numValuesBytes value = 0
  · simp [enc, hone, putBytes]
  · simp only [hone, if_false, putBytes, List.length_singleton]
    by_cases hfirst : 1 ≤ room
    · simp only [hfirst, if_true, writeValue_eq value _ hone, putBytes, bigEndian_length,
        enc, hone, List.length_cons]
      by_cases hrest : (numValuesBytes value).toNat ≤ room - 1
      · simp [hrest, show (numValuesBytes value).toNat + 1 ≤ room by omega]
      · simp [hrest, show ¬ (numValuesBytes value).toNat + 1 ≤ room by omega]
    · simp [hfirst, enc, hone, show ¬ (numValuesBytes value).toNat + 1 ≤ room by omega]

/-! ## The reader -/

/-- One turn of the reader's loop: shifting a byte in is multiplying by 256 and
adding it, in 32-bit arithmetic. -/
theorem shift_byte (ret : UInt32) (byte : UInt8) :
    (ret <<< 8) ||| byte.toUInt32 = UInt32.ofNat (ret.toNat * 256 + byte.toNat) := by
  have hbyte := byte.toNat_lt
  have hret := ret.toNat_lt
  apply UInt32.toNat_inj.mp
  have hshift : ret.toNat <<< 8 % 2 ^ 32 = (ret.toNat % 2 ^ 24) <<< 8 := by
    simp only [Nat.shiftLeft_eq]
    omega
  have height : UInt32.toNat 8 % 32 = 8 := rfl
  rw [UInt32.toNat_or, UInt32.toNat_shiftLeft, UInt8.toNat_toUInt32, UInt32.toNat_ofNat', height,
    hshift, Nat.shiftLeft_eq, Nat.mul_comm, ← Nat.two_pow_add_eq_or_of_lt hbyte]
  omega

theorem readValue_eq (count : Nat) (ret : UInt32) (src : Bytes) :
    readValue count ret src =
      if count ≤ src.length then
        .ok (UInt32.ofNat (ret.toNat * 256 ^ count + ofBigEndian (src.take count)),
          src.drop count)
      else .error .insufficientBytes := by
  induction count generalizing ret src with
  | zero => simp [readValue, ofBigEndian]
  | succ count ih =>
      cases src with
      | nil => simp [readValue]
      | cons byte src =>
          rw [readValue, ih, shift_byte]
          by_cases hlen : count ≤ src.length
          · have htake : (src.take count).length = count := by simp [hlen]
            simp only [hlen, if_true, List.length_cons, Nat.add_le_add_iff_right,
              List.take_succ_cons, List.drop_succ_cons, ofBigEndian_cons, htake]
            congr 2
            apply UInt32.toNat_inj.mp
            simp only [UInt32.toNat_ofNat', Nat.pow_succ]
            rw [Nat.add_mod, Nat.mul_mod, Nat.mod_mod, ← Nat.mul_mod, ← Nat.add_mod]
            congr 1
            ring
          · simp [hlen]

/-- The top bit tells the one-byte values from the count bytes. -/
theorem topBit_cases (byte : UInt8) :
    byte &&& topBitMask = 0 ∧ byte.toNat ≤ 127 ∨
    byte &&& topBitMask ≠ 0 ∧ 127 < byte.toNat ∧
      topBitMask ||| (byte &&& bottomBitsMask) = byte := by
  have hall : ∀ n : Fin 256,
      UInt8.ofNat n.val &&& topBitMask = 0 ∧ (UInt8.ofNat n.val).toNat ≤ 127 ∨
      UInt8.ofNat n.val &&& topBitMask ≠ 0 ∧ 127 < (UInt8.ofNat n.val).toNat ∧
        topBitMask ||| (UInt8.ofNat n.val &&& bottomBitsMask) = UInt8.ofNat n.val := by
    decide +kernel
  simpa using hall ⟨byte.toNat, byte.toNat_lt⟩

/-- The count byte of a wide value says how many bytes follow. -/
theorem countByte (value : UInt32) (hwide : numValuesBytes value ≠ 0) :
    (topBitMask ||| numValuesBytes value) &&& topBitMask ≠ 0 ∧
    (topBitMask ||| numValuesBytes value) &&& bottomBitsMask = numValuesBytes value ∧
    ¬ (numValuesBytes value < 1 ∨ numValuesBytes value > 4) := by
  rcases numValuesBytes_cases value with h | h | h | h | h
  · exact absurd h.1 hwide
  all_goals (rw [h.1]; decide)

theorem numValuesBytes_eq_zero (value : UInt32) :
    numValuesBytes value = 0 ↔ value.toNat ≤ 127 := by
  rcases numValuesBytes_cases value with h | h | h | h | h <;> simp [h.1] <;> omega

/-- What the reader does behind a count byte. -/
theorem read_wide (count : UInt8) (src : Bytes)
    (htop : (topBitMask ||| count) &&& topBitMask ≠ 0)
    (hbottom : (topBitMask ||| count) &&& bottomBitsMask = count)
    (hrange : ¬ (count < 1 ∨ count > 4)) :
    read ((topBitMask ||| count) :: src) =
      if count.toNat ≤ src.length then
        let ret := UInt32.ofNat (ofBigEndian (src.take count.toNat))
        if numValuesBytes ret ≠ count then .error .badVlength
        else .ok (ret, src.drop count.toNat)
      else .error .insufficientBytes := by
  simp only [read, if_neg htop, hbottom, if_neg hrange, readValue_eq]
  by_cases hlen : count.toNat ≤ src.length
  · simp [hlen]
  · simp [hlen]

theorem read_enc (value : UInt32) (rest : Bytes) :
    read (enc value ++ rest) = .ok (value, rest) := by
  by_cases hone : numValuesBytes value = 0
  · have hsmall := (numValuesBytes_eq_zero value).mp hone
    have hbyte : value.toUInt8.toUInt32 = value := by
      apply UInt32.toNat_inj.mp
      simp
      omega
    have hbit : value.toUInt8 &&& topBitMask = 0 := by
      rcases topBit_cases value.toUInt8 with h | h
      · exact h.1
      · have hlarge := h.2.1
        simp at hlarge
        omega
    simp [enc, hone, read, hbit, hbyte]
  · obtain ⟨htop, hbottom, hrange⟩ := countByte value hone
    have hlt : value.toNat < 256 ^ (numValuesBytes value).toNat := by
      simpa [hone] using numValuesBytes_lt value
    have hvalue : UInt32.ofNat (ofBigEndian
        (bigEndian (numValuesBytes value).toNat value.toNat)) = value := by
      rw [ofBigEndian_bigEndian, Nat.mod_eq_of_lt hlt]
      simp
    simp only [enc, if_neg hone, List.cons_append]
    rw [read_wide _ _ htop hbottom hrange]
    simp [List.take_left' (bigEndian_length _ _), List.drop_left' (bigEndian_length _ _), hvalue]

/-- The minimal encoding of a number that was read at its own width. -/
theorem enc_ofBigEndian {count : UInt8} {src : Bytes}
    (hmin : numValuesBytes (UInt32.ofNat (ofBigEndian (src.take count.toNat))) = count)
    (hrange : ¬ (count < 1 ∨ count > 4)) (hlen : count.toNat ≤ src.length) :
    enc (UInt32.ofNat (ofBigEndian (src.take count.toNat))) =
      (topBitMask ||| count) :: src.take count.toNat := by
  have hpos : count ≠ 0 := by
    rintro rfl
    exact hrange (Or.inl (by decide))
  have hfour : count.toNat ≤ 4 := by
    have h : ¬ 4 < count := fun h => hrange (Or.inr h)
    simpa [UInt8.lt_iff_toNat_lt] using h
  have htake : (src.take count.toNat).length = count.toNat := by simp [hlen]
  have hbound : ofBigEndian (src.take count.toNat) < 2 ^ 32 := by
    calc ofBigEndian (src.take count.toNat)
        < 256 ^ (src.take count.toNat).length := ofBigEndian_lt _
      _ ≤ 256 ^ 4 := Nat.pow_le_pow_right (by decide) (by omega)
      _ = 2 ^ 32 := by decide
  have hdigits := bigEndian_ofBigEndian (src.take count.toNat)
  rw [htake] at hdigits
  have hvalue : (UInt32.ofNat (ofBigEndian (src.take count.toNat))).toNat =
      ofBigEndian (src.take count.toNat) := by
    rw [UInt32.toNat_ofNat']
    exact Nat.mod_eq_of_lt hbound
  rw [enc, hmin, if_neg hpos, hvalue, hdigits]

/-- Whatever the reader accepts begins with the minimal encoding of its value. -/
theorem read_sound (bytes : Bytes) (value : UInt32) (rest : Bytes)
    (hread : read bytes = .ok (value, rest)) : bytes = enc value ++ rest := by
  cases bytes with
  | nil => cases hread
  | cons topByte src =>
      rcases topBit_cases topByte with ⟨hbit, hsmall⟩ | ⟨hbit, -, hsplit⟩
      · simp only [read, hbit, if_true, Except.ok.injEq, Prod.mk.injEq] at hread
        obtain ⟨rfl, rfl⟩ := hread
        have hone : numValuesBytes topByte.toUInt32 = 0 := by
          rw [numValuesBytes_eq_zero]
          simpa using hsmall
        simp [enc, hone]
      · by_cases hrange : topByte &&& bottomBitsMask < 1 ∨ topByte &&& bottomBitsMask > 4
        · simp only [read, if_neg hbit, if_pos hrange] at hread
          cases hread
        · rw [← hsplit] at hbit
          have hbottom : (topBitMask ||| topByte &&& bottomBitsMask) &&& bottomBitsMask =
              topByte &&& bottomBitsMask := by rw [hsplit]
          rw [← hsplit, read_wide _ _ hbit hbottom hrange] at hread
          split at hread
          · rename_i hlen
            simp only at hread
            split at hread
            · cases hread
            · rename_i hmin
              cases hread
              rw [not_not] at hmin
              rw [enc_ofBigEndian hmin hrange hlen, hsplit, List.cons_append,
                List.take_append_drop]
          · cases hread

/-- The codec of a variable-length count. -/
def spec : Codec.Spec ParseError.insufficientBytes FormatError.insufficientSpace (2 ^ 32)
    codec where
  enc := enc
  fits _ := True
  size_eq value _ := (enc_length value).symm
  write_eq value room _ := write_eq value room
  write_fits _ _ _ _ _ := trivial
  read_enc value rest _ := read_enc value rest
  read_sound bytes value rest hread := ⟨trivial, read_sound bytes value rest hread⟩
  read_short value front _ hstarts hne := by
    cases front with
    | nil => rfl
    | cons topByte src =>
        by_cases hone : numValuesBytes value = 0
        · have hlen := hstarts.length_le
          exact absurd (hstarts.eq_of_length_le (by simp [enc, hone])) hne
        · obtain ⟨htop, hbottom, hrange⟩ := countByte value hone
          simp only [enc, if_neg hone, List.cons_prefix_cons, ne_eq, List.cons.injEq, not_and]
            at hstarts hne
          obtain ⟨rfl, hstarts⟩ := hstarts
          have hshort : src.length < (numValuesBytes value).toNat := by
            by_contra hlong
            exact hne rfl (hstarts.eq_of_length_le (by rw [bigEndian_length]; omega))
          simp only [codec]
          rw [read_wide _ _ htop hbottom hrange, if_neg (by omega)]

/-- The counter of a length that fits into 32 bits. -/
def counter : Codec.Counter UInt32 (2 ^ 32) where
  ofNat := UInt32.ofNat
  toNat := UInt32.toNat
  toNat_lt := UInt32.toNat_lt
  toNat_ofNat n hlt := by
    simp
    omega
  ofNat_toNat count := by simp

/-! ## A minimal prefix code -/

/-- The writer needs room for exactly the encoding. -/
theorem write_error_iff (value : UInt32) (room : Nat) :
    write value room = .error .insufficientSpace ↔ room < size value := by
  rw [write_eq, enc_length]
  by_cases hroom : size value ≤ room
  · simp [hroom, Nat.not_lt.mpr hroom]
  · simp [hroom, Nat.lt_of_not_le hroom]

theorem eq_enc_of_write {value : UInt32} {room : Nat} {bytes : Bytes}
    (hwrite : write value room = .ok bytes) : bytes = enc value := by
  rw [write_eq] at hwrite
  split at hwrite
  · cases hwrite
    rfl
  · cases hwrite

/-- No encoding is the beginning of another one. -/
theorem eq_of_enc_starts {value value' : UInt32} (hstarts : enc value <+: enc value') :
    value = value' := by
  obtain ⟨rest, hrest⟩ := hstarts
  have hfront := read_enc value rest
  have hwhole := read_enc value' []
  rw [List.append_nil, ← hrest, hfront] at hwhole
  cases hwhole
  rfl

/-- The writer picks no more bytes than the value needs. -/
theorem size_le_of_lt {value : UInt32} {width : Nat} (hfits : value.toNat < 256 ^ width) :
    size value ≤ width + 1 := by
  have hbelow : ∀ count, 256 ^ count ≤ value.toNat → count < width := fun count hle =>
    (Nat.pow_lt_pow_iff_right (by decide)).mp (hle.trans_lt hfits)
  unfold size
  rcases numValuesBytes_cases value with h | ⟨h, hlow, -⟩ | ⟨h, hlow, -⟩ | ⟨h, hlow, -⟩
    | ⟨h, hlow, -⟩
  · simp [h.1]
  · have := hbelow 0 (by omega)
    simp [h]
    omega
  · have := hbelow 1 (by omega)
    simp [h]
    omega
  · have := hbelow 2 hlow
    simp [h]
    omega
  · have := hbelow 3 hlow
    simp [h]
    omega

/-- The numbers that the reader's loop shifts by eight bits.  It shifts before it looks for
the next byte. -/
def shifted : Nat → UInt32 → Bytes → List UInt32
  | 0, _, _ => []
  | _ + 1, ret, [] => [ret]
  | count + 1, ret, byte :: src => ret :: shifted count ((ret <<< 8) ||| byte.toUInt32) src

/-- The numbers that a call of the reader shifts. -/
def readShifted : Bytes → List UInt32
  | [] => []
  | topByte :: src =>
      if topByte &&& topBitMask = 0 then []
      else
        let countOfBytes := topByte &&& bottomBitsMask
        if countOfBytes < 1 ∨ countOfBytes > 4 then []
        else shifted countOfBytes.toNat 0 src

/-- A turn of the loop whose shift does not overflow. -/
theorem shift_byte_toNat {ret : UInt32} (byte : UInt8) (htop : ret.toNat < 2 ^ 24) :
    ((ret <<< 8) ||| byte.toUInt32).toNat = ret.toNat * 256 + byte.toNat := by
  have hbyte := byte.toNat_lt
  have hfits : ret.toNat * 256 + byte.toNat < 2 ^ 32 := by omega
  rw [shift_byte, UInt32.toNat_ofNat']
  exact Nat.mod_eq_of_lt hfits

/-- The shifted numbers have room for the bytes that are still to come. -/
theorem shifted_lt (count : Nat) {ret : UInt32} (src : Bytes)
    (hroom : (ret.toNat + 1) * 256 ^ count ≤ 2 ^ 32) :
    ∀ value ∈ shifted count ret src, value.toNat * 2 ^ 8 < 2 ^ 32 := by
  induction count generalizing ret src with
  | zero => simp [shifted]
  | succ count ih =>
      have hfirst : ret.toNat * 2 ^ 8 < 2 ^ 32 := by
        calc ret.toNat * 2 ^ 8 < (ret.toNat + 1) * 256 := by omega
          _ ≤ (ret.toNat + 1) * 256 ^ (count + 1) :=
            Nat.mul_le_mul_left _ (Nat.le_self_pow (by omega) 256)
          _ ≤ 2 ^ 32 := hroom
      cases src with
      | nil => simpa [shifted] using hfirst
      | cons byte src =>
          have hnext : ((ret <<< 8) ||| byte.toUInt32).toNat + 1 ≤ (ret.toNat + 1) * 256 := by
            have hbyte := byte.toNat_lt
            rw [shift_byte_toNat byte (by omega)]
            omega
          refine List.forall_mem_cons.mpr ⟨hfirst, ih src ?_⟩
          calc (((ret <<< 8) ||| byte.toUInt32).toNat + 1) * 256 ^ count
              ≤ (ret.toNat + 1) * 256 * 256 ^ count := Nat.mul_le_mul_right _ hnext
            _ = (ret.toNat + 1) * 256 ^ (count + 1) := by ring
            _ ≤ 2 ^ 32 := hroom

theorem readShifted_lt (bytes : Bytes) :
    ∀ value ∈ readShifted bytes, value.toNat * 2 ^ 8 < 2 ^ 32 := by
  cases bytes with
  | nil => simp [readShifted]
  | cons topByte src =>
      rw [readShifted]
      split
      · simp
      · simp only
        split
        · simp
        · rename_i hrange
          have hfour : (topByte &&& bottomBitsMask).toNat ≤ 4 := by
            have h : ¬ 4 < topByte &&& bottomBitsMask := fun h => hrange (Or.inr h)
            simpa [UInt8.lt_iff_toNat_lt] using h
          refine shifted_lt _ src ?_
          rw [UInt32.toNat_zero, Nat.zero_add, Nat.one_mul]
          exact Nat.pow_le_pow_right (by decide) hfour

/-- **A minimal prefix code.**  The writer emits as many bytes as `size` says, and fails exactly
if there is less room; the reader takes these bytes off any continuation.  Whatever the reader
accepts begins with the bytes that the writer emits for the value.  No shift of the reader
overflows, whether it accepts or not.  No encoding begins with another one, and none is wider
than its value. -/
theorem minimal_prefix_code :
    (∀ value room, (write value room = .error .insufficientSpace ↔ room < size value) ∧
      ∀ bytes, write value room = .ok bytes →
        bytes.length = size value ∧ ∀ rest, read (bytes ++ rest) = .ok (value, rest)) ∧
    (∀ bytes value rest, read bytes = .ok (value, rest) →
      ∃ written, bytes = written ++ rest ∧
        ∀ room, size value ≤ room → write value room = .ok written) ∧
    (∀ bytes, ∀ ret ∈ readShifted bytes, ret.toNat * 2 ^ 8 < 2 ^ 32) ∧
    (∀ value value' room room' bytes bytes', write value room = .ok bytes →
      write value' room' = .ok bytes' → bytes <+: bytes' → value = value') ∧
    ∀ value width, value.toNat < 256 ^ width → size value ≤ width + 1 := by
  refine ⟨?_, ?_, readShifted_lt, ?_, fun value width => size_le_of_lt⟩
  · intro value room
    refine ⟨write_error_iff value room, ?_⟩
    intro bytes hwrite
    rw [eq_enc_of_write hwrite]
    exact ⟨enc_length value, read_enc value⟩
  · intro bytes value rest hread
    refine ⟨enc value, read_sound bytes value rest hread, ?_⟩
    intro room hroom
    rw [write_eq, enc_length, if_pos hroom]
  · intro value value' room room' bytes bytes' hwrite hwrite' hstarts
    rw [eq_enc_of_write hwrite, eq_enc_of_write hwrite'] at hstarts
    exact eq_of_enc_starts hstarts

/-- A value that would fit into the first byte is refused behind a count byte. -/
example : read [0x81, 0x05] = .error .badVlength := by decide

end VLength
end Ssp21
