import Mathlib.Data.List.Infix
import Mathlib.Tactic.Ring

/-!
# Codecs for byte strings with a bounded destination

A codec is three separate traversals of one value: how many bytes it takes
(`size`), how it is written into a destination with some room left (`write`),
and how it is read from the front of an input (`read`).  Nothing in the type
makes the three agree.  `Codec.Spec` says that they do: it names one encoding
and states each traversal in terms of it, together with the converse that
everything the reader accepts is that encoding.

The combinators (`pair`, `iso`, `fixed`, `enum`, `lengthPrefixed`, `counted`) build the three
traversals field by field, and each has a `Spec` built from the `Spec`s of its
parts.  The error values are parameters throughout.
-/

namespace Wire

/-- A byte string. -/
abbrev Bytes := List UInt8

/-! ## Big-endian numbers -/

/-- The low `width` base-256 digits of a number, most significant first. -/
def bigEndian : Nat → Nat → Bytes
  | 0, _ => []
  | width + 1, value => bigEndian width (value / 256) ++ [UInt8.ofNat value]

/-- The number that a string of base-256 digits spells. -/
def ofBigEndian (bytes : Bytes) : Nat :=
  bytes.foldl (fun acc byte => acc * 256 + byte.toNat) 0

@[simp] theorem bigEndian_length (width value : Nat) :
    (bigEndian width value).length = width := by
  induction width generalizing value with
  | zero => rfl
  | succ width ih => simp [bigEndian, ih]

theorem ofBigEndian_concat (bytes : Bytes) (byte : UInt8) :
    ofBigEndian (bytes ++ [byte]) = ofBigEndian bytes * 256 + byte.toNat := by
  simp [ofBigEndian, List.foldl_append]

theorem ofBigEndian_cons (byte : UInt8) (bytes : Bytes) :
    ofBigEndian (byte :: bytes) = byte.toNat * 256 ^ bytes.length + ofBigEndian bytes := by
  induction bytes using List.reverseRecOn with
  | nil => simp [ofBigEndian]
  | append_singleton bytes last ih =>
      rw [← List.cons_append, ofBigEndian_concat, ofBigEndian_concat, ih]
      simp only [List.length_append, List.length_singleton, Nat.pow_succ]
      ring

theorem ofBigEndian_lt (bytes : Bytes) :
    ofBigEndian bytes < 256 ^ bytes.length := by
  induction bytes using List.reverseRecOn with
  | nil => simp [ofBigEndian]
  | append_singleton bytes byte ih =>
      rw [ofBigEndian_concat, List.length_append, List.length_singleton, Nat.pow_succ]
      have hbyte := byte.toNat_lt
      omega

/-- Reading back the digits of a number gives the number modulo its width. -/
theorem ofBigEndian_bigEndian (width value : Nat) :
    ofBigEndian (bigEndian width value) = value % 256 ^ width := by
  induction width generalizing value with
  | zero => simp [bigEndian, ofBigEndian, Nat.mod_one]
  | succ width ih =>
      have hbyte : (UInt8.ofNat value).toNat = value % 256 := by simp
      rw [bigEndian, ofBigEndian_concat, ih, hbyte, Nat.pow_succ,
        Nat.mul_comm (256 ^ width) 256, Nat.mod_mul]
      omega

/-- Writing a number at the width its digits were read from restores them. -/
theorem bigEndian_ofBigEndian (bytes : Bytes) :
    bigEndian bytes.length (ofBigEndian bytes) = bytes := by
  induction bytes using List.reverseRecOn with
  | nil => rfl
  | append_singleton bytes byte ih =>
      have hbyte := byte.toNat_lt
      have hdiv : (ofBigEndian bytes * 256 + byte.toNat) / 256 = ofBigEndian bytes := by
        omega
      have hmod : UInt8.ofNat (ofBigEndian bytes * 256 + byte.toNat) = byte := by
        apply UInt8.toNat_inj.mp
        simp
      rw [List.length_append, List.length_singleton, ofBigEndian_concat, bigEndian,
        hdiv, hmod, ih]

/-! ## Codecs and their specification -/

/-- The three traversals of a value of type `α`.  `write value room` returns the
bytes put into a destination that has `room` bytes left; `read` returns the value
and the input behind it. -/
structure Codec (ε φ α : Type) where
  size : α → Nat
  write : α → Nat → Except φ Bytes
  read : Bytes → Except ε (α × Bytes)

namespace Codec

variable {ε φ α β : Type}

/-- The three traversals agree on one encoding `enc` of the values that `fits`
admits.  A destination below `limit` bytes cannot hold any other value, an input
that stops inside an encoding is reported as `short`, and whatever the reader
accepts is an encoding of what it returns. -/
structure Spec (short : ε) (full : φ) (limit : Nat) (c : Codec ε φ α) where
  enc : α → Bytes
  fits : α → Prop
  size_eq : ∀ value, fits value → c.size value = (enc value).length
  write_eq : ∀ value room, fits value →
    c.write value room = if (enc value).length ≤ room then .ok (enc value) else .error full
  write_fits : ∀ value room bytes,
    c.write value room = .ok bytes → room < limit → fits value
  read_enc : ∀ value rest, fits value → c.read (enc value ++ rest) = .ok (value, rest)
  read_sound : ∀ bytes value rest,
    c.read bytes = .ok (value, rest) → fits value ∧ bytes = enc value ++ rest
  read_short : ∀ value front, fits value →
    front <+: enc value → front ≠ enc value → c.read front = .error short

namespace Spec

variable {short : ε} {full : φ} {limit : Nat} {c : Codec ε φ α}

/-- A successful write puts exactly the encoding into the destination, and the
encoding had room. -/
theorem write_ok (s : Spec short full limit c) {value : α} {room : Nat} {bytes : Bytes}
    (hwrite : c.write value room = .ok bytes) (hroom : room < limit) :
    s.fits value ∧ bytes = s.enc value ∧ (s.enc value).length ≤ room := by
  have hfits := s.write_fits value room bytes hwrite hroom
  rw [s.write_eq value room hfits] at hwrite
  split at hwrite
  · rename_i hle
    cases hwrite
    exact ⟨hfits, rfl, hle⟩
  · cases hwrite

/-- Two admitted values with one encoding are equal. -/
theorem enc_injective (s : Spec short full limit c) {value value' : α}
    (hfits : s.fits value) (hfits' : s.fits value') (henc : s.enc value = s.enc value') :
    value = value' := by
  have hread := s.read_enc value [] hfits
  rw [henc, s.read_enc value' [] hfits'] at hread
  cases hread
  rfl

end Spec

/-! ## Products and changes of representation -/

/-- Two fields, one behind the other. -/
def pair (f : Codec ε φ α) (g : Codec ε φ β) : Codec ε φ (α × β) where
  size value := f.size value.1 + g.size value.2
  write value room :=
    match f.write value.1 room with
    | .error e => .error e
    | .ok front =>
        match g.write value.2 (room - front.length) with
        | .error e => .error e
        | .ok back => .ok (front ++ back)
  read bytes :=
    match f.read bytes with
    | .error e => .error e
    | .ok (first, rest) =>
        match g.read rest with
        | .error e => .error e
        | .ok (second, rest) => .ok ((first, second), rest)

/-- The same bytes, seen as a value of another type. -/
def iso (f : Codec ε φ α) (pack : α → β) (unpack : β → α) : Codec ε φ β where
  size value := f.size (unpack value)
  write value room := f.write (unpack value) room
  read bytes :=
    match f.read bytes with
    | .error e => .error e
    | .ok (value, rest) => .ok (pack value, rest)

section Combinators

variable {short : ε} {full : φ} {limit : Nat}
variable {f : Codec ε φ α} {g : Codec ε φ β}

theorem pair_write_eq (sf : Spec short full limit f) (sg : Spec short full limit g)
    (value : α × β) (room : Nat) (hfst : sf.fits value.1) (hsnd : sg.fits value.2) :
    (pair f g).write value room =
      if (sf.enc value.1 ++ sg.enc value.2).length ≤ room then
        .ok (sf.enc value.1 ++ sg.enc value.2)
      else .error full := by
  simp only [pair, sf.write_eq value.1 room hfst]
  by_cases hfront : (sf.enc value.1).length ≤ room
  · simp only [hfront, if_true, sg.write_eq _ _ hsnd, List.length_append]
    by_cases hback : (sg.enc value.2).length ≤ room - (sf.enc value.1).length
    · simp only [hback, if_true]
      rw [if_pos (by omega)]
    · simp only [hback, if_false]
      rw [if_neg (by omega)]
  · simp only [hfront, if_false, List.length_append]
    rw [if_neg (by omega)]

theorem pair_write_fits (sf : Spec short full limit f) (sg : Spec short full limit g)
    (value : α × β) (room : Nat) (bytes : Bytes)
    (hwrite : (pair f g).write value room = .ok bytes) (hroom : room < limit) :
    sf.fits value.1 ∧ sg.fits value.2 := by
  simp only [pair] at hwrite
  split at hwrite
  · cases hwrite
  · rename_i front hfront
    split at hwrite
    · cases hwrite
    · rename_i back hback
      exact ⟨sf.write_fits _ _ _ hfront hroom, sg.write_fits _ _ _ hback (by omega)⟩

theorem pair_read_sound (sf : Spec short full limit f) (sg : Spec short full limit g)
    (bytes : Bytes) (value : α × β) (rest : Bytes)
    (hread : (pair f g).read bytes = .ok (value, rest)) :
    (sf.fits value.1 ∧ sg.fits value.2) ∧
      bytes = sf.enc value.1 ++ sg.enc value.2 ++ rest := by
  simp only [pair] at hread
  split at hread
  · cases hread
  · rename_i first rest₁ hfirst
    split at hread
    · cases hread
    · rename_i second rest₂ hsecond
      cases hread
      obtain ⟨hfst, rfl⟩ := sf.read_sound _ _ _ hfirst
      obtain ⟨hsnd, rfl⟩ := sg.read_sound _ _ _ hsecond
      exact ⟨⟨hfst, hsnd⟩, by simp⟩

/-- A cut inside two strings falls into the first one, or behind it into the second. -/
theorem cut_append {front first second : Bytes} (hstarts : front <+: first ++ second)
    (hne : front ≠ first ++ second) :
    (front <+: first ∧ front ≠ first) ∨
      ∃ back, front = first ++ back ∧ back <+: second ∧ back ≠ second := by
  rcases List.prefix_or_prefix_of_prefix hstarts (List.prefix_append _ _) with hin | ⟨back, rfl⟩
  · by_cases hall : front = first
    · subst hall
      refine Or.inr ⟨[], (List.append_nil _).symm, List.nil_prefix, ?_⟩
      rintro rfl
      exact hne (List.append_nil _).symm
    · exact Or.inl ⟨hin, hall⟩
  · refine Or.inr ⟨back, rfl, (List.prefix_append_right_inj _).mp hstarts, ?_⟩
    rintro rfl
    exact hne rfl

/-- A cut inside a product falls into its first field or into its second one. -/
theorem pair_read_short (sf : Spec short full limit f) (sg : Spec short full limit g)
    (value : α × β) (front : Bytes) (hfst : sf.fits value.1) (hsnd : sg.fits value.2)
    (hstarts : front <+: sf.enc value.1 ++ sg.enc value.2)
    (hne : front ≠ sf.enc value.1 ++ sg.enc value.2) :
    (pair f g).read front = .error short := by
  rcases cut_append hstarts hne with ⟨hin, hall⟩ | ⟨back, rfl, hback, hpart⟩
  · simp [pair, sf.read_short value.1 front hfst hin hall]
  · simp [pair, sf.read_enc value.1 back hfst, sg.read_short value.2 back hsnd hback hpart]

/-- The specification of a product, from those of its fields. -/
def Spec.pair (sf : Spec short full limit f) (sg : Spec short full limit g) :
    Spec short full limit (pair f g) where
  enc value := sf.enc value.1 ++ sg.enc value.2
  fits value := sf.fits value.1 ∧ sg.fits value.2
  size_eq value hfits := by
    simp [Codec.pair, sf.size_eq _ hfits.1, sg.size_eq _ hfits.2]
  write_eq value room hfits := pair_write_eq sf sg value room hfits.1 hfits.2
  write_fits := pair_write_fits sf sg
  read_enc value rest hfits := by
    simp [Codec.pair, sf.read_enc _ _ hfits.1, sg.read_enc _ _ hfits.2]
  read_sound := pair_read_sound sf sg
  read_short value front hfits := pair_read_short sf sg value front hfits.1 hfits.2

/-- The specification of a change of representation along a bijection. -/
def Spec.iso (sf : Spec short full limit f) {pack : α → β} {unpack : β → α}
    (hpack : ∀ value, pack (unpack value) = value)
    (hunpack : ∀ value, unpack (pack value) = value) :
    Spec short full limit (iso f pack unpack) where
  enc value := sf.enc (unpack value)
  fits value := sf.fits (unpack value)
  size_eq value hfits := sf.size_eq _ hfits
  write_eq value room hfits := sf.write_eq _ room hfits
  write_fits value room bytes hwrite hroom := sf.write_fits _ _ _ hwrite hroom
  read_enc value rest hfits := by
    simp [Codec.iso, sf.read_enc _ _ hfits, hpack]
  read_sound bytes value rest hread := by
    simp only [Codec.iso] at hread
    split at hread
    · cases hread
    · rename_i value' rest' hvalue
      cases hread
      rw [hunpack]
      exact sf.read_sound _ _ _ hvalue
  read_short value front hfits hstarts hne := by
    simp [Codec.iso, sf.read_short _ _ hfits hstarts hne]

end Combinators

/-! ## Fixed-width fields -/

/-- A number of a fixed byte width, most significant byte first. -/
def fixed (short : ε) (full : φ) (width : Nat) (toNat : α → Nat) (ofNat : Nat → α) :
    Codec ε φ α where
  size _ := width
  write value room := if width ≤ room then .ok (bigEndian width (toNat value)) else .error full
  read bytes :=
    if width ≤ bytes.length then .ok (ofNat (ofBigEndian (bytes.take width)), bytes.drop width)
    else .error short

/-- A fixed-width field whose values are exactly the numbers below `256 ^ width`. -/
def Spec.fixed (short : ε) (full : φ) (limit width : Nat) {toNat : α → Nat} {ofNat : Nat → α}
    (hof : ∀ value, ofNat (toNat value) = value)
    (hlt : ∀ value, toNat value < 256 ^ width)
    (hto : ∀ n, n < 256 ^ width → toNat (ofNat n) = n) :
    Spec short full limit (fixed short full width toNat ofNat) where
  enc value := bigEndian width (toNat value)
  fits _ := True
  size_eq value _ := by simp [Codec.fixed]
  write_eq value room _ := by simp [Codec.fixed]
  write_fits _ _ _ _ _ := trivial
  read_enc value rest _ := by
    have hvalue : ofBigEndian (bigEndian width (toNat value)) = toNat value := by
      rw [ofBigEndian_bigEndian, Nat.mod_eq_of_lt (hlt value)]
    simp [Codec.fixed, List.take_left' (bigEndian_length _ _),
      List.drop_left' (bigEndian_length _ _), hvalue, hof]
  read_sound bytes value rest hread := by
    simp only [Codec.fixed] at hread
    split at hread
    · rename_i hlen
      cases hread
      have htake : (bytes.take width).length = width := by simp [hlen]
      have hbound : ofBigEndian (bytes.take width) < 256 ^ width := by
        have h := ofBigEndian_lt (bytes.take width)
        rwa [htake] at h
      have hdigits := bigEndian_ofBigEndian (bytes.take width)
      rw [htake] at hdigits
      rw [hto _ hbound, hdigits, List.take_append_drop]
      exact ⟨trivial, rfl⟩
    · cases hread
  read_short value front _ hstarts hne := by
    have hlt : front.length < width := by
      have hle := hstarts.length_le
      rw [bigEndian_length] at hle
      by_contra hge
      exact hne (hstarts.eq_of_length (by rw [bigEndian_length]; omega))
    simp only [Codec.fixed]
    rw [if_neg (by omega)]

/-- A one-byte enumeration: the byte of each value, and the value of each byte
that has one. -/
structure EnumSpec (E : Type) where
  toType : E → UInt8
  fromType : UInt8 → Option E
  fromType_toType : ∀ value, fromType (toType value) = some value
  toType_fromType : ∀ byte value, fromType byte = some value → toType value = byte

/-- An enumeration field.  A byte without a value is reported as `undef`. -/
def enum {E : Type} (short undef : ε) (full : φ) (spec : EnumSpec E) : Codec ε φ E where
  size _ := 1
  write value room := if 1 ≤ room then .ok [spec.toType value] else .error full
  read
    | [] => .error short
    | byte :: rest =>
        match spec.fromType byte with
        | none => .error undef
        | some value => .ok (value, rest)

/-- The specification of an enumeration field. -/
def Spec.enum {E : Type} (short undef : ε) (full : φ) (limit : Nat) (spec : EnumSpec E) :
    Spec short full limit (enum short undef full spec) where
  enc value := [spec.toType value]
  fits _ := True
  size_eq _ _ := rfl
  write_eq _ _ _ := rfl
  write_fits _ _ _ _ _ := trivial
  read_enc value rest _ := by
    simp [Codec.enum, spec.fromType_toType]
  read_sound bytes value rest hread := by
    cases bytes with
    | nil => cases hread
    | cons byte tail =>
        simp only [Codec.enum] at hread
        split at hread
        · cases hread
        · rename_i value' hvalue
          cases hread
          rw [spec.toType_fromType byte value hvalue]
          exact ⟨trivial, rfl⟩
  read_short value front _ hstarts hne := by
    have hnil : front = [] := by
      cases front with
      | nil => rfl
      | cons byte tail =>
          exact absurd (hstarts.eq_of_length (by
            have := hstarts.length_le
            simp at this ⊢
            simp [this])) hne
    rw [hnil]
    rfl

/-! ## Length-prefixed strings -/

/-- How a bounded counter type represents the numbers below `limit`. -/
structure Counter (ν : Type) (limit : Nat) where
  ofNat : Nat → ν
  toNat : ν → Nat
  toNat_lt : ∀ count, toNat count < limit
  toNat_ofNat : ∀ n, n < limit → toNat (ofNat n) = n
  ofNat_toNat : ∀ count, ofNat (toNat count) = count

/-- A byte string behind its length. -/
def lengthPrefixed {ν : Type} {limit : Nat} (short : ε) (full : φ) (counter : Counter ν limit)
    (len : Codec ε φ ν) : Codec ε φ Bytes where
  size value := len.size (counter.ofNat value.length) + value.length
  write value room :=
    match len.write (counter.ofNat value.length) room with
    | .error e => .error e
    | .ok front =>
        if room - front.length < value.length then .error full else .ok (front ++ value)
  read bytes :=
    match len.read bytes with
    | .error e => .error e
    | .ok (length, rest) =>
        if rest.length < counter.toNat length then .error short
        else .ok (rest.take (counter.toNat length), rest.drop (counter.toNat length))

/-- The specification of a length-prefixed string, from that of its length.  The
strings it admits are those whose length the counter represents. -/
def Spec.lengthPrefixed {ν : Type} {short : ε} {full : φ} {limit : Nat}
    {counter : Counter ν limit} {len : Codec ε φ ν} (sl : Spec short full limit len)
    (hall : ∀ count, sl.fits count) :
    Spec short full limit (lengthPrefixed short full counter len) where
  enc value := sl.enc (counter.ofNat value.length) ++ value
  fits value := value.length < limit
  size_eq value _ := by simp [Codec.lengthPrefixed, sl.size_eq _ (hall _)]
  write_eq value room _ := by
    simp only [Codec.lengthPrefixed, sl.write_eq _ room (hall _), List.length_append]
    by_cases hfront : (sl.enc (counter.ofNat value.length)).length ≤ room
    · simp only [hfront, if_true]
      by_cases hback : room - (sl.enc (counter.ofNat value.length)).length < value.length
      · rw [if_pos hback, if_neg (by omega)]
      · rw [if_neg hback, if_pos (by omega)]
    · simp only [hfront, if_false]
      rw [if_neg (by omega)]
  write_fits value room bytes hwrite hroom := by
    simp only [Codec.lengthPrefixed] at hwrite
    split at hwrite
    · cases hwrite
    · split at hwrite
      · cases hwrite
      · omega
  read_enc value rest hfits := by
    simp [Codec.lengthPrefixed, sl.read_enc _ _ (hall _), counter.toNat_ofNat _ hfits]
  read_sound bytes value rest hread := by
    simp only [Codec.lengthPrefixed] at hread
    split at hread
    · cases hread
    · rename_i length tail hlength
      split at hread
      · cases hread
      · rename_i hlen
        cases hread
        have htake : (tail.take (counter.toNat length)).length = counter.toNat length := by
          rw [List.length_take]
          omega
        obtain ⟨-, rfl⟩ := sl.read_sound _ _ _ hlength
        rw [htake, counter.ofNat_toNat]
        exact ⟨counter.toNat_lt length, by simp⟩
  read_short value front hfits hstarts hne := by
    rcases cut_append hstarts hne with ⟨hin, hwhole⟩ | ⟨back, rfl, hback, hpart⟩
    · simp [Codec.lengthPrefixed, sl.read_short _ _ (hall _) hin hwhole]
    · have hshort : back.length < value.length := by
        by_contra hlong
        exact hpart (hback.eq_of_length_le (by omega))
      simp [Codec.lengthPrefixed, sl.read_enc _ back (hall _), counter.toNat_ofNat _ hfits, hshort]

/-! ## Counted sequences

The items of a sequence stand behind their count.  The sequence has a capacity,
so its values are the lists of at most that many items. -/

/-- The lists that fit into an array of `capacity` items. -/
abbrev Bounded (α : Type) (capacity : Nat) := { items : List α // items.length ≤ capacity }

/-- Write the items one behind the other. -/
def writeItems (item : Codec ε φ α) : List α → Nat → Except φ Bytes
  | [], _ => .ok []
  | value :: values, room =>
      match item.write value room with
      | .error e => .error e
      | .ok front =>
          match writeItems item values (room - front.length) with
          | .error e => .error e
          | .ok back => .ok (front ++ back)

/-- Read `count` items into an array with `space` free places.  An item is read
before its place is looked for. -/
def readItems (item : Codec ε φ α) (capacityLimit : ε) :
    (count space : Nat) → Bytes → Except ε (Bounded α space × Bytes)
  | 0, _, bytes => .ok (⟨[], Nat.zero_le _⟩, bytes)
  | count + 1, space, bytes =>
      match item.read bytes with
      | .error e => .error e
      | .ok (value, rest) =>
          match space with
          | 0 => .error capacityLimit
          | space + 1 =>
              match readItems item capacityLimit count space rest with
              | .error e => .error e
              | .ok (values, rest) =>
                  .ok (⟨value :: values.1, Nat.succ_le_succ values.2⟩, rest)

/-- A sequence of at most `capacity` items behind its count. -/
def counted {ν : Type} {limit : Nat} (capacityLimit : ε) (counter : Counter ν limit)
    (len : Codec ε φ ν) (item : Codec ε φ α) (capacity : Nat) : Codec ε φ (Bounded α capacity) where
  size value := len.size (counter.ofNat value.1.length) + (value.1.map item.size).sum
  write value room :=
    match len.write (counter.ofNat value.1.length) room with
    | .error e => .error e
    | .ok front =>
        match writeItems item value.1 (room - front.length) with
        | .error e => .error e
        | .ok back => .ok (front ++ back)
  read bytes :=
    match len.read bytes with
    | .error e => .error e
    | .ok (count, rest) => readItems item capacityLimit (counter.toNat count) capacity rest

section Counted

variable {short : ε} {full : φ} {limit : Nat} {item : Codec ε φ α} {capacityLimit : ε}

/-- The encodings of the items, one behind the other. -/
def Spec.encItems (si : Spec short full limit item) (values : List α) : Bytes :=
  values.flatMap si.enc

@[simp] theorem Spec.encItems_cons (si : Spec short full limit item) (value : α)
    (values : List α) : si.encItems (value :: values) = si.enc value ++ si.encItems values :=
  List.flatMap_cons

theorem writeItems_eq (si : Spec short full limit item) (values : List α) (room : Nat)
    (hfits : ∀ value ∈ values, si.fits value) :
    writeItems item values room =
      if (si.encItems values).length ≤ room then .ok (si.encItems values) else .error full := by
  induction values generalizing room with
  | nil => simp [writeItems, Spec.encItems]
  | cons value values ih =>
      have hvalue := si.write_eq value room (hfits value List.mem_cons_self)
      have hvalues := ih (room - (si.enc value).length)
        (fun other hin => hfits other (List.mem_cons_of_mem _ hin))
      simp only [writeItems, hvalue, Spec.encItems_cons, List.length_append]
      by_cases hfront : (si.enc value).length ≤ room
      · simp only [hfront, if_true, hvalues]
        by_cases hback : (si.encItems values).length ≤ room - (si.enc value).length
        · rw [if_pos hback, if_pos (by omega)]
        · rw [if_neg hback, if_neg (by omega)]
      · rw [if_neg hfront, if_neg (by omega)]

theorem writeItems_fits (si : Spec short full limit item) {values : List α} {room : Nat}
    {bytes : Bytes} (hwrite : writeItems item values room = .ok bytes) (hroom : room < limit) :
    ∀ value ∈ values, si.fits value := by
  induction values generalizing room bytes with
  | nil => simp
  | cons value values ih =>
      simp only [writeItems] at hwrite
      split at hwrite
      · cases hwrite
      · rename_i front hfront
        split at hwrite
        · cases hwrite
        · rename_i back hback
          rw [List.forall_mem_cons]
          exact ⟨si.write_fits _ _ _ hfront hroom, ih hback (by omega)⟩

theorem readItems_enc (si : Spec short full limit item) (values : List α) {space : Nat}
    (hspace : values.length ≤ space) (hfits : ∀ value ∈ values, si.fits value) (rest : Bytes) :
    readItems item capacityLimit values.length space (si.encItems values ++ rest) =
      .ok (⟨values, hspace⟩, rest) := by
  induction values generalizing space with
  | nil => simp [readItems, Spec.encItems]
  | cons value values ih =>
      rw [List.forall_mem_cons] at hfits
      cases space with
      | zero => simp at hspace
      | succ space =>
          have hread := si.read_enc value (si.encItems values ++ rest) hfits.1
          simp only [List.length_cons, readItems, Spec.encItems_cons, List.append_assoc, hread]
          rw [ih (Nat.le_of_succ_le_succ hspace) hfits.2]

theorem readItems_sound (si : Spec short full limit item) {count space : Nat} {bytes rest : Bytes}
    {values : Bounded α space}
    (hread : readItems item capacityLimit count space bytes = .ok (values, rest)) :
    values.1.length = count ∧ (∀ value ∈ values.1, si.fits value) ∧
      bytes = si.encItems values.1 ++ rest := by
  induction count generalizing space bytes with
  | zero =>
      simp only [readItems] at hread
      cases hread
      simp [Spec.encItems]
  | succ count ih =>
      simp only [readItems] at hread
      split at hread
      · cases hread
      · rename_i value tail hvalue
        obtain ⟨hfits, rfl⟩ := si.read_sound _ _ _ hvalue
        cases space with
        | zero => cases hread
        | succ space =>
            simp only at hread
            split at hread
            · cases hread
            · rename_i items tail' hitems
              cases hread
              obtain ⟨hlength, hall, rfl⟩ := ih hitems
              exact ⟨by simp [hlength], List.forall_mem_cons.mpr ⟨hfits, hall⟩, by simp⟩

/-- A cut inside the items falls into one of them. -/
theorem readItems_short (si : Spec short full limit item) {values : List α} {space : Nat}
    (hspace : values.length ≤ space) (hfits : ∀ value ∈ values, si.fits value) {front : Bytes}
    (hstarts : front <+: si.encItems values) (hne : front ≠ si.encItems values) :
    readItems item capacityLimit values.length space front = .error short := by
  induction values generalizing space front with
  | nil => exact absurd (List.prefix_nil.mp hstarts) hne
  | cons value values ih =>
      rw [List.forall_mem_cons] at hfits
      rw [Spec.encItems_cons] at hstarts hne
      rcases cut_append hstarts hne with ⟨hin, hpart⟩ | ⟨back, rfl, hback, hpart⟩
      · simp [readItems, si.read_short value front hfits.1 hin hpart]
      · cases space with
        | zero => simp at hspace
        | succ space =>
            have hrest := ih (Nat.le_of_succ_le_succ hspace) hfits.2 hback hpart
            simp [readItems, si.read_enc value back hfits.1, hrest]

/-- The specification of a counted sequence, from those of its count and its items. -/
def Spec.counted {ν : Type} {counter : Counter ν limit} {len : Codec ε φ ν}
    (sl : Spec short full limit len) (hall : ∀ count, sl.fits count)
    (si : Spec short full limit item) (capacityLimit : ε) {capacity : Nat}
    (hcapacity : capacity < limit) :
    Spec short full limit (counted capacityLimit counter len item capacity) where
  enc value := sl.enc (counter.ofNat value.1.length) ++ si.encItems value.1
  fits value := ∀ v ∈ value.1, si.fits v
  size_eq value hfits := by
    have hitems : (value.1.map item.size).sum = (si.encItems value.1).length := by
      rw [Spec.encItems, List.length_flatMap]
      exact congrArg List.sum (List.map_congr_left (fun v hin => si.size_eq v (hfits v hin)))
    simp [Codec.counted, sl.size_eq _ (hall _), hitems]
  write_eq value room hfits := by
    simp only [Codec.counted, sl.write_eq _ room (hall _), writeItems_eq si _ _ hfits,
      List.length_append]
    by_cases hfront : (sl.enc (counter.ofNat value.1.length)).length ≤ room
    · simp only [hfront, if_true]
      by_cases hback : (si.encItems value.1).length ≤
          room - (sl.enc (counter.ofNat value.1.length)).length
      · rw [if_pos hback, if_pos (by omega)]
      · rw [if_neg hback, if_neg (by omega)]
    · rw [if_neg hfront, if_neg (by omega)]
  write_fits value room bytes hwrite hroom := by
    simp only [Codec.counted] at hwrite
    split at hwrite
    · cases hwrite
    · split at hwrite
      · cases hwrite
      · rename_i back hback
        exact writeItems_fits si hback (by omega)
  read_enc value rest hfits := by
    have hcount := counter.toNat_ofNat _ (Nat.lt_of_le_of_lt value.2 hcapacity)
    simp [Codec.counted, sl.read_enc _ _ (hall _), hcount,
      readItems_enc si value.1 value.2 hfits rest]
  read_sound bytes value rest hread := by
    simp only [Codec.counted] at hread
    split at hread
    · cases hread
    · rename_i count tail hcount
      obtain ⟨-, rfl⟩ := sl.read_sound _ _ _ hcount
      obtain ⟨hlength, hfits, rfl⟩ := readItems_sound si hread
      refine ⟨hfits, ?_⟩
      rw [hlength, counter.ofNat_toNat, List.append_assoc]
  read_short value front hfits hstarts hne := by
    have hcount := counter.toNat_ofNat _ (Nat.lt_of_le_of_lt value.2 hcapacity)
    rcases cut_append hstarts hne with ⟨hin, hwhole⟩ | ⟨back, rfl, hback, hpart⟩
    · simp [Codec.counted, sl.read_short _ _ (hall _) hin hwhole]
    · simp [Codec.counted, sl.read_enc _ back (hall _), hcount,
        readItems_short si value.2 hfits hback hpart]

end Counted

end Codec
end Wire
