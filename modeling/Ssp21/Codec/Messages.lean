import Ssp21.Codec.VLength

/-!
# Messages of the cryptographic layer

The four messages and the structures inside them, each with its codec.  A
structure is its fields one behind the other (`MessageParser::read_fields`,
`MessageFormatter::write_fields`).  A top-level message puts its function byte in
front and must be read to the last byte (`read_message`, `write_message`).

Every structure gets a `Spec` from the field specifications, so that the round
trip, the size and the uniqueness of the encoding hold for all of them at once.
-/

namespace Ssp21

open Wire

/-! ## Enumerations -/

/-- Crypto layer function code. -/
inductive Function
  | requestHandshakeBegin
  | replyHandshakeBegin
  | replyHandshakeError
  | sessionData
  deriving DecidableEq, Repr

/-- Type of ephemeral value used during the handshake. -/
inductive HandshakeEphemeral
  | x25519
  | nonce
  | none
  deriving DecidableEq, Repr

/-- Hash algorithm of the handshake. -/
inductive HandshakeHash
  | sha256
  deriving DecidableEq, Repr

/-- Key derivation function of the handshake. -/
inductive HandshakeKDF
  | hkdfSha256
  deriving DecidableEq, Repr

/-- How nonces are verified during the session. -/
inductive SessionNonceMode
  | strictIncrement
  | greaterThanLastRx
  deriving DecidableEq, Repr

/-- The algorithms used to secure the session. -/
inductive SessionCryptoMode
  | hmacSha256_16
  | aes256Gcm
  deriving DecidableEq, Repr

/-- How key derivation occurs. -/
inductive HandshakeMode
  | sharedSecret
  | publicKeys
  | quantumKeyDistribution
  | industrialCertificates
  deriving DecidableEq, Repr

/-- An error condition of the handshake, as sent on the wire.  `none` is also the
value the implementation uses internally for the absence of an error. -/
inductive HandshakeError
  | badMessageFormat
  | unsupportedVersion
  | unsupportedHandshakeEphemeral
  | unsupportedHandshakeHash
  | unsupportedHandshakeKdf
  | unsupportedSessionMode
  | unsupportedNonceMode
  | unsupportedHandshakeMode
  | badCertificateFormat
  | badCertificateChain
  | unsupportedCertificateFeature
  | authenticationError
  | noPriorHandshakeBegin
  | keyNotFound
  | none
  | unknown
  deriving DecidableEq, Repr

def Function.spec : Codec.EnumSpec Function where
  toType
    | .requestHandshakeBegin => 0x0
    | .replyHandshakeBegin => 0x1
    | .replyHandshakeError => 0x2
    | .sessionData => 0x3
  fromType
    | 0x0 => some .requestHandshakeBegin
    | 0x1 => some .replyHandshakeBegin
    | 0x2 => some .replyHandshakeError
    | 0x3 => some .sessionData
    | _ => Option.none
  fromType_toType value := by cases value <;> rfl
  toType_fromType byte value h := by split at h <;> cases h <;> rfl

def HandshakeEphemeral.spec : Codec.EnumSpec HandshakeEphemeral where
  toType
    | .x25519 => 0x0
    | .nonce => 0x1
    | .none => 0x2
  fromType
    | 0x0 => some .x25519
    | 0x1 => some .nonce
    | 0x2 => some .none
    | _ => Option.none
  fromType_toType value := by cases value <;> rfl
  toType_fromType byte value h := by split at h <;> cases h <;> rfl

def HandshakeHash.spec : Codec.EnumSpec HandshakeHash where
  toType
    | .sha256 => 0x0
  fromType
    | 0x0 => some .sha256
    | _ => Option.none
  fromType_toType value := by cases value; rfl
  toType_fromType byte value h := by split at h <;> cases h; rfl

def HandshakeKDF.spec : Codec.EnumSpec HandshakeKDF where
  toType
    | .hkdfSha256 => 0x0
  fromType
    | 0x0 => some .hkdfSha256
    | _ => Option.none
  fromType_toType value := by cases value; rfl
  toType_fromType byte value h := by split at h <;> cases h; rfl

def SessionNonceMode.spec : Codec.EnumSpec SessionNonceMode where
  toType
    | .strictIncrement => 0x0
    | .greaterThanLastRx => 0x1
  fromType
    | 0x0 => some .strictIncrement
    | 0x1 => some .greaterThanLastRx
    | _ => Option.none
  fromType_toType value := by cases value <;> rfl
  toType_fromType byte value h := by split at h <;> cases h <;> rfl

def SessionCryptoMode.spec : Codec.EnumSpec SessionCryptoMode where
  toType
    | .hmacSha256_16 => 0x0
    | .aes256Gcm => 0x1
  fromType
    | 0x0 => some .hmacSha256_16
    | 0x1 => some .aes256Gcm
    | _ => Option.none
  fromType_toType value := by cases value <;> rfl
  toType_fromType byte value h := by split at h <;> cases h <;> rfl

def HandshakeMode.spec : Codec.EnumSpec HandshakeMode where
  toType
    | .sharedSecret => 0x0
    | .publicKeys => 0x1
    | .quantumKeyDistribution => 0x2
    | .industrialCertificates => 0x3
  fromType
    | 0x0 => some .sharedSecret
    | 0x1 => some .publicKeys
    | 0x2 => some .quantumKeyDistribution
    | 0x3 => some .industrialCertificates
    | _ => Option.none
  fromType_toType value := by cases value <;> rfl
  toType_fromType byte value h := by split at h <;> cases h <;> rfl

def HandshakeError.spec : Codec.EnumSpec HandshakeError where
  toType
    | .badMessageFormat => 0x0
    | .unsupportedVersion => 0x1
    | .unsupportedHandshakeEphemeral => 0x2
    | .unsupportedHandshakeHash => 0x3
    | .unsupportedHandshakeKdf => 0x4
    | .unsupportedSessionMode => 0x5
    | .unsupportedNonceMode => 0x6
    | .unsupportedHandshakeMode => 0x7
    | .badCertificateFormat => 0x8
    | .badCertificateChain => 0x9
    | .unsupportedCertificateFeature => 0xA
    | .authenticationError => 0xB
    | .noPriorHandshakeBegin => 0xC
    | .keyNotFound => 0xD
    | .unknown => 0xFF
    | .none => 0xFD
  fromType
    | 0x0 => some .badMessageFormat
    | 0x1 => some .unsupportedVersion
    | 0x2 => some .unsupportedHandshakeEphemeral
    | 0x3 => some .unsupportedHandshakeHash
    | 0x4 => some .unsupportedHandshakeKdf
    | 0x5 => some .unsupportedSessionMode
    | 0x6 => some .unsupportedNonceMode
    | 0x7 => some .unsupportedHandshakeMode
    | 0x8 => some .badCertificateFormat
    | 0x9 => some .badCertificateChain
    | 0xA => some .unsupportedCertificateFeature
    | 0xB => some .authenticationError
    | 0xC => some .noPriorHandshakeBegin
    | 0xD => some .keyNotFound
    | 0xFF => some .unknown
    | 0xFD => some .none
    | _ => Option.none
  fromType_toType value := by cases value <;> rfl
  toType_fromType byte value h := by split at h <;> cases h <;> rfl

/-! ## Fields -/

/-- `IntegerField<UInt16>`. -/
def uint16 : Codec ParseError FormatError UInt16 :=
  Codec.fixed .insufficientBytes .insufficientSpace 2 UInt16.toNat UInt16.ofNat

/-- `IntegerField<UInt32>`. -/
def uint32 : Codec ParseError FormatError UInt32 :=
  Codec.fixed .insufficientBytes .insufficientSpace 4 UInt32.toNat UInt32.ofNat

/-- `EnumField<Spec>`. -/
def enumField {E : Type} (spec : Codec.EnumSpec E) : Codec ParseError FormatError E :=
  Codec.enum .insufficientBytes .undefinedEnum .insufficientSpace spec

/-- `SeqByteField`. -/
def seqByteField : Codec ParseError FormatError Bytes :=
  Codec.lengthPrefixed .insufficientBytes .insufficientSpace VLength.counter VLength.codec

/-- What it means for the three traversals of a type to agree, with the errors of
this library and destinations whose length fits into 32 bits. -/
abbrev FieldSpec {α : Type} (c : Codec ParseError FormatError α) :=
  Codec.Spec ParseError.insufficientBytes FormatError.insufficientSpace (2 ^ 32) c

def uint16Spec : FieldSpec uint16 :=
  Codec.Spec.fixed _ _ _ 2 (fun _ => UInt16.ofNat_toNat) UInt16.toNat_lt
    (fun _ hlt => UInt16.toNat_ofNat_of_lt hlt)

def uint32Spec : FieldSpec uint32 :=
  Codec.Spec.fixed _ _ _ 4 (fun _ => UInt32.ofNat_toNat) UInt32.toNat_lt
    (fun _ hlt => UInt32.toNat_ofNat_of_lt hlt)

def enumFieldSpec {E : Type} (spec : Codec.EnumSpec E) : FieldSpec (enumField spec) :=
  Codec.Spec.enum _ _ _ _ spec

def seqByteFieldSpec : FieldSpec seqByteField :=
  Codec.Spec.lengthPrefixed VLength.spec (fun _ => trivial)

/-! ## Structures -/

structure Version where
  majorVersion : UInt16
  minorVersion : UInt16
  deriving DecidableEq, Repr

structure CryptoSpec where
  handshakeEphemeral : HandshakeEphemeral
  handshakeHash : HandshakeHash
  handshakeKdf : HandshakeKDF
  sessionNonceMode : SessionNonceMode
  sessionCryptoMode : SessionCryptoMode
  deriving DecidableEq, Repr

structure SessionConstraints where
  maxNonce : UInt16
  maxSessionDuration : UInt32
  deriving DecidableEq, Repr

structure AuthMetadata where
  nonce : UInt16
  validUntilMs : UInt32
  deriving DecidableEq, Repr

structure RequestHandshakeBegin where
  version : Version
  spec : CryptoSpec
  constraints : SessionConstraints
  handshakeMode : HandshakeMode
  modeEphemeral : Bytes
  modeData : Bytes
  deriving DecidableEq, Repr

structure ReplyHandshakeBegin where
  version : Version
  modeEphemeral : Bytes
  modeData : Bytes
  deriving DecidableEq, Repr

structure ReplyHandshakeError where
  version : Version
  handshakeError : HandshakeError
  deriving DecidableEq, Repr

structure SessionData where
  metadata : AuthMetadata
  userData : Bytes
  authTag : Bytes
  deriving DecidableEq, Repr

def Version.codec : Codec ParseError FormatError Version :=
  (uint16.pair uint16).iso (fun p => ⟨p.1, p.2⟩) (fun v => (v.majorVersion, v.minorVersion))

def CryptoSpec.codec : Codec ParseError FormatError CryptoSpec :=
  ((enumField HandshakeEphemeral.spec).pair <| (enumField HandshakeHash.spec).pair <|
    (enumField HandshakeKDF.spec).pair <| (enumField SessionNonceMode.spec).pair <|
    enumField SessionCryptoMode.spec).iso
    (fun p => ⟨p.1, p.2.1, p.2.2.1, p.2.2.2.1, p.2.2.2.2⟩)
    (fun v => (v.handshakeEphemeral, v.handshakeHash, v.handshakeKdf, v.sessionNonceMode,
      v.sessionCryptoMode))

def SessionConstraints.codec : Codec ParseError FormatError SessionConstraints :=
  (uint16.pair uint32).iso (fun p => ⟨p.1, p.2⟩) (fun v => (v.maxNonce, v.maxSessionDuration))

def AuthMetadata.codec : Codec ParseError FormatError AuthMetadata :=
  (uint16.pair uint32).iso (fun p => ⟨p.1, p.2⟩) (fun v => (v.nonce, v.validUntilMs))

/-- The fields behind the function byte. -/
def RequestHandshakeBegin.fields : Codec ParseError FormatError RequestHandshakeBegin :=
  (Version.codec.pair <| CryptoSpec.codec.pair <| SessionConstraints.codec.pair <|
    (enumField HandshakeMode.spec).pair <| seqByteField.pair seqByteField).iso
    (fun p => ⟨p.1, p.2.1, p.2.2.1, p.2.2.2.1, p.2.2.2.2.1, p.2.2.2.2.2⟩)
    (fun v => (v.version, v.spec, v.constraints, v.handshakeMode, v.modeEphemeral, v.modeData))

def ReplyHandshakeBegin.fields : Codec ParseError FormatError ReplyHandshakeBegin :=
  (Version.codec.pair <| seqByteField.pair seqByteField).iso
    (fun p => ⟨p.1, p.2.1, p.2.2⟩) (fun v => (v.version, v.modeEphemeral, v.modeData))

def ReplyHandshakeError.fields : Codec ParseError FormatError ReplyHandshakeError :=
  (Version.codec.pair (enumField HandshakeError.spec)).iso
    (fun p => ⟨p.1, p.2⟩) (fun v => (v.version, v.handshakeError))

def SessionData.fields : Codec ParseError FormatError SessionData :=
  (AuthMetadata.codec.pair <| seqByteField.pair seqByteField).iso
    (fun p => ⟨p.1, p.2.1, p.2.2⟩) (fun v => (v.metadata, v.userData, v.authTag))

def Version.codecSpec : FieldSpec Version.codec :=
  (uint16Spec.pair uint16Spec).iso (fun _ => rfl) (fun _ => rfl)

def CryptoSpec.codecSpec : FieldSpec CryptoSpec.codec :=
  ((enumFieldSpec HandshakeEphemeral.spec).pair <| (enumFieldSpec HandshakeHash.spec).pair <|
    (enumFieldSpec HandshakeKDF.spec).pair <| (enumFieldSpec SessionNonceMode.spec).pair <|
    enumFieldSpec SessionCryptoMode.spec).iso (fun _ => rfl) (fun _ => rfl)

def SessionConstraints.codecSpec : FieldSpec SessionConstraints.codec :=
  (uint16Spec.pair uint32Spec).iso (fun _ => rfl) (fun _ => rfl)

def AuthMetadata.codecSpec : FieldSpec AuthMetadata.codec :=
  (uint16Spec.pair uint32Spec).iso (fun _ => rfl) (fun _ => rfl)

def RequestHandshakeBegin.fieldsSpec : FieldSpec RequestHandshakeBegin.fields :=
  (Version.codecSpec.pair <| CryptoSpec.codecSpec.pair <| SessionConstraints.codecSpec.pair <|
    (enumFieldSpec HandshakeMode.spec).pair <| seqByteFieldSpec.pair seqByteFieldSpec).iso
    (fun _ => rfl) (fun _ => rfl)

def ReplyHandshakeBegin.fieldsSpec : FieldSpec ReplyHandshakeBegin.fields :=
  (Version.codecSpec.pair <| seqByteFieldSpec.pair seqByteFieldSpec).iso
    (fun _ => rfl) (fun _ => rfl)

def ReplyHandshakeError.fieldsSpec : FieldSpec ReplyHandshakeError.fields :=
  (Version.codecSpec.pair (enumFieldSpec HandshakeError.spec)).iso (fun _ => rfl) (fun _ => rfl)

def SessionData.fieldsSpec : FieldSpec SessionData.fields :=
  (AuthMetadata.codecSpec.pair <| seqByteFieldSpec.pair seqByteFieldSpec).iso
    (fun _ => rfl) (fun _ => rfl)

/-! ## Top-level messages -/

section Message

variable {α : Type}

/-- `MessageParser::read_message`: the expected function byte, the fields, and
nothing behind them. -/
def readMessage (expected : Function) (fields : Codec ParseError FormatError α)
    (input : Bytes) : Except ParseError α :=
  match (enumField Function.spec).read input with
  | .error e => .error e
  | .ok (func, copy) =>
      if func ≠ expected then .error .unexpectedFunction
      else
        match fields.read copy with
        | .error e => .error e
        | .ok (value, copy) => if copy.isEmpty then .ok value else .error .tooManyBytes

/-- `MessageFormatter::write_message` into a destination of `room` bytes. -/
def writeMessage (function : Function) (fields : Codec ParseError FormatError α)
    (value : α) (room : Nat) : Except FormatError Bytes :=
  ((enumField Function.spec).pair fields).write (function, value) room

/-- `size()` of a message: its function byte and its fields. -/
def messageSize (fields : Codec ParseError FormatError α) (value : α) : Nat :=
  1 + fields.size value

/-- The bytes of a message. -/
def encMessage (function : Function) {fields : Codec ParseError FormatError α}
    (spec : FieldSpec fields) (value : α) : Bytes :=
  Function.spec.toType function :: spec.enc value

variable {fields : Codec ParseError FormatError α}

theorem readMessage_encMessage (spec : FieldSpec fields) (function : Function) {value : α}
    (hfits : spec.fits value) :
    readMessage function fields (encMessage function spec value) = .ok value := by
  have hfunc := (enumFieldSpec Function.spec).read_enc function (spec.enc value) trivial
  have hfields := spec.read_enc value [] hfits
  rw [List.append_nil] at hfields
  change (enumField Function.spec).read (encMessage function spec value) = _ at hfunc
  simp [readMessage, hfunc, hfields]

/-- A message is accepted only as the encoding of the value it is read as. -/
theorem readMessage_sound (spec : FieldSpec fields) {function : Function} {input : Bytes}
    {value : α} (hread : readMessage function fields input = .ok value) :
    spec.fits value ∧ input = encMessage function spec value := by
  simp only [readMessage] at hread
  split at hread
  · cases hread
  · rename_i func copy hfunc
    obtain ⟨-, rfl⟩ := (enumFieldSpec Function.spec).read_sound _ _ _ hfunc
    split at hread
    · cases hread
    · rename_i hexpected
      rw [not_not] at hexpected
      subst hexpected
      split at hread
      · cases hread
      · rename_i value' rest hfields
        obtain ⟨hfits, rfl⟩ := spec.read_sound _ _ _ hfields
        split at hread
        · rename_i hempty
          cases hread
          rw [List.isEmpty_iff] at hempty
          subst hempty
          exact ⟨hfits, by simp [encMessage, enumFieldSpec, Codec.Spec.enum]⟩
        · cases hread

/-- A successful write put the whole encoding into the destination. -/
theorem writeMessage_ok (spec : FieldSpec fields) {function : Function} {value : α} {room : Nat}
    {bytes : Bytes} (hwrite : writeMessage function fields value room = .ok bytes)
    (hroom : room < 2 ^ 32) :
    spec.fits value ∧ bytes = encMessage function spec value ∧ bytes.length ≤ room := by
  obtain ⟨hfits, rfl, hle⟩ :=
    ((enumFieldSpec Function.spec).pair spec).write_ok hwrite hroom
  exact ⟨hfits.2, rfl, hle⟩

/-- What was written is read back. -/
theorem readMessage_of_write (spec : FieldSpec fields) {function : Function} {value value' : α}
    {room : Nat} {bytes : Bytes} (hwrite : writeMessage function fields value room = .ok bytes)
    (hroom : room < 2 ^ 32) (hread : readMessage function fields bytes = .ok value') :
    value' = value := by
  obtain ⟨hfits, hbytes, -⟩ := writeMessage_ok spec hwrite hroom
  rw [hbytes, readMessage_encMessage spec function hfits] at hread
  exact (Except.ok.inj hread).symm

/-- A message of one type starts with its function. -/
theorem readMessage_function (spec : FieldSpec fields) {function : Function} {input : Bytes}
    {value : α} (hread : readMessage function fields input = .ok value) :
    input.head?.bind Function.spec.fromType = some function := by
  obtain ⟨-, rfl⟩ := readMessage_sound spec hread
  simp [encMessage, Function.spec.fromType_toType]

theorem writeMessage_function (spec : FieldSpec fields) {function : Function} {value : α}
    {room : Nat} {bytes : Bytes} (hwrite : writeMessage function fields value room = .ok bytes)
    (hroom : room < 2 ^ 32) : bytes.head?.bind Function.spec.fromType = some function := by
  obtain ⟨hfits, rfl, -⟩ := writeMessage_ok spec hwrite hroom
  exact readMessage_function spec (readMessage_encMessage spec function hfits)

/-- Admitted values of one message type have different encodings. -/
theorem encMessage_injective (spec : FieldSpec fields) {function : Function} {value value' : α}
    (hfits : spec.fits value) (hfits' : spec.fits value')
    (henc : encMessage function spec value = encMessage function spec value') :
    value = value' :=
  spec.enc_injective hfits hfits' (List.cons.inj henc).2

/-- Equal bytes were written for equal values. -/
theorem writeMessage_injective (spec : FieldSpec fields) {function : Function} {value value' : α}
    {room room' : Nat} {bytes : Bytes}
    (hwrite : writeMessage function fields value room = .ok bytes)
    (hwrite' : writeMessage function fields value' room' = .ok bytes)
    (hroom : room < 2 ^ 32) (hroom' : room' < 2 ^ 32) : value = value' := by
  obtain ⟨hfits, hbytes, -⟩ := writeMessage_ok spec hwrite hroom
  obtain ⟨hfits', hbytes', -⟩ := writeMessage_ok spec hwrite' hroom'
  exact encMessage_injective spec hfits hfits' (hbytes.symm.trans hbytes')

end Message

def RequestHandshakeBegin.read : Bytes → Except ParseError RequestHandshakeBegin :=
  readMessage .requestHandshakeBegin RequestHandshakeBegin.fields

def ReplyHandshakeBegin.read : Bytes → Except ParseError ReplyHandshakeBegin :=
  readMessage .replyHandshakeBegin ReplyHandshakeBegin.fields

def ReplyHandshakeError.read : Bytes → Except ParseError ReplyHandshakeError :=
  readMessage .replyHandshakeError ReplyHandshakeError.fields

def SessionData.read : Bytes → Except ParseError SessionData :=
  readMessage .sessionData SessionData.fields

def RequestHandshakeBegin.write : RequestHandshakeBegin → Nat → Except FormatError Bytes :=
  writeMessage .requestHandshakeBegin RequestHandshakeBegin.fields

def ReplyHandshakeBegin.write : ReplyHandshakeBegin → Nat → Except FormatError Bytes :=
  writeMessage .replyHandshakeBegin ReplyHandshakeBegin.fields

def ReplyHandshakeError.write : ReplyHandshakeError → Nat → Except FormatError Bytes :=
  writeMessage .replyHandshakeError ReplyHandshakeError.fields

def SessionData.write : SessionData → Nat → Except FormatError Bytes :=
  writeMessage .sessionData SessionData.fields

def RequestHandshakeBegin.size : RequestHandshakeBegin → Nat :=
  messageSize RequestHandshakeBegin.fields

def ReplyHandshakeBegin.size : ReplyHandshakeBegin → Nat :=
  messageSize ReplyHandshakeBegin.fields

def ReplyHandshakeError.size : ReplyHandshakeError → Nat :=
  messageSize ReplyHandshakeError.fields

def SessionData.size : SessionData → Nat :=
  messageSize SessionData.fields

end Ssp21
