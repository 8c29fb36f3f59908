import Ssp21.Codec.Certificates

/-!
# Sizes and round trips of the message types

Each type has three functions that walk over its fields on their own: `size`,
`write` and `read` (for a structure in a file `read_all`).  `RoundTrip` says what
they owe each other at one value, for every destination and for every cut of the
written bytes.

* `message_roundTrip` covers the top-level messages,
* `struct_roundTrip` the structures of a certificate file,
* `codec_round_trip` puts them together, for all nine types.

The only condition is that byte strings are as long as a `seq32_t` can be.

`Canonical` is the converse: whatever a reader accepts are the bytes that the writer
produces for the value.  It needs no condition, since the readers check everything.
-/

namespace Ssp21

open Wire

/-- What the functions of a type owe each other at a value: the destinations that
are large enough, the bytes written, their reading, and the reading of a part. -/
structure RoundTrip {α : Type} (size : Nat) (write : Nat → Except FormatError Bytes)
    (read : Bytes → Except ParseError α) (value : α) : Prop where
  write_iff : ∀ room, (∃ bytes, write room = .ok bytes) ↔ size ≤ room
  length_eq : ∀ room bytes, write room = .ok bytes → bytes.length = size
  read_eq : ∀ room bytes, write room = .ok bytes → read bytes = .ok value
  read_part : ∀ room bytes, write room = .ok bytes → ∀ front, front <+: bytes → front ≠ bytes →
    read front = .error .insufficientBytes

section

variable {α : Type}

/-- A round trip through one encoding. -/
theorem RoundTrip.of_enc (enc : Bytes) {size : Nat} {write : Nat → Except FormatError Bytes}
    {read : Bytes → Except ParseError α} {value : α} (hsize : size = enc.length)
    (hwrite : ∀ room, write room =
      if enc.length ≤ room then .ok enc else .error .insufficientSpace)
    (hread : read enc = .ok value)
    (hpart : ∀ front, front <+: enc → front ≠ enc → read front = .error .insufficientBytes) :
    RoundTrip size write read value := by
  have hbytes : ∀ room bytes, write room = .ok bytes → bytes = enc := by
    intro room bytes h
    rw [hwrite] at h
    split_ifs at h
    exact (Except.ok.inj h).symm
  constructor
  · intro room
    rw [hwrite, hsize]
    by_cases hroom : enc.length ≤ room
    · simp [hroom]
    · simp [hroom]
  · intro room bytes h
    rw [hbytes room bytes h, hsize]
  · intro room bytes h
    rw [hbytes room bytes h, hread]
  · intro room bytes h
    rw [hbytes room bytes h]
    exact hpart

/-- A message that stops early is reported as such, wherever it stops. -/
theorem readMessage_part {fields : Codec ParseError FormatError α} (spec : FieldSpec fields)
    (function : Function) {value : α} (hfits : spec.fits value) {front : Bytes}
    (hstarts : front <+: encMessage function spec value)
    (hne : front ≠ encMessage function spec value) :
    readMessage function fields front = .error .insufficientBytes := by
  cases front with
  | nil => rfl
  | cons byte back =>
      obtain ⟨rfl, hback⟩ := List.cons_prefix_cons.mp hstarts
      have hpart : back ≠ spec.enc value := by
        rintro rfl
        exact hne rfl
      have hfunc := (enumFieldSpec Function.spec).read_enc function back trivial
      change (enumField Function.spec).read (Function.spec.toType function :: back) = _ at hfunc
      simp [readMessage, hfunc, spec.read_short value back hfits hback hpart]

theorem message_roundTrip {fields : Codec ParseError FormatError α} (spec : FieldSpec fields)
    (function : Function) {value : α} (hfits : spec.fits value) :
    RoundTrip (messageSize fields value) (writeMessage function fields value)
      (readMessage function fields) value := by
  apply RoundTrip.of_enc (encMessage function spec value)
  · simp only [messageSize, spec.size_eq value hfits, encMessage, List.length_cons]
    omega
  · intro room
    exact ((enumFieldSpec Function.spec).pair spec).write_eq (function, value) room
      ⟨trivial, hfits⟩
  · exact readMessage_encMessage spec function hfits
  · intro front hstarts hne
    exact readMessage_part spec function hfits hstarts hne

/-- `read_all` takes back an encoding with nothing behind it. -/
theorem readAll_enc {codec : Codec ParseError FormatError α} (spec : FieldSpec codec) {value : α}
    (hfits : spec.fits value) : readAll codec (spec.enc value) = .ok value := by
  have hread := spec.read_enc value [] hfits
  rw [List.append_nil] at hread
  simp [readAll, hread]

theorem struct_roundTrip {codec : Codec ParseError FormatError α} (spec : FieldSpec codec)
    {value : α} (hfits : spec.fits value) :
    RoundTrip (codec.size value) (codec.write value) (readAll codec) value := by
  apply RoundTrip.of_enc (spec.enc value)
  · exact spec.size_eq value hfits
  · intro room
    exact spec.write_eq value room hfits
  · exact readAll_enc spec hfits
  · intro front hstarts hne
    simp [readAll, spec.read_short value front hfits hstarts hne]

end

/-! ## The structures of a certificate file -/

def uint8Spec : FieldSpec uint8 :=
  Codec.Spec.fixed _ _ _ 1 (by simp) UInt8.toNat_lt (by
    intro n hlt
    simp
    omega)

def uint64Spec : FieldSpec uint64 :=
  Codec.Spec.fixed _ _ _ 8 (by simp) UInt64.toNat_lt (by
    intro n hlt
    simp
    omega)

def seqStructFieldSpec {α : Type} {item : Codec ParseError FormatError α} (spec : FieldSpec item)
    {capacity : Nat} (hcapacity : capacity < 2 ^ 32) : FieldSpec (seqStructField item capacity) :=
  Codec.Spec.counted VLength.spec (fun _ => trivial) spec .implCapacityLimit hcapacity

def ExtensionEnvelope.codecSpec : FieldSpec ExtensionEnvelope.codec :=
  (uint32Spec.pair seqByteFieldSpec).iso (fun _ => rfl) (fun _ => rfl)

def CertificateBody.codecSpec : FieldSpec CertificateBody.codec :=
  (uint64Spec.pair <| uint64Spec.pair <| uint8Spec.pair <|
    (enumFieldSpec PublicKeyType.spec).pair <| seqByteFieldSpec.pair <|
    seqStructFieldSpec ExtensionEnvelope.codecSpec (by omega)).iso (fun _ => rfl) (fun _ => rfl)

def CertificateEnvelope.codecSpec : FieldSpec CertificateEnvelope.codec :=
  (seqByteFieldSpec.pair seqByteFieldSpec).iso (fun _ => rfl) (fun _ => rfl)

def CertificateChain.codecSpec : FieldSpec CertificateChain.codec :=
  (seqStructFieldSpec CertificateEnvelope.codecSpec (by omega)).iso (fun _ => rfl) (fun _ => rfl)

def ContainerFile.codecSpec : FieldSpec ContainerFile.codec :=
  ((enumFieldSpec ContainerEntryType.spec).pair seqByteFieldSpec).iso (fun _ => rfl) (fun _ => rfl)

/-! ## Values the source can hold

A byte string of the source is a `seq32_t`. -/

/-- A string whose length fits into 32 bits. -/
abbrev IsSeq32 (bytes : Bytes) : Prop := bytes.length < 2 ^ 32

def RequestHandshakeBegin.Sized (msg : RequestHandshakeBegin) : Prop :=
  IsSeq32 msg.modeEphemeral ∧ IsSeq32 msg.modeData

def ReplyHandshakeBegin.Sized (msg : ReplyHandshakeBegin) : Prop :=
  IsSeq32 msg.modeEphemeral ∧ IsSeq32 msg.modeData

def SessionData.Sized (msg : SessionData) : Prop :=
  IsSeq32 msg.userData ∧ IsSeq32 msg.authTag

def ExtensionEnvelope.Sized (extension : ExtensionEnvelope) : Prop :=
  IsSeq32 extension.extensionBody

def CertificateBody.Sized (body : CertificateBody) : Prop :=
  IsSeq32 body.publicKey ∧ ∀ extension ∈ body.extensions.1, extension.Sized

def CertificateEnvelope.Sized (envelope : CertificateEnvelope) : Prop :=
  IsSeq32 envelope.signature ∧ IsSeq32 envelope.certificateBody

def CertificateChain.Sized (chain : CertificateChain) : Prop :=
  ∀ envelope ∈ chain.certificates.1, envelope.Sized

def ContainerFile.Sized (file : ContainerFile) : Prop :=
  IsSeq32 file.payload

/-- **Codec round trip and size.**  For every value of the nine types, writing
succeeds exactly in destinations of at least `size` bytes and puts `size` bytes
there; reading them gives the value back, and reading any part of them that stops
early reports missing bytes. -/
theorem codec_round_trip :
    (∀ msg : RequestHandshakeBegin, msg.Sized →
      RoundTrip msg.size msg.write RequestHandshakeBegin.read msg) ∧
    (∀ msg : ReplyHandshakeBegin, msg.Sized →
      RoundTrip msg.size msg.write ReplyHandshakeBegin.read msg) ∧
    (∀ msg : ReplyHandshakeError, RoundTrip msg.size msg.write ReplyHandshakeError.read msg) ∧
    (∀ msg : SessionData, msg.Sized → RoundTrip msg.size msg.write SessionData.read msg) ∧
    (∀ body : CertificateBody, body.Sized →
      RoundTrip (CertificateBody.codec.size body) (CertificateBody.codec.write body)
        (readAll CertificateBody.codec) body) ∧
    (∀ envelope : CertificateEnvelope, envelope.Sized →
      RoundTrip (CertificateEnvelope.codec.size envelope) (CertificateEnvelope.codec.write envelope)
        (readAll CertificateEnvelope.codec) envelope) ∧
    (∀ chain : CertificateChain, chain.Sized →
      RoundTrip (CertificateChain.codec.size chain) (CertificateChain.codec.write chain)
        (readAll CertificateChain.codec) chain) ∧
    (∀ extension : ExtensionEnvelope, extension.Sized →
      RoundTrip (ExtensionEnvelope.codec.size extension) (ExtensionEnvelope.codec.write extension)
        (readAll ExtensionEnvelope.codec) extension) ∧
    (∀ file : ContainerFile, file.Sized →
      RoundTrip (ContainerFile.codec.size file) (ContainerFile.codec.write file)
        (readAll ContainerFile.codec) file) := by
  refine ⟨?_, ?_, ?_, ?_, ?_, ?_, ?_, ?_, ?_⟩
  · intro msg ⟨hephemeral, hdata⟩
    exact message_roundTrip RequestHandshakeBegin.fieldsSpec _
      ⟨⟨trivial, trivial⟩, ⟨trivial, trivial, trivial, trivial, trivial⟩, ⟨trivial, trivial⟩,
        trivial, hephemeral, hdata⟩
  · intro msg ⟨hephemeral, hdata⟩
    exact message_roundTrip ReplyHandshakeBegin.fieldsSpec _
      ⟨⟨trivial, trivial⟩, hephemeral, hdata⟩
  · intro msg
    exact message_roundTrip ReplyHandshakeError.fieldsSpec _ ⟨⟨trivial, trivial⟩, trivial⟩
  · intro msg ⟨huser, htag⟩
    exact message_roundTrip SessionData.fieldsSpec _ ⟨⟨trivial, trivial⟩, huser, htag⟩
  · intro body ⟨hkey, hextensions⟩
    exact struct_roundTrip CertificateBody.codecSpec
      ⟨trivial, trivial, trivial, trivial, hkey,
        fun extension hin => ⟨trivial, hextensions extension hin⟩⟩
  · intro envelope ⟨hsignature, hbody⟩
    exact struct_roundTrip CertificateEnvelope.codecSpec ⟨hsignature, hbody⟩
  · intro chain hchain
    exact struct_roundTrip CertificateChain.codecSpec hchain
  · intro extension hextension
    exact struct_roundTrip ExtensionEnvelope.codecSpec ⟨trivial, hextension⟩
  · intro file hfile
    exact struct_roundTrip ContainerFile.codecSpec ⟨trivial, hfile⟩

/-- A value of each type that has byte strings, with every sequence non-empty. -/
theorem codec_round_trip_samples :
    let request : RequestHandshakeBegin :=
      ⟨⟨0, 1⟩, ⟨.nonce, .sha256, .hkdfSha256, .strictIncrement, .hmacSha256_16⟩, ⟨32768, 3600000⟩,
        .sharedSecret, List.replicate 32 7, []⟩
    let reply : ReplyHandshakeBegin := ⟨⟨0, 1⟩, List.replicate 32 7, []⟩
    let data : SessionData := ⟨⟨1, 1000⟩, List.replicate 200 1, List.replicate 16 2⟩
    let extension : ExtensionEnvelope := ⟨1, [3]⟩
    let body : CertificateBody := ⟨0, 1, 0, .x25519, List.replicate 32 9, ⟨[extension], by decide⟩⟩
    let envelope : CertificateEnvelope := ⟨List.replicate 64 5, [1, 2, 3]⟩
    let chain : CertificateChain := ⟨⟨[envelope, envelope], by decide⟩⟩
    let file : ContainerFile := ⟨.certificateChain, [1, 2]⟩
    RoundTrip request.size request.write RequestHandshakeBegin.read request ∧
    RoundTrip reply.size reply.write ReplyHandshakeBegin.read reply ∧
    RoundTrip data.size data.write SessionData.read data ∧
    RoundTrip (CertificateBody.codec.size body) (CertificateBody.codec.write body)
      (readAll CertificateBody.codec) body ∧
    RoundTrip (CertificateEnvelope.codec.size envelope) (CertificateEnvelope.codec.write envelope)
      (readAll CertificateEnvelope.codec) envelope ∧
    RoundTrip (CertificateChain.codec.size chain) (CertificateChain.codec.write chain)
      (readAll CertificateChain.codec) chain ∧
    RoundTrip (ExtensionEnvelope.codec.size extension) (ExtensionEnvelope.codec.write extension)
      (readAll ExtensionEnvelope.codec) extension ∧
    RoundTrip (ContainerFile.codec.size file) (ContainerFile.codec.write file)
      (readAll ContainerFile.codec) file := by
  intro request reply data extension body envelope chain file
  obtain ⟨hrequest, hreply, -, hdata, hbody, henvelope, hchain, hextension, hfile⟩ :=
    codec_round_trip
  refine ⟨hrequest request (by simp [request, RequestHandshakeBegin.Sized]),
    hreply reply (by simp [reply, ReplyHandshakeBegin.Sized]),
    hdata data (by simp [data, SessionData.Sized, -List.reduceReplicate]),
    hbody body (by simp [body, extension, CertificateBody.Sized, ExtensionEnvelope.Sized]),
    henvelope envelope (by simp [envelope, CertificateEnvelope.Sized]),
    hchain chain (by simp [chain, envelope, CertificateChain.Sized, CertificateEnvelope.Sized]),
    hextension extension (by simp [extension, ExtensionEnvelope.Sized]),
    hfile file (by simp [file, ContainerFile.Sized])⟩

/-! ## Canonical decoding -/

/-- What is read can be written again, and then it is what was read: in every destination
that is large enough, for no other input, and under every digest of the bytes. -/
structure Canonical {α : Type} (write : α → Nat → Except FormatError Bytes)
    (read : Bytes → Except ParseError α) : Prop where
  write_read : ∀ bytes value, read bytes = .ok value → ∀ room,
    write value room = if bytes.length ≤ room then .ok bytes else .error .insufficientSpace
  read_inj : ∀ bytes bytes' value, read bytes = .ok value → read bytes' = .ok value →
    bytes = bytes'
  digest_eq : ∀ bytes value, read bytes = .ok value → ∀ room written,
    write value room = .ok written →
      ∀ {δ : Type} (digest : Bytes → δ), digest written = digest bytes

section

variable {α : Type}

/-- A reader that accepts only the encoding of the value it returns is canonical. -/
theorem Canonical.of_enc {write : α → Nat → Except FormatError Bytes}
    {read : Bytes → Except ParseError α} (enc : α → Bytes)
    (hread : ∀ bytes value, read bytes = .ok value → bytes = enc value ∧ ∀ room,
      write value room = if (enc value).length ≤ room then .ok (enc value)
        else .error .insufficientSpace) : Canonical write read := by
  constructor
  · intro bytes value h
    obtain ⟨rfl, hwrite⟩ := hread bytes value h
    exact hwrite
  · intro bytes bytes' value h h'
    rw [(hread bytes value h).1, (hread bytes' value h').1]
  · intro bytes value h room written hwritten δ digest
    obtain ⟨rfl, hwrite⟩ := hread bytes value h
    rw [hwrite room] at hwritten
    split_ifs at hwritten
    rw [Except.ok.inj hwritten]

theorem message_canonical {fields : Codec ParseError FormatError α} (spec : FieldSpec fields)
    (function : Function) :
    Canonical (writeMessage function fields) (readMessage function fields) := by
  apply Canonical.of_enc (encMessage function spec)
  intro bytes value h
  obtain ⟨hfits, hbytes⟩ := readMessage_sound spec h
  exact ⟨hbytes, fun room => ((enumFieldSpec Function.spec).pair spec).write_eq (function, value)
    room ⟨trivial, hfits⟩⟩

/-- `read_all` accepts an encoding with nothing behind it. -/
theorem readAll_sound {codec : Codec ParseError FormatError α} (spec : FieldSpec codec)
    {input : Bytes} {value : α} (hread : readAll codec input = .ok value) :
    spec.fits value ∧ input = spec.enc value := by
  simp only [readAll] at hread
  split at hread
  · cases hread
  · rename_i value' remainder hvalue
    obtain ⟨hfits, rfl⟩ := spec.read_sound _ _ _ hvalue
    split_ifs at hread with hempty
    cases hread
    rw [List.isEmpty_iff.mp hempty, List.append_nil]
    exact ⟨hfits, rfl⟩

theorem struct_canonical {codec : Codec ParseError FormatError α} (spec : FieldSpec codec) :
    Canonical codec.write (readAll codec) := by
  apply Canonical.of_enc spec.enc
  intro bytes value h
  obtain ⟨hfits, hbytes⟩ := readAll_sound spec h
  exact ⟨hbytes, fun room => spec.write_eq value room hfits⟩

end

/-- **Canonical decoding.**  Whatever a message type or a structure of a certificate file is
read from, writing the value gives back exactly the bytes that were read. -/
theorem canonical_decoding :
    Canonical RequestHandshakeBegin.write RequestHandshakeBegin.read ∧
    Canonical ReplyHandshakeBegin.write ReplyHandshakeBegin.read ∧
    Canonical ReplyHandshakeError.write ReplyHandshakeError.read ∧
    Canonical SessionData.write SessionData.read ∧
    Canonical CertificateBody.codec.write (readAll CertificateBody.codec) ∧
    Canonical CertificateEnvelope.codec.write (readAll CertificateEnvelope.codec) ∧
    Canonical CertificateChain.codec.write (readAll CertificateChain.codec) ∧
    Canonical ContainerFile.codec.write (readAll ContainerFile.codec) :=
  ⟨message_canonical RequestHandshakeBegin.fieldsSpec _,
    message_canonical ReplyHandshakeBegin.fieldsSpec _,
    message_canonical ReplyHandshakeError.fieldsSpec _,
    message_canonical SessionData.fieldsSpec _,
    struct_canonical CertificateBody.codecSpec,
    struct_canonical CertificateEnvelope.codecSpec,
    struct_canonical CertificateChain.codecSpec,
    struct_canonical ContainerFile.codecSpec⟩

end Ssp21
