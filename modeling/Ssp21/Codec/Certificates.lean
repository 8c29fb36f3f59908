import Ssp21.Codec.Messages

/-!
# Certificates and their chains

The structures that a certificate file holds, and `Chain::verify`.  A chain is
walked from the trust anchor: each certificate is checked with the key of its
parent and becomes the parent of the next one.

`Chain.verify_endpoint` says which certificate a successful walk ends with.
-/

namespace Ssp21

open Wire

inductive PublicKeyType
  | ed25519
  | x25519
  deriving DecidableEq, Repr

def PublicKeyType.spec : Codec.EnumSpec PublicKeyType where
  toType
    | .ed25519 => 0x0
    | .x25519 => 0x1
  fromType
    | 0x0 => some .ed25519
    | 0x1 => some .x25519
    | _ => Option.none
  fromType_toType value := by cases value <;> rfl
  toType_fromType byte value h := by split at h <;> cases h <;> rfl

inductive ContainerEntryType
  | sharedSecret
  | certificateChain
  | x25519PublicKey
  | x25519PrivateKey
  | ed25519PublicKey
  | ed25519PrivateKey
  deriving DecidableEq, Repr

def ContainerEntryType.spec : Codec.EnumSpec ContainerEntryType where
  toType
    | .sharedSecret => 0x0
    | .certificateChain => 0x1
    | .x25519PublicKey => 0x2
    | .x25519PrivateKey => 0x3
    | .ed25519PublicKey => 0x4
    | .ed25519PrivateKey => 0x5
  fromType
    | 0x0 => some .sharedSecret
    | 0x1 => some .certificateChain
    | 0x2 => some .x25519PublicKey
    | 0x3 => some .x25519PrivateKey
    | 0x4 => some .ed25519PublicKey
    | 0x5 => some .ed25519PrivateKey
    | _ => Option.none
  fromType_toType value := by cases value <;> rfl
  toType_fromType byte value h := by split at h <;> cases h <;> rfl

/-- `IntegerField<UInt8>`. -/
def uint8 : Codec ParseError FormatError UInt8 :=
  Codec.fixed .insufficientBytes .insufficientSpace 1 UInt8.toNat UInt8.ofNat

/-- `IntegerField<UInt64>`. -/
def uint64 : Codec ParseError FormatError UInt64 :=
  Codec.fixed .insufficientBytes .insufficientSpace 8 UInt64.toNat UInt64.ofNat

/-- `SeqStructField<Item, capacity>`. -/
def seqStructField {α : Type} (item : Codec ParseError FormatError α) (capacity : Nat) :
    Codec ParseError FormatError (Codec.Bounded α capacity) :=
  Codec.counted .implCapacityLimit VLength.counter VLength.codec item capacity

structure ExtensionEnvelope where
  identifier : UInt32
  extensionBody : Bytes
  deriving DecidableEq, Repr

structure CertificateBody where
  validAfter : UInt64
  validBefore : UInt64
  signingLevel : UInt8
  publicKeyType : PublicKeyType
  publicKey : Bytes
  extensions : Codec.Bounded ExtensionEnvelope 5
  deriving DecidableEq, Repr

structure CertificateEnvelope where
  signature : Bytes
  certificateBody : Bytes
  deriving DecidableEq, Repr

structure CertificateChain where
  certificates : Codec.Bounded CertificateEnvelope 6
  deriving DecidableEq, Repr

/-- What a file holds: a key, a secret or a chain, as bytes behind its type. -/
structure ContainerFile where
  containerEntryType : ContainerEntryType
  payload : Bytes
  deriving DecidableEq, Repr

def ExtensionEnvelope.codec : Codec ParseError FormatError ExtensionEnvelope :=
  (uint32.pair seqByteField).iso (fun p => ⟨p.1, p.2⟩) (fun v => (v.identifier, v.extensionBody))

def CertificateBody.codec : Codec ParseError FormatError CertificateBody :=
  (uint64.pair <| uint64.pair <| uint8.pair <| (enumField PublicKeyType.spec).pair <|
    seqByteField.pair <| seqStructField ExtensionEnvelope.codec 5).iso
    (fun p => ⟨p.1, p.2.1, p.2.2.1, p.2.2.2.1, p.2.2.2.2.1, p.2.2.2.2.2⟩)
    (fun v => (v.validAfter, v.validBefore, v.signingLevel, v.publicKeyType, v.publicKey,
      v.extensions))

def CertificateEnvelope.codec : Codec ParseError FormatError CertificateEnvelope :=
  (seqByteField.pair seqByteField).iso
    (fun p => ⟨p.1, p.2⟩) (fun v => (v.signature, v.certificateBody))

def CertificateChain.codec : Codec ParseError FormatError CertificateChain :=
  (seqStructField CertificateEnvelope.codec 6).iso
    (fun certificates => ⟨certificates⟩) CertificateChain.certificates

def ContainerFile.codec : Codec ParseError FormatError ContainerFile :=
  ((enumField ContainerEntryType.spec).pair seqByteField).iso
    (fun p => ⟨p.1, p.2⟩) (fun v => (v.containerEntryType, v.payload))

/-- `read_all`: a structure and nothing behind it. -/
def readAll {α : Type} (codec : Codec ParseError FormatError α) (input : Bytes) :
    Except ParseError α :=
  match codec.read input with
  | .error e => .error e
  | .ok (value, remainder) => if remainder.isEmpty then .ok value else .error .tooManyBytes

namespace Chain

def ed25519SignatureLength : Nat := 64

/-- A signature check: message, signature and public key. -/
abbrev VerifyDsa := Bytes → Bytes → Bytes → Bool

/-- `try_get_dsa_info`; `none` is the null function of the source. -/
def tryGetDsaInfo (verifyEd25519 : Option VerifyDsa) : PublicKeyType → Option (VerifyDsa × Nat)
  | .ed25519 => verifyEd25519.map (fun verify => (verify, ed25519SignatureLength))
  | .x25519 => none

def isDhKey : PublicKeyType → Bool
  | .x25519 => true
  | .ed25519 => false

def verifyPair (verifyEd25519 : Option VerifyDsa) (parent : CertificateBody)
    (childEnvelope : CertificateEnvelope) : Except HandshakeError CertificateBody :=
  match tryGetDsaInfo verifyEd25519 parent.publicKeyType with
  | none => .error .badCertificateChain
  | some (verify, signatureLength) =>
      if signatureLength ≠ childEnvelope.signature.length then .error .badCertificateChain
      else if !verify childEnvelope.certificateBody childEnvelope.signature parent.publicKey then
        .error .authenticationError
      else
        match readAll CertificateBody.codec childEnvelope.certificateBody with
        | .error _ => .error .badCertificateFormat
        | .ok child =>
            if child.validAfter < parent.validAfter then .error .badCertificateChain
            else if child.validBefore > parent.validBefore then .error .badCertificateChain
            else if child.signingLevel ≥ parent.signingLevel then .error .badCertificateChain
            else .ok child

/-- The loop of `verify`, from a parent over the certificates that are left. -/
def verifyFrom (verifyEd25519 : Option VerifyDsa) :
    CertificateBody → List CertificateEnvelope → Except HandshakeError CertificateBody
  | parent, [] => .ok parent
  | parent, envelope :: envelopes =>
      match verifyPair verifyEd25519 parent envelope with
      | .error e => .error e
      | .ok child => verifyFrom verifyEd25519 child envelopes

def verify (verifyEd25519 : Option VerifyDsa) (anchor : CertificateBody)
    (certificates : List CertificateEnvelope) : Except HandshakeError CertificateBody :=
  if certificates.length = 0 then .error .badCertificateChain
  else
    match verifyFrom verifyEd25519 anchor certificates with
    | .error e => .error e
    | .ok parent =>
        if parent.signingLevel ≠ 0 then .error .badCertificateChain
        else if !isDhKey parent.publicKeyType then .error .badCertificateChain
        else .ok parent

variable {verifyEd25519 : Option VerifyDsa}

/-- A child that passes is the one its envelope holds. -/
theorem verifyPair_body {parent child : CertificateBody} {envelope : CertificateEnvelope}
    (hpair : verifyPair verifyEd25519 parent envelope = .ok child) :
    readAll CertificateBody.codec envelope.certificateBody = .ok child := by
  simp only [verifyPair] at hpair
  split at hpair
  · cases hpair
  · split_ifs at hpair
    split at hpair
    · cases hpair
    · rename_i body hbody
      split_ifs at hpair
      cases hpair
      exact hbody

/-- The walk ends with the parent it started from or with the last certificate. -/
theorem verifyFrom_last {parent result : CertificateBody} {envelopes : List CertificateEnvelope}
    (hwalk : verifyFrom verifyEd25519 parent envelopes = .ok result)
    {last : CertificateEnvelope} (hlast : envelopes.getLast? = some last) :
    readAll CertificateBody.codec last.certificateBody = .ok result := by
  induction envelopes generalizing parent with
  | nil => cases hlast
  | cons envelope envelopes ih =>
      simp only [verifyFrom] at hwalk
      split at hwalk
      · cases hwalk
      · rename_i child hchild
        cases envelopes with
        | nil =>
            cases hlast
            cases hwalk
            exact verifyPair_body hchild
        | cons next envelopes =>
            rw [List.getLast?_cons_cons] at hlast
            exact ih hwalk hlast

/-- Whatever the anchor, a verified chain yields the body of its last certificate. -/
theorem verify_endpoint {anchor result : CertificateBody}
    {certificates : List CertificateEnvelope}
    (hverify : verify verifyEd25519 anchor certificates = .ok result)
    {last : CertificateEnvelope} (hlast : certificates.getLast? = some last) :
    readAll CertificateBody.codec last.certificateBody = .ok result := by
  simp only [verify] at hverify
  split_ifs at hverify
  split at hverify
  · cases hverify
  · rename_i parent hwalk
    split_ifs at hverify
    cases hverify
    exact verifyFrom_last hwalk hlast

end Chain

end Ssp21
