import Ssp21.Codec.Messages

/-!
# Cryptographic backend and session modes

The library calls its primitives through a table of functions.  `CryptoBackend`
is that table; a list argument is the initializer list of the source, whose
pieces are processed one behind the other.  `Sodium` is what libsodium provides
and `Sodium.backend` the table that the sodium adapter fills in.  Its AES-GCM
decryption is given bare pointers: it reads sixteen bytes at the tag, however long
the slice is, and writes a byte for every byte of the ciphertext, however long the
destination is.

On top of the table stand the two session modes, which turn user data and
metadata into a `SessionData` message and back.
-/

namespace Ssp21

open Wire

/-- Errors of the cryptographic layer. -/
inductive CryptoError
  | badKeyType
  | badLength
  | dhX25519Fail
  | undefinedAlgorithm
  | macAuthFail
  | signatureAuthFail
  | badBufferSize
  | noValidSession
  | expiredTtl
  | nonceReplay
  | maxNonceExceeded
  | maxSessionTimeExceeded
  | emptyUserData
  | clockRollback
  | aeadEncryptFail
  | aeadDecryptFail
  deriving DecidableEq, Repr

namespace Consts

def symmetricKeyLength : Nat := 32
def nonceLength : Nat := 32
def x25519KeyLength : Nat := 32
def trunc16 : Nat := 16
def aesGcmTagLength : Nat := 16
def aesGcmNonceLength : Nat := 12

end Consts

/-- A ciphertext with its authentication tag. -/
structure AEADResult where
  ciphertext : Bytes
  authTag : Bytes
  deriving DecidableEq, Repr

/-- The table of primitives. -/
structure CryptoBackend where
  secureEquals : Bytes → Bytes → Bool
  hashSha256 : List Bytes → Bytes
  hmacSha256 : Bytes → List Bytes → Bytes
  hkdfSha256 : Bytes → List Bytes → Bytes × Bytes
  publicKeyX25519 : Bytes → Bytes
  dhX25519 : Bytes → Bytes → Except CryptoError Bytes
  verifyEd25519 : Option (Bytes → Bytes → Bytes → Bool)
  aes256GcmEncrypt : Bytes → UInt16 → Bytes → Bytes → Except CryptoError AEADResult
  aes256GcmDecrypt : Bytes → UInt16 → Bytes → Bytes → Bytes → Nat → Except CryptoError Bytes
  supportsSha256 : Bool
  supportsX25519 : Bool
  supportsAes256Gcm : Bool

/-! ## The sodium adapter -/

/-- The primitives of libsodium, with the lengths they document. -/
structure Sodium where
  sha256 : Bytes → Bytes
  hmac : Bytes → Bytes → Bytes
  scalarmultBase : Bytes → Bytes
  scalarmult : Bytes → Bytes → Option Bytes
  signVerify : Bytes → Bytes → Bytes → Bool
  gcmEncrypt : Bytes → Bytes → Bytes → Bytes → Option (Bytes × Bytes)
  gcmDecrypt : Bytes → Bytes → Bytes → Bytes → Bytes → Option Bytes
  sha256_length : ∀ data, (sha256 data).length = 32
  hmac_length : ∀ key data, (hmac key data).length = 32
  gcmEncrypt_length : ∀ key nonce ad plaintext ciphertext tag,
    gcmEncrypt key nonce ad plaintext = some (ciphertext, tag) →
      ciphertext.length = plaintext.length ∧ tag.length = Consts.aesGcmTagLength
  gcmDecrypt_length : ∀ key nonce ad ciphertext tag plaintext,
    gcmDecrypt key nonce ad ciphertext tag = some plaintext →
      plaintext.length = ciphertext.length

namespace Sodium

/-- The 96-bit nonce: zeros, and the 16-bit nonce in the last two bytes. -/
def gcmNonce (nonce : UInt16) : Bytes :=
  List.replicate (Consts.aesGcmNonceLength - 2) 0 ++ bigEndian 2 nonce.toNat

/-- The extract-and-expand construction of the adapter. -/
def hkdf (sodium : Sodium) (salt : Bytes) (inputKeyMaterial : List Bytes) : Bytes × Bytes :=
  let tempKey := sodium.hmac salt inputKeyMaterial.flatten
  let output1 := sodium.hmac tempKey [0x01]
  (output1, sodium.hmac tempKey (output1 ++ [0x02]))

/-- The table the adapter fills in.  `behind` is what memory holds behind the tag
slice that is passed to the decryption.  The clear text is returned as the front of
the destination, so that what was written behind a short destination is not in it. -/
def backend (sodium : Sodium) (behind : Bytes) : CryptoBackend where
  secureEquals lhs rhs := lhs.length == rhs.length && lhs == rhs
  hashSha256 data := sodium.sha256 data.flatten
  hmacSha256 key data := sodium.hmac key data.flatten
  hkdfSha256 := sodium.hkdf
  publicKeyX25519 := sodium.scalarmultBase
  dhX25519 privKey pubKey :=
    match sodium.scalarmult privKey pubKey with
    | none => .error .dhX25519Fail
    | some output => .ok output
  verifyEd25519 := some sodium.signVerify
  aes256GcmEncrypt key nonce ad plaintext :=
    match sodium.gcmEncrypt key (gcmNonce nonce) ad plaintext with
    | none => .error .aeadEncryptFail
    | some (ciphertext, tag) => .ok ⟨ciphertext, tag⟩
  aes256GcmDecrypt key nonce ad ciphertext authTag destLength :=
    match sodium.gcmDecrypt key (gcmNonce nonce) ad ciphertext
        ((authTag ++ behind).take Consts.aesGcmTagLength) with
    | none => .error .aeadDecryptFail
    | some cleartext => .ok (cleartext.take destLength)
  supportsSha256 := true
  supportsX25519 := true
  supportsAes256Gcm := true

/-! ### A computable instance

It makes concrete runs of the model evaluable.  A digest adds the key to the data
read backwards, a shared secret adds the two keys, and encryption leaves the text
as it is. -/

namespace Concrete

def pad (data : Bytes) : Bytes :=
  (data ++ List.replicate 32 0).take 32

def digest (key data : Bytes) : Bytes :=
  List.zipWith (fun x y => x + y) (pad key) (pad data.reverse)

theorem digest_length (key data : Bytes) : (digest key data).length = 32 := by
  simp [digest, pad]

def tag (key nonce ad text : Bytes) : Bytes :=
  (digest key (nonce ++ ad ++ text)).take Consts.aesGcmTagLength

theorem tag_length (key nonce ad text : Bytes) :
    (tag key nonce ad text).length = Consts.aesGcmTagLength := by
  simp [tag, digest_length, Consts.aesGcmTagLength]

end Concrete

def sample : Sodium where
  sha256 data := Concrete.digest [] data
  hmac := Concrete.digest
  scalarmultBase privKey := privKey
  scalarmult privKey pubKey := some (List.zipWith (fun x y => x + y) privKey pubKey)
  signVerify _ _ _ := true
  gcmEncrypt key nonce ad plaintext := some (plaintext, Concrete.tag key nonce ad plaintext)
  gcmDecrypt key nonce ad ciphertext authTag :=
    if authTag = Concrete.tag key nonce ad ciphertext then some ciphertext else none
  sha256_length := Concrete.digest_length []
  hmac_length := Concrete.digest_length
  gcmEncrypt_length := by
    intro key nonce ad plaintext ciphertext authTag hencrypt
    cases hencrypt
    exact ⟨rfl, Concrete.tag_length key nonce ad plaintext⟩
  gcmDecrypt_length := by
    intro key nonce ad ciphertext authTag plaintext hdecrypt
    split_ifs at hdecrypt
    cases hdecrypt
    rfl

end Sodium

/-- Authenticated encryption keeps the length of the text, as far as the destination goes. -/
structure CryptoBackend.KeepsLength (backend : CryptoBackend) : Prop where
  encrypt : ∀ key nonce ad plaintext result,
    backend.aes256GcmEncrypt key nonce ad plaintext = .ok result →
      result.ciphertext.length = plaintext.length
  decrypt : ∀ key nonce ad ciphertext authTag destLength plaintext,
    backend.aes256GcmDecrypt key nonce ad ciphertext authTag destLength = .ok plaintext →
      plaintext.length = min destLength ciphertext.length

theorem Sodium.backend_keepsLength (sodium : Sodium) (behind : Bytes) :
    (sodium.backend behind).KeepsLength := by
  constructor
  · intro key nonce ad plaintext result hencrypt
    simp only [backend] at hencrypt
    split at hencrypt
    · cases hencrypt
    · rename_i ciphertext tag hgcm
      cases hencrypt
      exact (sodium.gcmEncrypt_length _ _ _ _ _ _ hgcm).1
  · intro key nonce ad ciphertext authTag destLength plaintext hdecrypt
    simp only [backend] at hdecrypt
    split at hdecrypt
    · cases hdecrypt
    · rename_i cleartext hgcm
      cases hdecrypt
      rw [List.length_take, sodium.gcmDecrypt_length _ _ _ _ _ _ hgcm]

/-! ## Session modes -/

namespace SessionMode

/-- The associated data of a message: its metadata. -/
def metadataBytes (metadata : AuthMetadata) : Bytes :=
  AuthMetadata.codecSpec.enc metadata

/-- What the MAC of an authenticate-only mode covers. -/
def macInput (ad text : Bytes) : List Bytes :=
  [ad, bigEndian 2 (UInt16.ofNat text.length).toNat, text]

def aeadMacEncrypt (backend : CryptoBackend) (key : Bytes) (ad cleartext : Bytes) :
    Except CryptoError AEADResult :=
  if cleartext.length > 65535 then .error .badLength
  else .ok ⟨cleartext, (backend.hmacSha256 key (macInput ad cleartext)).take Consts.trunc16⟩

/-- `destLength` is the size of the buffer for the clear text; the length check of
the source looks at that buffer. -/
def aeadMacDecrypt (backend : CryptoBackend) (key : Bytes) (ad ciphertext authTag : Bytes)
    (destLength : Nat) : Except CryptoError Bytes :=
  if destLength > 65535 then .error .badLength
  else if backend.secureEquals
      ((backend.hmacSha256 key (macInput ad ciphertext)).take Consts.trunc16) authTag then
    .ok ciphertext
  else .error .macAuthFail

def encrypt (backend : CryptoBackend) (mode : SessionCryptoMode) (key : Bytes) (nonce : UInt16)
    (ad cleartext : Bytes) : Except CryptoError AEADResult :=
  match mode with
  | .hmacSha256_16 => aeadMacEncrypt backend key ad cleartext
  | .aes256Gcm => backend.aes256GcmEncrypt key nonce ad cleartext

def decrypt (backend : CryptoBackend) (mode : SessionCryptoMode) (key : Bytes) (nonce : UInt16)
    (ad ciphertext authTag : Bytes) (destLength : Nat) : Except CryptoError Bytes :=
  match mode with
  | .hmacSha256_16 => aeadMacDecrypt backend key ad ciphertext authTag destLength
  | .aes256Gcm => backend.aes256GcmDecrypt key nonce ad ciphertext authTag destLength

/-- How much user data goes into one message. -/
def calcUserDataTxLength (totalUserDataLen encryptBufferLen maxFramePayload : Nat) : Nat :=
  min (min (min totalUserDataLen encryptBufferLen) maxFramePayload) 65535

/-- The limit that `SessionMode::write` passes as the maximum frame payload. -/
def maxChunk : Nat := 1024

def read (backend : CryptoBackend) (mode : SessionCryptoMode) (key : Bytes) (msg : SessionData)
    (destLength : Nat) : Except CryptoError Bytes :=
  if key.length ≠ Consts.symmetricKeyLength then .error .badBufferSize
  else
    decrypt backend mode key msg.metadata.nonce (metadataBytes msg.metadata) msg.userData
      msg.authTag destLength

/-- `SessionMode::write`: the message and the user data that did not go into it. -/
def write (backend : CryptoBackend) (mode : SessionCryptoMode) (key : Bytes)
    (metadata : AuthMetadata) (userData : Bytes) (encryptBufferLen : Nat) :
    Except CryptoError (SessionData × Bytes) :=
  if key.length ≠ Consts.symmetricKeyLength then .error .badBufferSize
  else if encryptBufferLen = 0 then .error .badBufferSize
  else
    let length := calcUserDataTxLength userData.length encryptBufferLen maxChunk
    match encrypt backend mode key metadata.nonce (metadataBytes metadata)
        (userData.take length) with
    | .error e => .error e
    | .ok result =>
        .ok (⟨metadata, result.ciphertext, result.authTag⟩, userData.drop length)

/-- What a successful write says: some front part of the user data, never empty
while there is user data, was sealed under the metadata. -/
structure Writes (backend : CryptoBackend) (mode : SessionCryptoMode) (key : Bytes)
    (metadata : AuthMetadata) (userData : Bytes) (message : SessionData) (rest chunk : Bytes) :
    Prop where
  keyLength : key.length = Consts.symmetricKeyLength
  metadata_eq : message.metadata = metadata
  encrypted : encrypt backend mode key metadata.nonce (metadataBytes metadata) chunk =
    .ok ⟨message.userData, message.authTag⟩
  split : userData = chunk ++ rest
  bounded : chunk.length ≤ maxChunk
  progress : userData ≠ [] → chunk ≠ []

theorem write_ok {backend : CryptoBackend} {mode : SessionCryptoMode} {key : Bytes}
    {metadata : AuthMetadata} {userData rest : Bytes} {bufferLen : Nat} {message : SessionData}
    (hwrite : write backend mode key metadata userData bufferLen = .ok (message, rest)) :
    Writes backend mode key metadata userData message rest
      (userData.take (userData.length - rest.length)) := by
  simp only [write] at hwrite
  split_ifs at hwrite with hkey hbuffer
  split at hwrite
  · cases hwrite
  · rename_i result hencrypt
    cases hwrite
    have hlen : userData.length - (userData.drop
        (calcUserDataTxLength userData.length bufferLen maxChunk)).length =
        calcUserDataTxLength userData.length bufferLen maxChunk := by
      rw [List.length_drop, calcUserDataTxLength]
      omega
    rw [hlen]
    refine ⟨by simpa using hkey, rfl, hencrypt, by simp, ?_, ?_⟩
    · rw [List.length_take, calcUserDataTxLength]
      omega
    · intro hne hnil
      have hpos : 0 < userData.length := List.length_pos_iff.mpr hne
      have hzero := congrArg List.length hnil
      rw [List.length_take, calcUserDataTxLength, maxChunk, List.length_nil] at hzero
      omega

/-- In both modes a ciphertext is as long as what was sealed. -/
theorem encrypt_length {backend : CryptoBackend} (hkeeps : backend.KeepsLength)
    {mode : SessionCryptoMode} {key : Bytes} {nonce : UInt16} {ad cleartext : Bytes}
    {result : AEADResult} (hencrypt : encrypt backend mode key nonce ad cleartext = .ok result) :
    result.ciphertext.length = cleartext.length := by
  cases mode with
  | hmacSha256_16 =>
      simp only [encrypt, aeadMacEncrypt] at hencrypt
      split_ifs at hencrypt
      cases hencrypt
      rfl
  | aes256Gcm => exact hkeeps.encrypt _ _ _ _ _ hencrypt

/-- Nothing can be decrypted into an empty buffer. -/
def Blind (mode : SessionCryptoMode) (destLength : Nat) : Prop :=
  mode = .aes256Gcm ∧ destLength = 0

/-- What is read is empty if the message is, or if there is no buffer. -/
theorem read_eq_nil_iff {backend : CryptoBackend} (hkeeps : backend.KeepsLength)
    {mode : SessionCryptoMode} {key : Bytes} {msg : SessionData} {destLength : Nat}
    {payload : Bytes} (hread : read backend mode key msg destLength = .ok payload) :
    payload = [] ↔ msg.userData = [] ∨ Blind mode destLength := by
  simp only [read] at hread
  split_ifs at hread
  cases mode with
  | hmacSha256_16 =>
      simp only [decrypt, aeadMacDecrypt] at hread
      split_ifs at hread
      cases hread
      simp [Blind]
  | aes256Gcm =>
      have hlength := hkeeps.decrypt _ _ _ _ _ _ _ hread
      simp only [← List.length_eq_zero_iff, hlength, Blind, true_and]
      omega

end SessionMode

/-- Every tag that the adapter produces has sixteen bytes. -/
theorem Sodium.encrypt_tag_length (sodium : Sodium) (behind : Bytes) {mode : SessionCryptoMode}
    {key : Bytes} {nonce : UInt16} {ad cleartext : Bytes} {result : AEADResult}
    (hencrypt : SessionMode.encrypt (sodium.backend behind) mode key nonce ad cleartext =
      .ok result) : result.authTag.length = 16 := by
  cases mode with
  | hmacSha256_16 =>
      simp only [SessionMode.encrypt, SessionMode.aeadMacEncrypt] at hencrypt
      split_ifs at hencrypt
      cases hencrypt
      simp [backend, sodium.hmac_length, Consts.trunc16]
  | aes256Gcm =>
      simp only [SessionMode.encrypt, backend] at hencrypt
      split at hencrypt
      · cases hencrypt
      · rename_i ciphertext tag hgcm
        cases hencrypt
        exact (sodium.gcmEncrypt_length _ _ _ _ _ _ hgcm).2

end Ssp21
