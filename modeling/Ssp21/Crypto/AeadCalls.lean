import Ssp21.Crypto.Session

/-!
# Calls of the AES-GCM primitive

libsodium's detached decryption is given bare pointers: it reads sixteen bytes at the tag and
writes as many bytes to the destination as the ciphertext has.  Whether that stays in bounds
depends on three lengths that have nothing to do with each other: those of the two byte
strings on the wire, and that of the payload buffer, which is configured.

`SessionMode.readCalls` lists the calls of the primitive that `SessionMode::read` makes;
`read_of_calls` says that it makes these and no others.  `gcm_calls_inBounds_iff` says when
they stay in bounds.
-/

namespace Ssp21

open Wire

/-! ## Configuration -/

/-- Why a number in a configuration file is refused. -/
inductive YamlException
  | lessThanMinimum (minimum : Int)
  | greaterThanMaximum (maximum : Int)
  deriving DecidableEq, Repr

/-- `extract_integer` for an unsigned type with numbers below `bound`. -/
def extractInteger (bound : Nat) (value : Int) : Except YamlException Nat :=
  if value < 0 then .error (.lessThanMinimum 0)
  else if value > bound - 1 then .error (.greaterThanMaximum (bound - 1))
  else .ok value.toNat

/-- `optional_integer`; there may be no such key. -/
def optionalInteger (bound : Nat) (child : Option Int) (defaultValue : Nat) :
    Except YamlException Nat :=
  match child with
  | none => .ok defaultValue
  | some value => extractInteger bound value

structure CryptoLayerConfig where
  maxPayloadSize : UInt16
  deriving DecidableEq, Repr

/-- `get_crypto_layer_config`, from the number under `max_payload_size`. -/
def getCryptoLayerConfig (child : Option Int) : Except YamlException CryptoLayerConfig :=
  (optionalInteger (2 ^ 16) child Link.maxConfigPayloadSize).map fun size => ⟨UInt16.ofNat size⟩

/-- The reader accepts every size that the field can hold. -/
theorem getCryptoLayerConfig_of_size (config : CryptoLayerConfig) :
    getCryptoLayerConfig (some config.maxPayloadSize.toNat) = .ok config := by
  have hlt := config.maxPayloadSize.toNat_lt
  have hread : extractInteger (2 ^ 16) config.maxPayloadSize.toNat =
      .ok config.maxPayloadSize.toNat := by
    rw [extractInteger, if_neg (by omega), if_neg (by omega), Int.toNat_natCast]
  rw [getCryptoLayerConfig, optionalInteger, hread]
  simp [Except.map]

/-! ## Calls -/

/-- The arguments of a call of the decryption primitive.  Of the destination only the length
matters. -/
structure GcmDecryptCall where
  key : Bytes
  nonce : UInt16
  ad : Bytes
  ciphertext : Bytes
  authTag : Bytes
  cleartextLength : Nat
  deriving DecidableEq, Repr

/-- The primitive reads and writes inside the slices it is given. -/
def GcmDecryptCall.InBounds (call : GcmDecryptCall) : Prop :=
  call.authTag.length = Consts.aesGcmTagLength ∧ call.ciphertext.length ≤ call.cleartextLength

instance (call : GcmDecryptCall) : Decidable call.InBounds :=
  inferInstanceAs (Decidable (_ ∧ _))

namespace SessionMode

/-- The calls of the primitive in a mode's decryption. -/
def decryptCalls (mode : SessionCryptoMode) (key : Bytes) (nonce : UInt16)
    (ad ciphertext authTag : Bytes) (destLength : Nat) : List GcmDecryptCall :=
  match mode with
  | .hmacSha256_16 => []
  | .aes256Gcm => [⟨key, nonce, ad, ciphertext, authTag, destLength⟩]

/-- The calls of the primitive in `SessionMode::read`. -/
def readCalls (mode : SessionCryptoMode) (key : Bytes) (msg : SessionData) (destLength : Nat) :
    List GcmDecryptCall :=
  if key.length ≠ Consts.symmetricKeyLength then []
  else
    decryptCalls mode key msg.metadata.nonce (metadataBytes msg.metadata) msg.userData msg.authTag
      destLength

/-- The primitive, whatever it does, is asked exactly what the calls say, and its answer is the
result; without a call it plays no part. -/
theorem read_of_calls (backend : CryptoBackend)
    (decrypt : Bytes → UInt16 → Bytes → Bytes → Bytes → Nat → Except CryptoError Bytes)
    (mode : SessionCryptoMode) (key : Bytes) (msg : SessionData) (destLength : Nat) :
    read { backend with aes256GcmDecrypt := decrypt } mode key msg destLength =
      match readCalls mode key msg destLength with
      | [] => read backend mode key msg destLength
      | call :: _ => decrypt call.key call.nonce call.ad call.ciphertext call.authTag
          call.cleartextLength := by
  rw [read, readCalls]
  split_ifs with hkey
  · rw [read, if_pos hkey]
  · cases mode with
    | hmacSha256_16 =>
        rw [read, if_neg hkey]
        rfl
    | aes256Gcm => rfl

end SessionMode

/-! ## Bounds -/

/-- A message has at least nine bytes beside its user data. -/
theorem SessionData.userData_length_le {raw : Bytes} {msg : SessionData}
    (hread : SessionData.read raw = .ok msg) : msg.userData.length + 9 ≤ raw.length := by
  obtain ⟨hfits, rfl⟩ := SessionData.read_wire hread
  rw [SessionData.wire_length hfits]
  simp only [VLength.size]
  omega

/-- What the link layer hands up fits into the payload buffer of the default size. -/
theorem link_payload_fits {config : CryptoLayerConfig}
    (hconfig : getCryptoLayerConfig none = .ok config) {raw : Bytes} {msg : SessionData}
    (hread : SessionData.read raw = .ok msg) (hraw : raw.length ≤ Link.maxConfigPayloadSize) :
    msg.userData.length ≤ config.maxPayloadSize.toNat := by
  have hsize : config.maxPayloadSize.toNat = Link.maxConfigPayloadSize := by
    cases hconfig
    rfl
  have hlength := SessionData.userData_length_le hread
  omega

/-- **Bounds of the decryption calls.**  For every size that the configuration reader accepts,
every message that is read, every session mode and every key: the primitive is called within
bounds exactly if it is not called at all, or if the tag of the message has sixteen bytes and
its user data fits into the payload buffer. -/
theorem gcm_calls_inBounds_iff :
    ∀ child config, getCryptoLayerConfig child = .ok config →
    ∀ raw msg, SessionData.read raw = .ok msg →
    ∀ (mode : SessionCryptoMode) (key : Bytes),
      (∀ call ∈ SessionMode.readCalls mode key msg config.maxPayloadSize.toNat, call.InBounds) ↔
        (mode = .hmacSha256_16 ∨ key.length ≠ Consts.symmetricKeyLength ∨
          msg.authTag.length = Consts.aesGcmTagLength ∧
            msg.userData.length ≤ config.maxPayloadSize.toNat) := by
  intro child config _ raw msg _ mode key
  rw [SessionMode.readCalls]
  split_ifs with hkey
  · simp [hkey]
  · cases mode with
    | hmacSha256_16 => simp [SessionMode.decryptCalls]
    | aes256Gcm =>
        simp only [SessionMode.decryptCalls, List.mem_singleton, forall_eq, reduceCtorEq,
          false_or, hkey]
        rfl

namespace AeadCalls

def key : Bytes := List.replicate 32 7

def message (userData authTag : Bytes) : SessionData := ⟨⟨1, 1000⟩, userData, authTag⟩

/-- A message with a whole tag, and the default size of the buffer. -/
theorem gcm_call_inBounds :
    SessionMode.readCalls .aes256Gcm key (message [0xAB] (List.replicate 16 0)) 4092 ≠ [] ∧
    ∀ call ∈ SessionMode.readCalls .aes256Gcm key (message [0xAB] (List.replicate 16 0)) 4092,
      call.InBounds :=
  ⟨by decide,
    (gcm_calls_inBounds_iff none ⟨4092⟩ rfl (message [0xAB] (List.replicate 16 0)).wire
      (message [0xAB] (List.replicate 16 0)) (by rfl) .aes256Gcm key).mpr
      (.inr (.inr (by decide)))⟩

/-- Two messages that are read and that make the primitive leave its slices: one has no tag at
all, the other more user data than the buffer is configured to hold. -/
theorem gcm_calls_out_of_bounds :
    (getCryptoLayerConfig none = .ok ⟨4092⟩ ∧
      SessionData.read (message [0xAB] []).wire = .ok (message [0xAB] []) ∧
      ∃ call ∈ SessionMode.readCalls .aes256Gcm key (message [0xAB] []) 4092,
        call.authTag.length = 0) ∧
    (getCryptoLayerConfig (some 1) = .ok ⟨1⟩ ∧
      SessionData.read (message [0xAB, 0xCD] (List.replicate 16 0)).wire =
        .ok (message [0xAB, 0xCD] (List.replicate 16 0)) ∧
      ∃ call ∈ SessionMode.readCalls .aes256Gcm key
          (message [0xAB, 0xCD] (List.replicate 16 0)) 1,
        call.ciphertext.length = 2 ∧ call.cleartextLength = 1) := by
  refine ⟨⟨rfl, by rfl, ?_⟩, rfl, by rfl, ?_⟩ <;> decide

end AeadCalls

end Ssp21
