import Ssp21.Codec.Certificates
import Ssp21.Crypto.Session

/-!
# Handshakes

The two sides of a handshake, in the modes shared secret, quantum key distribution
and public keys (preshared, or certified by a chain).

* The initiator draws fresh values (`initializeNewHandshake`), remembers the
  request that went out (`finalizeRequestTx`) and derives a session from the reply
  (`initializeSession`).
* The responder does all of it when a request arrives (`process`).

In every mode the keys come from one call of the key derivation, whose salt is the
hash of both messages.  The modes differ in the input key material.
-/

namespace Ssp21

open Wire

structure CryptoSuite where
  handshakeHash : HandshakeHash
  handshakeKdf : HandshakeKDF
  sessionNonceMode : SessionNonceMode
  sessionCryptoMode : SessionCryptoMode
  deriving DecidableEq, Repr

structure DHCryptoSuite where
  base : CryptoSuite
  handshakeEphemeral : HandshakeEphemeral
  deriving DecidableEq, Repr

/-! ## Algorithms -/

namespace Algorithms

/-- `Algorithms::Handshake`. -/
structure Handshake where
  kdf : HandshakeKDF
  hash : HandshakeHash
  deriving DecidableEq, Repr

/-- `Algorithms::Common`. -/
structure Common where
  session : SessionAlgorithms
  handshake : Handshake
  deriving DecidableEq, Repr

def configureSession (backend : CryptoBackend) (nonceMode : SessionNonceMode)
    (sessionMode : SessionCryptoMode) : Except HandshakeError SessionAlgorithms :=
  match sessionMode with
  | .hmacSha256_16 =>
      if !backend.supportsSha256 then .error .unsupportedSessionMode
      else .ok ⟨nonceMode, sessionMode⟩
  | .aes256Gcm =>
      if !backend.supportsAes256Gcm then .error .unsupportedSessionMode
      else .ok ⟨nonceMode, sessionMode⟩

def configureHandshake (backend : CryptoBackend) (kdf : HandshakeKDF) (hash : HandshakeHash) :
    Except HandshakeError Handshake :=
  match hash with
  | .sha256 =>
      if !backend.supportsSha256 then .error .unsupportedHandshakeHash
      else
        match kdf with
        | .hkdfSha256 =>
            if !backend.supportsSha256 then .error .unsupportedHandshakeKdf else .ok ⟨kdf, hash⟩

/-- `Algorithms::Common::configure`. -/
def configure (backend : CryptoBackend) (hash : HandshakeHash) (kdf : HandshakeKDF)
    (nonceMode : SessionNonceMode) (cryptoMode : SessionCryptoMode) :
    Except HandshakeError Common :=
  match configureHandshake backend kdf hash with
  | .error e => .error e
  | .ok handshake =>
      match configureSession backend nonceMode cryptoMode with
      | .error e => .error e
      | .ok session => .ok ⟨session, handshake⟩

def configureSpec (backend : CryptoBackend) (spec : CryptoSpec) : Except HandshakeError Common :=
  configure backend spec.handshakeHash spec.handshakeKdf spec.sessionNonceMode
    spec.sessionCryptoMode

/-- `Algorithms::DH::configure`. -/
def configureDh (backend : CryptoBackend) : HandshakeEphemeral → Except HandshakeError Unit
  | .x25519 =>
      if !backend.supportsX25519 then .error .unsupportedHandshakeEphemeral else .ok ()
  | .nonce => .error .unsupportedHandshakeEphemeral
  | .none => .error .unsupportedHandshakeEphemeral

/-- The algorithms a suite names.  An initiator is constructed only with a suite
that can be configured (`get_or_throw`). -/
def ofSuite (suite : CryptoSuite) : Common :=
  ⟨⟨suite.sessionNonceMode, suite.sessionCryptoMode⟩, ⟨suite.handshakeKdf, suite.handshakeHash⟩⟩

def getOrThrow (backend : CryptoBackend) (suite : CryptoSuite) : Except HandshakeError Common :=
  configure backend suite.handshakeHash suite.handshakeKdf suite.sessionNonceMode
    suite.sessionCryptoMode

/-- Configuration only ever chooses what was asked for. -/
theorem configure_ok {backend : CryptoBackend} {suite : CryptoSuite} {algorithms : Common}
    (hconfigure : getOrThrow backend suite = .ok algorithms) : algorithms = ofSuite suite := by
  simp only [getOrThrow, configure] at hconfigure
  split at hconfigure
  · cases hconfigure
  · rename_i handshake hhandshake
    split at hconfigure
    · cases hconfigure
    · rename_i session hsession
      cases hconfigure
      have hfst : handshake = ⟨suite.handshakeKdf, suite.handshakeHash⟩ := by
        simp only [configureHandshake] at hhandshake
        split_ifs at hhandshake
        cases hhandshake
        rfl
      have hsnd : session = ⟨suite.sessionNonceMode, suite.sessionCryptoMode⟩ := by
        simp only [configureSession] at hsession
        split at hsession
        all_goals
          split_ifs at hsession
          cases hsession
          rfl
      rw [hfst, hsnd]
      rfl

/-- The algorithms of a request that can be configured are the ones it names. -/
theorem configureSpec_ok {backend : CryptoBackend} {spec : CryptoSpec} {algorithms : Common}
    (hconfigured : configureSpec backend spec = .ok algorithms) :
    algorithms = ⟨⟨spec.sessionNonceMode, spec.sessionCryptoMode⟩,
      ⟨spec.handshakeKdf, spec.handshakeHash⟩⟩ :=
  @configure_ok backend
    ⟨spec.handshakeHash, spec.handshakeKdf, spec.sessionNonceMode, spec.sessionCryptoMode⟩ _
    hconfigured

def Handshake.hashWith (backend : CryptoBackend) (algorithms : Handshake) :
    List Bytes → Bytes :=
  match algorithms.hash with
  | .sha256 => backend.hashSha256

def Handshake.kdfWith (backend : CryptoBackend) (algorithms : Handshake) :
    Bytes → List Bytes → Bytes × Bytes :=
  match algorithms.kdf with
  | .hkdfSha256 => backend.hkdfSha256

theorem Handshake.hashWith_eq (backend : CryptoBackend) (algorithms : Handshake) :
    algorithms.hashWith backend = backend.hashSha256 := by
  obtain ⟨kdf, hash⟩ := algorithms
  cases hash
  rfl

theorem Handshake.kdfWith_eq (backend : CryptoBackend) (algorithms : Handshake) :
    algorithms.kdfWith backend = backend.hkdfSha256 := by
  obtain ⟨kdf, hash⟩ := algorithms
  cases kdf
  rfl

end Algorithms

/-- `HandshakeHasher::compute`. -/
def handshakeHash (hash : List Bytes → Bytes) (first second : Bytes) : Bytes :=
  hash [hash [first], second]

/-! ## Keys and certificates -/

structure KeyPair where
  publicKey : Bytes
  privateKey : Bytes
  deriving DecidableEq, Repr

/-- `StaticKeys`. -/
abbrev StaticKeys := KeyPair

/-- What `gen_random` fills into a nonce buffer or a private key. -/
abbrev Random := { bytes : Bytes // bytes.length = Consts.nonceLength }

/-- `gen_keypair_x25519`. -/
def genKeypairX25519 (backend : CryptoBackend) (random : Random) : KeyPair :=
  ⟨backend.publicKeyX25519 random.1, random.1⟩

/-- `KeyRecord`; the key is null when the source was given one of a wrong length. -/
structure KeyRecord where
  id : UInt64
  key : Option Bytes
  deriving DecidableEq, Repr

/-- The results of `TripleDH::compute`. -/
structure TripleDH where
  dh1 : Bytes
  dh2 : Bytes
  dh3 : Bytes
  deriving DecidableEq, Repr

def TripleDH.compute (dh : Bytes → Bytes → Except CryptoError Bytes) (staticKeys : StaticKeys)
    (ephemeralKeys : KeyPair) (remotePublicStatic remotePublicEphemeral : Bytes) :
    Except CryptoError TripleDH :=
  match dh ephemeralKeys.privateKey remotePublicEphemeral with
  | .error e => .error e
  | .ok dh1 =>
      match dh ephemeralKeys.privateKey remotePublicStatic with
      | .error e => .error e
      | .ok dh2 =>
          match dh staticKeys.privateKey remotePublicEphemeral with
          | .error e => .error e
          | .ok dh3 => .ok ⟨dh1, dh2, dh3⟩

/-- The implementations of `ICertificateHandler`.  A handler for certificates holds
the body of its anchor and the chain that it presents. -/
inductive CertificateHandler
  | presharedKey (remoteStaticPublicKey : Bytes)
  | industrial (anchorCertificateBody : CertificateBody) (presentedCertificateData : Bytes)
  deriving DecidableEq, Repr

namespace CertificateHandler

def certificateData : CertificateHandler → Bytes
  | presharedKey _ => []
  | industrial _ presentedCertificateData => presentedCertificateData

def mode : CertificateHandler → HandshakeMode
  | presharedKey _ => .publicKeys
  | industrial _ _ => .industrialCertificates

/-- Validate the data of the other party and extract its public key. -/
def validate (backend : CryptoBackend) (handler : CertificateHandler) (mode : HandshakeMode)
    (certificateData : Bytes) : Except HandshakeError Bytes :=
  match handler with
  | presharedKey remoteStaticPublicKey =>
      if mode ≠ .publicKeys then .error .unsupportedHandshakeMode
      else if certificateData ≠ [] then .error .badMessageFormat
      else .ok remoteStaticPublicKey
  | industrial anchor _ =>
      if mode ≠ .industrialCertificates then .error .unsupportedHandshakeMode
      else
        match readAll CertificateChain.codec certificateData with
        | .error _ => .error .badCertificateFormat
        | .ok chain =>
            match Chain.verify backend.verifyEd25519 anchor chain.certificates.1 with
            | .error e => .error e
            | .ok endpoint => .ok endpoint.publicKey

end CertificateHandler

/-- `version::get`. -/
def Version.get : Version := ⟨0, 1⟩

structure SessionLimits where
  maxNonceValue : UInt16
  maxSessionTimeMs : UInt32
  deriving DecidableEq, Repr

/-! ## The initiator's side -/

/-- The implementations of `IInitiatorHandshake`, with their configuration. -/
inductive InitiatorMode
  | sharedSecret (suite : CryptoSuite) (key : Bytes)
  | qkd (suite : CryptoSuite)
  | publicKey (suite : DHCryptoSuite) (staticKeys : StaticKeys) (certHandler : CertificateHandler)
  deriving DecidableEq, Repr

namespace InitiatorMode

def handshakeMode : InitiatorMode → HandshakeMode
  | sharedSecret _ _ => .sharedSecret
  | qkd _ => .quantumKeyDistribution
  | publicKey _ _ certHandler => certHandler.mode

def cryptoSuite : InitiatorMode → DHCryptoSuite
  | sharedSecret suite _ => ⟨suite, .nonce⟩
  | qkd suite => ⟨suite, .none⟩
  | publicKey suite _ _ => suite

def algorithms (mode : InitiatorMode) : Algorithms.Common :=
  Algorithms.ofSuite mode.cryptoSuite.base

end InitiatorMode

/-- The members of a handshake object that change.  The three classes have the last
two in common. -/
structure InitiatorHandshake where
  nonceBuffer : Bytes
  key : Option Bytes
  keyIdBuffer : Bytes
  localEphemeralKeys : KeyPair
  timeRequestTx : Time
  handshakeHash : Bytes
  deriving DecidableEq, Repr

namespace InitiatorHandshake

def create : InitiatorHandshake :=
  ⟨List.replicate Consts.nonceLength 0, none, List.replicate 8 0, ⟨[], []⟩, 0, []⟩

/-- A successful `InitResult`. -/
structure InitResult where
  modeEphemeral : Bytes
  modeData : Bytes
  deriving DecidableEq, Repr

/-- `initialize_new_handshake`: draw what this handshake uses.  `keyRecord` is what
the key source hands out when it is asked. -/
def initializeNewHandshake (backend : CryptoBackend) (mode : InitiatorMode)
    (handshake : InitiatorHandshake) (random : Random) (keyRecord : Option KeyRecord) :
    Option InitResult × InitiatorHandshake :=
  match mode with
  | .sharedSecret _ _ =>
      (some ⟨random.1, []⟩, { handshake with nonceBuffer := random.1 })
  | .qkd _ =>
      match keyRecord with
      | none => (none, { handshake with key := none })
      | some record =>
          match record.key with
          | none => (none, { handshake with key := none })
          | some key =>
              let keyId := bigEndian 8 record.id.toNat
              (some ⟨[], keyId⟩, { handshake with key := some key, keyIdBuffer := keyId })
  | .publicKey _ _ certHandler =>
      let keys := genKeypairX25519 backend random
      (some ⟨keys.publicKey, certHandler.certificateData⟩,
        { handshake with localEphemeralKeys := keys })

/-- The request that the initiator sends for the drawn values. -/
def request (mode : InitiatorMode) (limits : SessionLimits) (init : InitResult) :
    RequestHandshakeBegin where
  version := Version.get
  spec :=
    { handshakeEphemeral := mode.cryptoSuite.handshakeEphemeral
      handshakeHash := mode.cryptoSuite.base.handshakeHash
      handshakeKdf := mode.cryptoSuite.base.handshakeKdf
      sessionNonceMode := mode.cryptoSuite.base.sessionNonceMode
      sessionCryptoMode := mode.cryptoSuite.base.sessionCryptoMode }
  constraints := ⟨limits.maxNonceValue, limits.maxSessionTimeMs⟩
  handshakeMode := mode.handshakeMode
  modeEphemeral := init.modeEphemeral
  modeData := init.modeData

def finalizeRequestTx (backend : CryptoBackend) (mode : InitiatorMode)
    (handshake : InitiatorHandshake) (requestData : Bytes) (now : Time) : InitiatorHandshake :=
  { handshake with
    timeRequestTx := now
    handshakeHash := mode.algorithms.handshake.hashWith backend [requestData] }

/-- `mix_handshake_hash`. -/
def mixHandshakeHash (backend : CryptoBackend) (mode : InitiatorMode)
    (handshake : InitiatorHandshake) (input : Bytes) : InitiatorHandshake :=
  { handshake with
    handshakeHash := mode.algorithms.handshake.hashWith backend [handshake.handshakeHash, input] }

/-- What `initialize_session` returns and leaves behind. -/
structure SessionOutcome where
  success : Bool
  handshake : InitiatorHandshake
  session : Session
  stats : SessionStatistics
  deriving DecidableEq, Repr

/-- The end of `initialize_session`, common to all modes: derive the keys with the
mixed hash as the salt, and estimate when the session started. -/
def deriveSession (backend : CryptoBackend) (mode : InitiatorMode)
    (handshake : InitiatorHandshake) (inputKeyMaterial : List Bytes) (limits : SessionLimits)
    (now : Time) (session : Session) (stats : SessionStatistics) : SessionOutcome :=
  let outputs := mode.algorithms.handshake.kdfWith backend handshake.handshakeHash inputKeyMaterial
  if now < handshake.timeRequestTx then ⟨false, handshake, session, stats⟩
  else
    let elapsed := now - handshake.timeRequestTx
    let result := session.initializeWith stats mode.algorithms.session
      ⟨now - elapsed / 2, limits.maxNonceValue, milliseconds limits.maxSessionTimeMs⟩
      ⟨outputs.2, outputs.1⟩
    ⟨result.1, handshake, result.2.1, result.2.2⟩

/-- `initialize_session`. -/
def initializeSession (backend : CryptoBackend) (mode : InitiatorMode)
    (handshake : InitiatorHandshake) (msg : ReplyHandshakeBegin) (replyData : Bytes)
    (limits : SessionLimits) (now : Time) (session : Session) (stats : SessionStatistics) :
    SessionOutcome :=
  let mixed := mixHandshakeHash backend mode handshake replyData
  match mode with
  | .sharedSecret _ key =>
      if msg.modeEphemeral.length ≠ Consts.nonceLength then ⟨false, handshake, session, stats⟩
      else if msg.modeData ≠ [] then ⟨false, handshake, session, stats⟩
      else
        deriveSession backend mode mixed [key, handshake.nonceBuffer, msg.modeEphemeral] limits now
          session stats
  | .qkd _ =>
      match handshake.key with
      | none => ⟨false, handshake, session, stats⟩
      | some key =>
          if msg.modeEphemeral ≠ [] then ⟨false, handshake, session, stats⟩
          else if msg.modeData ≠ [] then ⟨false, handshake, session, stats⟩
          else deriveSession backend mode mixed [key] limits now session stats
  | .publicKey _ staticKeys certHandler =>
      match certHandler.validate backend certHandler.mode msg.modeData with
      | .error _ => ⟨false, handshake, session, stats⟩
      | .ok remotePublicKey =>
          match TripleDH.compute backend.dhX25519 staticKeys handshake.localEphemeralKeys
              remotePublicKey msg.modeEphemeral with
          | .error _ => ⟨false, mixed, session, stats⟩
          | .ok ikm =>
              deriveSession backend mode mixed [ikm.dh1, ikm.dh3, ikm.dh2] limits now session stats

/-- The input key material that a reply leads to, if the mode accepts the reply. -/
def material (backend : CryptoBackend) (mode : InitiatorMode) (handshake : InitiatorHandshake)
    (msg : ReplyHandshakeBegin) : Option (List Bytes) :=
  match mode with
  | .sharedSecret _ key =>
      if msg.modeEphemeral.length = Consts.nonceLength ∧ msg.modeData = [] then
        some [key, handshake.nonceBuffer, msg.modeEphemeral]
      else none
  | .qkd _ =>
      match handshake.key with
      | none => none
      | some key => if msg.modeEphemeral = [] ∧ msg.modeData = [] then some [key] else none
  | .publicKey _ staticKeys certHandler =>
      match certHandler.validate backend certHandler.mode msg.modeData with
      | .error _ => none
      | .ok remotePublicKey =>
          match TripleDH.compute backend.dhX25519 staticKeys handshake.localEphemeralKeys
              remotePublicKey msg.modeEphemeral with
          | .error _ => none
          | .ok ikm => some [ikm.dh1, ikm.dh3, ikm.dh2]

/-- The session that the initiator derives from its input key material. -/
def derived (backend : CryptoBackend) (mode : InitiatorMode) (handshake : InitiatorHandshake)
    (replyData : Bytes) (ikm : List Bytes) (limits : SessionLimits) (now : Time) : Session :=
  let salt := mode.algorithms.handshake.hashWith backend [handshake.handshakeHash, replyData]
  let outputs := mode.algorithms.handshake.kdfWith backend salt ikm
  { valid := true
    rxNonce := 0
    txNonce := 0
    keys := ⟨outputs.2, outputs.1⟩
    algorithms := mode.algorithms.session
    parameters := ⟨now - (now - handshake.timeRequestTx) / 2, limits.maxNonceValue,
      milliseconds limits.maxSessionTimeMs⟩ }

theorem deriveSession_cases (backend : CryptoBackend) (mode : InitiatorMode)
    (handshake : InitiatorHandshake) (replyData : Bytes) (ikm : List Bytes)
    (limits : SessionLimits) (now : Time) (session : Session) (stats : SessionStatistics) :
    (∃ stats', handshake.timeRequestTx ≤ now ∧
      (derived backend mode handshake replyData ikm limits now).keys.valid = true ∧
      deriveSession backend mode (mixHandshakeHash backend mode handshake replyData) ikm limits now
        session stats =
        ⟨true, mixHandshakeHash backend mode handshake replyData,
          derived backend mode handshake replyData ikm limits now, stats'⟩) ∨
    deriveSession backend mode (mixHandshakeHash backend mode handshake replyData) ikm limits now
      session stats = ⟨false, mixHandshakeHash backend mode handshake replyData, session,
        stats⟩ := by
  simp only [deriveSession]
  by_cases hroll : now < handshake.timeRequestTx
  · exact Or.inr (if_pos hroll)
  · cases hkeys : (derived backend mode handshake replyData ikm limits now).keys.valid with
    | true =>
        refine Or.inl ⟨{ stats with numInit := stats.numInit + 1 }, not_lt.mp hroll, rfl, ?_⟩
        exact (if_neg hroll).trans (congrArg
          (fun r => (⟨r.1, mixHandshakeHash backend mode handshake replyData, r.2.1, r.2.2⟩ :
            SessionOutcome)) (Session.initializeWith_eq session stats _ _ _ hkeys))
    | false =>
        exact Or.inr ((if_neg hroll).trans (congrArg
          (fun r => (⟨r.1, mixHandshakeHash backend mode handshake replyData, r.2.1, r.2.2⟩ :
            SessionOutcome)) (Session.initializeWith_invalid session stats _ _ hkeys)))

/-- A reply that the mode accepts is used for a derivation; any other one changes
nothing but the running hash. -/
theorem initializeSession_material (backend : CryptoBackend) (mode : InitiatorMode)
    (handshake : InitiatorHandshake) (msg : ReplyHandshakeBegin) (replyData : Bytes)
    (limits : SessionLimits) (now : Time) (session : Session) (stats : SessionStatistics) :
    (∃ ikm, material backend mode handshake msg = some ikm ∧
      initializeSession backend mode handshake msg replyData limits now session stats =
        deriveSession backend mode (mixHandshakeHash backend mode handshake replyData) ikm limits
          now session stats) ∨
    material backend mode handshake msg = none ∧
      ∃ handshake', initializeSession backend mode handshake msg replyData limits now
        session stats =
        ⟨false, handshake', session, stats⟩ := by
  cases mode with
  | sharedSecret suite key =>
      by_cases hlen : msg.modeEphemeral.length = Consts.nonceLength
      · by_cases hdata : msg.modeData = []
        · exact Or.inl ⟨[key, handshake.nonceBuffer, msg.modeEphemeral],
            by simp [material, hlen, hdata], by simp [initializeSession, hlen, hdata]⟩
        · exact Or.inr ⟨by simp [material, hdata], handshake,
            by simp [initializeSession, hlen, hdata]⟩
      · exact Or.inr ⟨by simp [material, hlen], handshake, by simp [initializeSession, hlen]⟩
  | qkd suite =>
      cases hkey : handshake.key with
      | none =>
          exact Or.inr ⟨by simp [material, hkey], handshake, by simp [initializeSession, hkey]⟩
      | some key =>
          by_cases hempty : msg.modeEphemeral = []
          · by_cases hdata : msg.modeData = []
            · exact Or.inl ⟨[key], by simp [material, hkey, hempty, hdata],
                by simp [initializeSession, hkey, hempty, hdata]⟩
            · exact Or.inr ⟨by simp [material, hkey, hdata], handshake,
                by simp [initializeSession, hkey, hempty, hdata]⟩
          · exact Or.inr ⟨by simp [material, hkey, hempty], handshake,
              by simp [initializeSession, hkey, hempty]⟩
  | publicKey suite staticKeys certHandler =>
      cases hvalidate : certHandler.validate backend certHandler.mode msg.modeData with
      | error e =>
          exact Or.inr ⟨by simp [material, hvalidate], handshake,
            by simp [initializeSession, hvalidate]⟩
      | ok remote =>
          cases hdh : TripleDH.compute backend.dhX25519 staticKeys handshake.localEphemeralKeys
              remote msg.modeEphemeral with
          | error e =>
              exact Or.inr ⟨by simp [material, hvalidate, hdh],
                mixHandshakeHash backend (.publicKey suite staticKeys certHandler)
                  handshake replyData,
                by simp [initializeSession, hvalidate, hdh]⟩
          | ok ikm =>
              exact Or.inl ⟨[ikm.dh1, ikm.dh3, ikm.dh2], by simp [material, hvalidate, hdh],
                by simp [initializeSession, hvalidate, hdh]⟩

/-- A reply either gives the session of its input key material or leaves the session
as it was. -/
theorem initializeSession_cases (backend : CryptoBackend) (mode : InitiatorMode)
    (handshake : InitiatorHandshake) (msg : ReplyHandshakeBegin) (replyData : Bytes)
    (limits : SessionLimits) (now : Time) (session : Session) (stats : SessionStatistics) :
    (∃ ikm handshake' stats', material backend mode handshake msg = some ikm ∧
      handshake.timeRequestTx ≤ now ∧
      (derived backend mode handshake replyData ikm limits now).keys.valid = true ∧
      initializeSession backend mode handshake msg replyData limits now session stats =
        ⟨true, handshake', derived backend mode handshake replyData ikm limits now, stats'⟩) ∨
    (∃ handshake', initializeSession backend mode handshake msg replyData limits now session stats =
      ⟨false, handshake', session, stats⟩) := by
  rcases initializeSession_material backend mode handshake msg replyData limits now session stats
    with ⟨ikm, hikm, heq⟩ | ⟨-, hfail⟩
  · rcases deriveSession_cases backend mode handshake replyData ikm limits now session stats with
      ⟨stats', htime, hkeys, hok⟩ | hfail
    · exact Or.inl ⟨ikm, _, stats', hikm, htime, hkeys, heq.trans hok⟩
    · exact Or.inr ⟨_, heq.trans hfail⟩
  · exact Or.inr hfail

end InitiatorHandshake

/-! ## The responder's side -/

/-- The implementations of `IResponderHandshake`, with their configuration. -/
inductive ResponderMode
  | sharedSecret (key : Bytes)
  | qkd
  | publicKey (staticKeys : StaticKeys) (certHandler : CertificateHandler)
  deriving DecidableEq, Repr

namespace ResponderMode

/-- What `process` returns and leaves behind.  `lookup` is the key identifier that it
looked up and thereby consumed, `initialized` what `Session::initialize` returned. -/
structure Outcome where
  result : Except HandshakeError FrameWriter.WriteResult
  session : Session
  stats : SessionStatistics
  lookup : Option UInt64
  initialized : Bool

/-- The end of `process`, common to all modes: write the reply, derive the keys from
both messages, initialize the session.  Its result is not looked at. -/
def reply (backend : CryptoBackend) (writer : FrameWriter) (algorithms : Algorithms.Common)
    (msg : RequestHandshakeBegin) (msgBytes : Bytes) (now : Time) (reply : ReplyHandshakeBegin)
    (inputKeyMaterial : Except CryptoError (List Bytes)) (session : Session)
    (stats : SessionStatistics) (lookup : Option UInt64) : Outcome :=
  match writer.write reply.write with
  | .error _ => ⟨.error .unknown, session, stats, lookup, false⟩
  | .ok result =>
      let hash := handshakeHash (algorithms.handshake.hashWith backend) msgBytes result.written
      match inputKeyMaterial with
      | .error _ => ⟨.error .unknown, session, stats, lookup, false⟩
      | .ok ikm =>
          let outputs := algorithms.handshake.kdfWith backend hash ikm
          let init := session.initializeWith stats algorithms.session
            ⟨now, msg.constraints.maxNonce, milliseconds msg.constraints.maxSessionDuration⟩
            ⟨outputs.1, outputs.2⟩
          ⟨.ok result, init.2.1, init.2.2, lookup, init.1⟩

/-- `process`.  No mode looks at the handshake mode of the request, except through
the certificate handler. -/
def process (backend : CryptoBackend) (mode : ResponderMode) (writer : FrameWriter)
    (msg : RequestHandshakeBegin) (msgBytes : Bytes) (now : Time) (random : Random)
    (findKey : UInt64 → Option Bytes) (session : Session) (stats : SessionStatistics) : Outcome :=
  let fail (e : HandshakeError) : Outcome := ⟨.error e, session, stats, none, false⟩
  match mode with
  | .sharedSecret key =>
      if msg.modeEphemeral.length ≠ Consts.nonceLength then fail .badMessageFormat
      else if msg.modeData ≠ [] then fail .badMessageFormat
      else
        match Algorithms.configureSpec backend msg.spec with
        | .error e => fail e
        | .ok algorithms =>
            reply backend writer algorithms msg msgBytes now ⟨Version.get, random.1, []⟩
              (.ok [key, msg.modeEphemeral, random.1]) session stats none
  | .qkd =>
      if msg.modeEphemeral ≠ [] then fail .badMessageFormat
      else
        match Algorithms.configureSpec backend msg.spec with
        | .error e => fail e
        | .ok _ =>
            if msg.modeData.length ≠ 8 then fail .badMessageFormat
            else
              let keyId := UInt64.ofNat (ofBigEndian msg.modeData)
              match findKey keyId with
              | none => ⟨.error .keyNotFound, session, stats, some keyId, false⟩
              | some secret =>
                  -- once more, now that the key has been taken
                  match Algorithms.configureSpec backend msg.spec with
                  | .error e => ⟨.error e, session, stats, some keyId, false⟩
                  | .ok algorithms =>
                      reply backend writer algorithms msg msgBytes now ⟨Version.get, [], []⟩
                        (.ok [secret]) session stats (some keyId)
  | .publicKey staticKeys certHandler =>
      match Algorithms.configureSpec backend msg.spec with
      | .error e => fail e
      | .ok algorithms =>
          match Algorithms.configureDh backend msg.spec.handshakeEphemeral with
          | .error e => fail e
          | .ok _ =>
              if msg.modeEphemeral.length ≠ Consts.x25519KeyLength then fail .badMessageFormat
              else
                match certHandler.validate backend msg.handshakeMode msg.modeData with
                | .error e => fail e
                | .ok remotePublicStaticKey =>
                    let keys := genKeypairX25519 backend random
                    let ikm := TripleDH.compute backend.dhX25519 staticKeys keys
                      remotePublicStaticKey msg.modeEphemeral
                    reply backend writer algorithms msg msgBytes now
                      ⟨Version.get, keys.publicKey, certHandler.certificateData⟩
                      (ikm.map (fun ikm => [ikm.dh1, ikm.dh2, ikm.dh3])) session stats none

/-- The reply that a mode sends. -/
def replyMessage (backend : CryptoBackend) (mode : ResponderMode) (random : Random) :
    ReplyHandshakeBegin :=
  match mode with
  | .sharedSecret _ => ⟨Version.get, random.1, []⟩
  | .qkd => ⟨Version.get, [], []⟩
  | .publicKey _ certHandler =>
      ⟨Version.get, (genKeypairX25519 backend random).publicKey, certHandler.certificateData⟩

/-- The input key material that a request leads to, if the mode accepts it. -/
def material (backend : CryptoBackend) (mode : ResponderMode) (msg : RequestHandshakeBegin)
    (random : Random) (findKey : UInt64 → Option Bytes) : Option (List Bytes) :=
  match mode with
  | .sharedSecret key =>
      if msg.modeEphemeral.length = Consts.nonceLength ∧ msg.modeData = [] then
        some [key, msg.modeEphemeral, random.1]
      else none
  | .qkd =>
      if msg.modeEphemeral = [] ∧ msg.modeData.length = 8 then
        (findKey (UInt64.ofNat (ofBigEndian msg.modeData))).map (fun secret => [secret])
      else none
  | .publicKey staticKeys certHandler =>
      if msg.modeEphemeral.length = Consts.x25519KeyLength then
        match certHandler.validate backend msg.handshakeMode msg.modeData with
        | .error _ => none
        | .ok remotePublicStaticKey =>
            match TripleDH.compute backend.dhX25519 staticKeys (genKeypairX25519 backend random)
                remotePublicStaticKey msg.modeEphemeral with
            | .error _ => none
            | .ok ikm => some [ikm.dh1, ikm.dh2, ikm.dh3]
      else none

theorem material_publicKey {backend : CryptoBackend} {staticKeys : StaticKeys}
    {certHandler : CertificateHandler} {msg : RequestHandshakeBegin} {random : Random}
    {findKey : UInt64 → Option Bytes} {values : List Bytes}
    (hmaterial : material backend (.publicKey staticKeys certHandler) msg random findKey =
      some values) :
    ∃ remote ikm, certHandler.validate backend msg.handshakeMode msg.modeData = .ok remote ∧
      TripleDH.compute backend.dhX25519 staticKeys (genKeypairX25519 backend random) remote
        msg.modeEphemeral = .ok ikm ∧ values = [ikm.dh1, ikm.dh2, ikm.dh3] := by
  simp only [material] at hmaterial
  split_ifs at hmaterial
  split at hmaterial
  · cases hmaterial
  · rename_i remote hvalidate
    split at hmaterial
    · cases hmaterial
    · rename_i ikm hdh
      cases hmaterial
      exact ⟨remote, ikm, hvalidate, hdh, rfl⟩

/-- The session that the responder derives from its input key material. -/
def derived (backend : CryptoBackend) (algorithms : Algorithms.Common)
    (msg : RequestHandshakeBegin) (msgBytes replyData : Bytes) (ikm : List Bytes) (now : Time) :
    Session :=
  let outputs := algorithms.handshake.kdfWith backend
    (handshakeHash (algorithms.handshake.hashWith backend) msgBytes replyData) ikm
  { valid := true
    rxNonce := 0
    txNonce := 0
    keys := ⟨outputs.1, outputs.2⟩
    algorithms := algorithms.session
    parameters := ⟨now, msg.constraints.maxNonce, milliseconds msg.constraints.maxSessionDuration⟩ }

/-- What a successful `process` says: the reply was written, and the session is the
derived one if its keys have the right length. -/
structure Replies (backend : CryptoBackend) (mode : ResponderMode) (writer : FrameWriter)
    (msg : RequestHandshakeBegin) (msgBytes : Bytes) (now : Time) (random : Random)
    (findKey : UInt64 → Option Bytes) (session : Session) (algorithms : Algorithms.Common)
    (ikm : List Bytes) (result : FrameWriter.WriteResult) (session' : Session)
    (initialized : Bool) : Prop where
  configured : Algorithms.configureSpec backend msg.spec = .ok algorithms
  material : material backend mode msg random findKey = some ikm
  written : (replyMessage backend mode random).write writer.room = .ok result.written
  framed : result.frame = writer.frame result.written
  initialized_eq : initialized =
    (derived backend algorithms msg msgBytes result.written ikm now).keys.valid
  session_eq : session' = if initialized = true then
      derived backend algorithms msg msgBytes result.written ikm now
    else session

/-- An outcome of `process`: either the request was answered with a reply, or the
session is as it was. -/
def Settles (backend : CryptoBackend) (mode : ResponderMode) (writer : FrameWriter)
    (msg : RequestHandshakeBegin) (msgBytes : Bytes) (now : Time) (random : Random)
    (findKey : UInt64 → Option Bytes) (session : Session) (stats : SessionStatistics)
    (outcome : Outcome) : Prop :=
  (∃ algorithms ikm result session' stats' lookup initialized,
    Replies backend mode writer msg msgBytes now random findKey session algorithms ikm result
      session' initialized ∧ outcome = ⟨.ok result, session', stats', lookup, initialized⟩) ∨
  (∃ e lookup, outcome = ⟨.error e, session, stats, lookup, false⟩)

section Process

variable {backend : CryptoBackend} {mode : ResponderMode} {writer : FrameWriter}
variable {msg : RequestHandshakeBegin} {msgBytes : Bytes} {now : Time} {random : Random}
variable {findKey : UInt64 → Option Bytes} {session : Session} {stats : SessionStatistics}

theorem settles_error (e : HandshakeError) (lookup : Option UInt64) :
    Settles backend mode writer msg msgBytes now random findKey session stats
      ⟨.error e, session, stats, lookup, false⟩ :=
  Or.inr ⟨e, lookup, rfl⟩

theorem settles_reply {algorithms : Algorithms.Common} {ikm : Except CryptoError (List Bytes)}
    {lookup : Option UInt64}
    (hconfigure : Algorithms.configureSpec backend msg.spec = .ok algorithms)
    (hmaterial : ∀ values, ikm = .ok values →
      material backend mode msg random findKey = some values) :
    Settles backend mode writer msg msgBytes now random findKey session stats
      (reply backend writer algorithms msg msgBytes now (replyMessage backend mode random) ikm
        session stats lookup) := by
  cases hwrite : writer.write (replyMessage backend mode random).write with
  | error e =>
      simp only [reply, hwrite]
      exact settles_error _ _
  | ok result =>
      obtain ⟨hwritten, hframe⟩ := FrameWriter.write_ok hwrite
      cases ikm with
      | error e =>
          simp only [reply, hwrite]
          exact settles_error _ _
      | ok values =>
          let session' := derived backend algorithms msg msgBytes result.written values now
          simp only [reply, hwrite]
          cases hkeys : session'.keys.valid with
          | true =>
              have hinit := Session.initializeWith_eq session stats algorithms.session
                session'.parameters session'.keys hkeys
              refine Or.inl ⟨algorithms, values, result, session',
                { stats with numInit := stats.numInit + 1 }, lookup, true,
                ⟨hconfigure, hmaterial _ rfl, hwritten, hframe, hkeys.symm, rfl⟩, ?_⟩
              exact congrArg (fun r => (⟨.ok result, r.2.1, r.2.2, lookup, r.1⟩ : Outcome)) hinit
          | false =>
              have hinit := Session.initializeWith_invalid session stats algorithms.session
                session'.parameters hkeys
              refine Or.inl ⟨algorithms, values, result, session, stats, lookup, false,
                ⟨hconfigure, hmaterial _ rfl, hwritten, hframe, hkeys.symm, rfl⟩, ?_⟩
              exact congrArg (fun r => (⟨.ok result, r.2.1, r.2.2, lookup, r.1⟩ : Outcome)) hinit

/-- A request either is answered with a reply or leaves the session as it was. -/
theorem process_settles (backend : CryptoBackend) (mode : ResponderMode) (writer : FrameWriter)
    (msg : RequestHandshakeBegin) (msgBytes : Bytes) (now : Time) (random : Random)
    (findKey : UInt64 → Option Bytes) (session : Session) (stats : SessionStatistics) :
    Settles backend mode writer msg msgBytes now random findKey session stats
      (process backend mode writer msg msgBytes now random findKey session stats) := by
  cases mode with
  | sharedSecret key =>
      simp only [process]
      split_ifs with hlen hdata
      · exact settles_error _ _
      · exact settles_error _ _
      · split
        · exact settles_error _ _
        · rename_i algorithms hconfigure
          refine settles_reply hconfigure ?_
          rintro _ ⟨⟩
          exact if_pos ⟨not_not.mp hlen, not_not.mp hdata⟩
  | qkd =>
      simp only [process]
      split_ifs with hempty hlen
      · exact settles_error _ _
      · split
        · exact settles_error _ _
        · exact settles_error _ _
      · split
        · exact settles_error _ _
        · rename_i algorithms hconfigure
          split
          · exact settles_error _ _
          · rename_i secret hfind
            refine settles_reply hconfigure ?_
            rintro _ ⟨⟩
            simp only [material, hfind, Option.map_some]
            exact if_pos ⟨not_not.mp hempty, not_not.mp hlen⟩
  | publicKey staticKeys certHandler =>
      simp only [process]
      split
      · exact settles_error _ _
      · rename_i algorithms hconfigure
        split
        · exact settles_error _ _
        · split_ifs with hlen
          · exact settles_error _ _
          · split
            · exact settles_error _ _
            · rename_i remote hvalidate
              refine settles_reply hconfigure ?_
              intro values hvalues
              simp only [material, hvalidate]
              rw [if_pos (not_not.mp hlen)]
              cases hdh : TripleDH.compute backend.dhX25519 staticKeys
                  (genKeypairX25519 backend random) remote msg.modeEphemeral with
              | error e =>
                  rw [hdh] at hvalues
                  cases hvalues
              | ok ikm =>
                  rw [hdh] at hvalues
                  cases hvalues
                  rfl

end Process

end ResponderMode

end Ssp21
