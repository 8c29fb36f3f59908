import Ssp21.Crypto.Handshake

/-!
# What the handshakes check

A handshake works on messages that nobody has authenticated yet.  Three questions about what is
checked before it acts on them:

* how long the public keys are that reach the Diffie-Hellman primitive, which reads 32 bytes
  whatever it is given (`dh_inputs_sized_iff`);
* whether a responder looks at the handshake mode of a request (`mode_enforced_iff`);
* whether a responder that fails has left the pending session alone (`process_atomic`).
-/

namespace Ssp21

open Wire

/-! ## Keys for the Diffie-Hellman primitive -/

/-- The keys of the other party that `TripleDH::compute` is given. -/
structure RemoteKeys where
  publicStatic : Bytes
  publicEphemeral : Bytes
  deriving DecidableEq, Repr

/-- Both keys are as long as the primitive expects. -/
def RemoteKeys.Sized (keys : RemoteKeys) : Prop :=
  keys.publicStatic.length = Consts.x25519KeyLength ∧
    keys.publicEphemeral.length = Consts.x25519KeyLength

instance (keys : RemoteKeys) : Decidable keys.Sized :=
  inferInstanceAs (Decidable (_ ∧ _))

namespace InitiatorHandshake

/-- What `initialize_session` passes to `TripleDH::compute`, if it gets there. -/
def remoteKeys (backend : CryptoBackend) (mode : InitiatorMode) (msg : ReplyHandshakeBegin) :
    Option RemoteKeys :=
  match mode with
  | .sharedSecret _ _ => none
  | .qkd _ => none
  | .publicKey _ _ certHandler =>
      match certHandler.validate backend certHandler.mode msg.modeData with
      | .error _ => none
      | .ok remotePublicKey => some ⟨remotePublicKey, msg.modeEphemeral⟩

/-- The primitive plays no other part: it may be replaced by one that agrees with it on these
keys. -/
theorem initializeSession_congr_dh {backend : CryptoBackend} {suite : DHCryptoSuite}
    {staticKeys : StaticKeys} {certHandler : CertificateHandler} {handshake : InitiatorHandshake}
    {msg : ReplyHandshakeBegin} (dh : Bytes → Bytes → Except CryptoError Bytes)
    (hagree : ∀ keys ∈ remoteKeys backend (.publicKey suite staticKeys certHandler) msg,
      TripleDH.compute dh staticKeys handshake.localEphemeralKeys keys.publicStatic
          keys.publicEphemeral =
        TripleDH.compute backend.dhX25519 staticKeys handshake.localEphemeralKeys
          keys.publicStatic keys.publicEphemeral)
    (replyData : Bytes) (limits : SessionLimits) (now : Time) (session : Session)
    (stats : SessionStatistics) :
    initializeSession { backend with dhX25519 := dh } (.publicKey suite staticKeys certHandler)
        handshake msg replyData limits now session stats =
      initializeSession backend (.publicKey suite staticKeys certHandler) handshake msg replyData
        limits now session stats := by
  have hvalidate : certHandler.validate { backend with dhX25519 := dh } certHandler.mode
      msg.modeData = certHandler.validate backend certHandler.mode msg.modeData := by
    cases certHandler <;> rfl
  simp only [initializeSession, hvalidate]
  cases hkey : certHandler.validate backend certHandler.mode msg.modeData with
  | error e => rfl
  | ok remote =>
      have hcompute := hagree ⟨remote, msg.modeEphemeral⟩ (by simp [remoteKeys, hkey])
      simp only [hcompute]
      rfl

end InitiatorHandshake

namespace ResponderMode

/-- What `process` passes to `TripleDH::compute`, if it gets there: the reply has been written by
then. -/
def remoteKeys (backend : CryptoBackend) (mode : ResponderMode) (writer : FrameWriter)
    (msg : RequestHandshakeBegin) (random : Random) : Option RemoteKeys :=
  match mode with
  | .sharedSecret _ => none
  | .qkd => none
  | .publicKey _ certHandler =>
      match Algorithms.configureSpec backend msg.spec with
      | .error _ => none
      | .ok _ =>
          match Algorithms.configureDh backend msg.spec.handshakeEphemeral with
          | .error _ => none
          | .ok _ =>
              if msg.modeEphemeral.length ≠ Consts.x25519KeyLength then none
              else
                match certHandler.validate backend msg.handshakeMode msg.modeData with
                | .error _ => none
                | .ok remotePublicStaticKey =>
                    match writer.write (replyMessage backend mode random).write with
                    | .error _ => none
                    | .ok _ => some ⟨remotePublicStaticKey, msg.modeEphemeral⟩

/-- The primitive plays no other part. -/
theorem process_congr_dh {backend : CryptoBackend} {staticKeys : StaticKeys}
    {certHandler : CertificateHandler} {writer : FrameWriter} {msg : RequestHandshakeBegin}
    {random : Random} (dh : Bytes → Bytes → Except CryptoError Bytes)
    (hagree : ∀ keys ∈ remoteKeys backend (.publicKey staticKeys certHandler) writer msg random,
      TripleDH.compute dh staticKeys (genKeypairX25519 backend random) keys.publicStatic
          keys.publicEphemeral =
        TripleDH.compute backend.dhX25519 staticKeys (genKeypairX25519 backend random)
          keys.publicStatic keys.publicEphemeral)
    (msgBytes : Bytes) (now : Time) (findKey : UInt64 → Option Bytes) (session : Session)
    (stats : SessionStatistics) :
    process { backend with dhX25519 := dh } (.publicKey staticKeys certHandler) writer msg msgBytes
        now random findKey session stats =
      process backend (.publicKey staticKeys certHandler) writer msg msgBytes now random findKey
        session stats := by
  have hvalidate : certHandler.validate { backend with dhX25519 := dh } msg.handshakeMode
      msg.modeData = certHandler.validate backend msg.handshakeMode msg.modeData := by
    cases certHandler <;> rfl
  have hspec : Algorithms.configureSpec { backend with dhX25519 := dh } msg.spec =
    Algorithms.configureSpec backend msg.spec := rfl
  have hephemeral : Algorithms.configureDh { backend with dhX25519 := dh }
    msg.spec.handshakeEphemeral = Algorithms.configureDh backend msg.spec.handshakeEphemeral := rfl
  have hpair : genKeypairX25519 { backend with dhX25519 := dh } random =
    genKeypairX25519 backend random := rfl
  simp only [process, hvalidate, hspec, hephemeral, hpair]
  cases hconfigure : Algorithms.configureSpec backend msg.spec with
  | error e => rfl
  | ok algorithms =>
      cases hdh : Algorithms.configureDh backend msg.spec.handshakeEphemeral with
      | error e => rfl
      | ok _ =>
          by_cases hlength : msg.modeEphemeral.length = Consts.x25519KeyLength
          · simp only [hlength, ne_eq, not_true_eq_false, if_false]
            cases hkey : certHandler.validate backend msg.handshakeMode msg.modeData with
            | error e => rfl
            | ok remote =>
                simp only [reply]
                cases hwrite : writer.write (replyMessage backend
                    (.publicKey staticKeys certHandler) random).write with
                | error e =>
                    simp only [replyMessage] at hwrite
                    simp only [hwrite]
                | ok result =>
                    have hcompute := hagree ⟨remote, msg.modeEphemeral⟩
                      (by simp [remoteKeys, hconfigure, hdh, hlength, hkey, hwrite])
                    simp only [replyMessage] at hwrite
                    simp only [hwrite, hcompute]
                    rfl
          · simp only [hlength, ne_eq, not_false_eq_true, if_true]

/-- The ephemeral key of a request has been checked by the time. -/
theorem remoteKeys_eq_some {backend : CryptoBackend} {staticKeys : StaticKeys}
    {certHandler : CertificateHandler} {writer : FrameWriter} {msg : RequestHandshakeBegin}
    {random : Random} {keys : RemoteKeys}
    (hkeys : remoteKeys backend (.publicKey staticKeys certHandler) writer msg random =
      some keys) :
    certHandler.validate backend msg.handshakeMode msg.modeData = .ok keys.publicStatic ∧
      keys.publicEphemeral.length = Consts.x25519KeyLength := by
  simp only [remoteKeys] at hkeys
  split at hkeys
  · cases hkeys
  · split at hkeys
    · cases hkeys
    · split_ifs at hkeys with hlength
      split at hkeys
      · cases hkeys
      · rename_i remote hvalidate
        split at hkeys
        · cases hkeys
        · cases hkeys
          exact ⟨hvalidate, not_not.mp hlength⟩

end ResponderMode

namespace CertificateHandler

/-- If the keys of the other party come from a chain, the key that this chain certifies has the
length of a Diffie-Hellman key. -/
def KeySized (backend : CryptoBackend) (handler : CertificateHandler) (certificateData : Bytes) :
    Prop :=
  ∀ anchor presented, handler = .industrial anchor presented →
    ∀ chain endpoint, readAll CertificateChain.codec certificateData = .ok chain →
      Chain.verify backend.verifyEd25519 anchor chain.certificates.1 = .ok endpoint →
        endpoint.publicKey.length = Consts.x25519KeyLength

theorem validate_length_iff {backend : CryptoBackend} {handler : CertificateHandler}
    {mode : HandshakeMode} {certificateData key : Bytes}
    (hpreshared : ∀ key, handler = .presharedKey key → key.length = Consts.x25519KeyLength)
    (hvalidate : handler.validate backend mode certificateData = .ok key) :
    key.length = Consts.x25519KeyLength ↔ handler.KeySized backend certificateData := by
  cases handler with
  | presharedKey remote =>
      simp only [validate] at hvalidate
      split_ifs at hvalidate
      cases hvalidate
      exact iff_of_true (hpreshared _ rfl) (fun _ _ h => by cases h)
  | industrial anchor presented =>
      simp only [validate] at hvalidate
      split_ifs at hvalidate
      split at hvalidate
      · cases hvalidate
      · rename_i chain hchain
        split at hvalidate
        · cases hvalidate
        · rename_i endpoint hverify
          cases hvalidate
          constructor
          · rintro hlength _ _ ⟨⟩ chain' endpoint' hchain' hverify'
            cases hchain.symm.trans hchain'
            cases hverify.symm.trans hverify'
            exact hlength
          · intro hsized
            exact hsized anchor presented rfl chain endpoint hchain hverify

end CertificateHandler

/-- **Inputs of the Diffie-Hellman primitive.**  For every message that parses and every certificate
handler (with a preshared key of 32 bytes, if it has one), the keys that `TripleDH::compute` is
given are 32 bytes long exactly if the key in the certificate chain is, and on the initiator's side
the ephemeral key of the reply as well.  Only the responder checks the latter. -/
theorem dh_inputs_sized_iff (backend : CryptoBackend) (staticKeys : StaticKeys)
    (certHandler : CertificateHandler)
    (hpreshared : ∀ key, certHandler = .presharedKey key → key.length = Consts.x25519KeyLength) :
    (∀ suite raw msg, ReplyHandshakeBegin.read raw = .ok msg →
      ∀ keys ∈ InitiatorHandshake.remoteKeys backend (.publicKey suite staticKeys certHandler) msg,
        (keys.Sized ↔ certHandler.KeySized backend msg.modeData ∧
          msg.modeEphemeral.length = Consts.x25519KeyLength)) ∧
    (∀ writer random raw msg, RequestHandshakeBegin.read raw = .ok msg →
      ∀ keys ∈ ResponderMode.remoteKeys backend (.publicKey staticKeys certHandler) writer msg
          random,
        (keys.Sized ↔ certHandler.KeySized backend msg.modeData)) := by
  constructor
  · intro suite raw msg _ keys hkeys
    simp only [InitiatorHandshake.remoteKeys] at hkeys
    split at hkeys
    · cases hkeys
    · rename_i remote hvalidate
      cases hkeys
      exact and_congr_left fun _ => CertificateHandler.validate_length_iff hpreshared hvalidate
  · intro writer random raw msg _ keys hkeys
    obtain ⟨hvalidate, hephemeral⟩ := ResponderMode.remoteKeys_eq_some hkeys
    rw [RemoteKeys.Sized, and_iff_left hephemeral]
    exact CertificateHandler.validate_length_iff hpreshared hvalidate

/-! ### Short keys -/

namespace HandshakeChecks

def key : Bytes := List.replicate 32 7

def staticKeys : StaticKeys := ⟨key, key⟩

def suite : DHCryptoSuite := ⟨⟨.sha256, .hkdfSha256, .strictIncrement, .aes256Gcm⟩, .x25519⟩

def backend : CryptoBackend := Sodium.sample.backend []

def random : Random := ⟨List.replicate 32 3, rfl⟩

/-- A certificate for a Diffie-Hellman key, as bytes. -/
def certificate (publicKey : Bytes) : Bytes :=
  bigEndian 8 0 ++ bigEndian 8 100 ++ [0, 1, UInt8.ofNat publicKey.length] ++ publicKey ++ [0]

/-- A chain with this certificate only, as bytes. -/
def chain (publicKey : Bytes) : Bytes :=
  [1, 64] ++ List.replicate 64 5 ++ [UInt8.ofNat (certificate publicKey).length] ++
    certificate publicKey

def anchor : CertificateBody := ⟨0, 100, 1, .ed25519, key, ⟨[], Nat.zero_le 5⟩⟩

def reply (modeEphemeral modeData : Bytes) : ReplyHandshakeBegin :=
  ⟨Version.get, modeEphemeral, modeData⟩

def request (mode : HandshakeMode) (modeEphemeral modeData : Bytes) : RequestHandshakeBegin where
  version := Version.get
  spec := ⟨.x25519, .sha256, .hkdfSha256, .strictIncrement, .aes256Gcm⟩
  constraints := ⟨100, 60000⟩
  handshakeMode := mode
  modeEphemeral := modeEphemeral
  modeData := modeData

def replyBytes (msg : ReplyHandshakeBegin) : Bytes :=
  encMessage .replyHandshakeBegin ReplyHandshakeBegin.fieldsSpec msg

def requestBytes (msg : RequestHandshakeBegin) : Bytes :=
  encMessage .requestHandshakeBegin RequestHandshakeBegin.fieldsSpec msg

theorem dh_inputs_sized_preshared :
    InitiatorHandshake.remoteKeys backend (.publicKey suite staticKeys (.presharedKey key))
        (reply key []) = some ⟨key, key⟩ ∧ RemoteKeys.Sized ⟨key, key⟩ := by
  refine ⟨rfl, ?_⟩
  refine ((dh_inputs_sized_iff backend staticKeys (.presharedKey key) ?_).1 suite
    (replyBytes (reply key [])) (reply key []) (by rfl) ⟨key, key⟩ rfl).mpr ⟨?_, rfl⟩
  · rintro _ ⟨⟩
    rfl
  · rintro _ _ ⟨⟩

/-- A reply without an ephemeral key, and a request with a chain for an empty static key: both
parse, both reach the primitive. -/
theorem dh_inputs_short :
    (ReplyHandshakeBegin.read (replyBytes (reply [] [])) = .ok (reply [] []) ∧
      InitiatorHandshake.remoteKeys backend (.publicKey suite staticKeys (.presharedKey key))
        (reply [] []) = some ⟨key, []⟩) ∧
    (RequestHandshakeBegin.read
        (requestBytes (request .industrialCertificates key (chain []))) =
          .ok (request .industrialCertificates key (chain [])) ∧
      ResponderMode.remoteKeys backend (.publicKey staticKeys (.industrial anchor (chain key)))
        (.raw 4092) (request .industrialCertificates key (chain [])) random = some ⟨[], key⟩) := by
  decide +kernel

end HandshakeChecks

/-! ## The handshake mode -/

namespace ResponderMode

/-- The mode that a responder implements. -/
def handshakeMode : ResponderMode → HandshakeMode
  | sharedSecret _ => .sharedSecret
  | qkd => .quantumKeyDistribution
  | publicKey _ certHandler => certHandler.mode

/-- A request is answered with success only in its own mode; in any other mode it gets an error,
leaves the session as it was and takes no key out of the key store. -/
structure Enforces (mode : ResponderMode) (findKey : UInt64 → Option Bytes)
    (msg : RequestHandshakeBegin) (session : Session) (outcome : Outcome) : Prop where
  success : ∀ result, outcome.result = .ok result → msg.handshakeMode = mode.handshakeMode
  refused : msg.handshakeMode ≠ mode.handshakeMode →
    (∃ e, outcome.result = .error e) ∧ outcome.session = session ∧
      ∀ id ∈ outcome.lookup, findKey id = none

/-- The request passes the other checks of the mode, and its reply can be written.  A key is taken
before the reply is written. -/
def Served (backend : CryptoBackend) (mode : ResponderMode) (writer : FrameWriter)
    (msg : RequestHandshakeBegin) (random : Random) (findKey : UInt64 → Option Bytes) : Prop :=
  (Algorithms.configureSpec backend msg.spec).isOk = true ∧
    (material backend mode msg random findKey).isSome = true ∧
    (mode = .qkd ∨ (writer.write (replyMessage backend mode random).write).isOk = true)

instance (backend : CryptoBackend) (mode : ResponderMode) (writer : FrameWriter)
    (msg : RequestHandshakeBegin) (random : Random) (findKey : UInt64 → Option Bytes) :
    Decidable (Served backend mode writer msg random findKey) :=
  inferInstanceAs (Decidable (_ ∧ _ ∧ _))

section Mode

variable {backend : CryptoBackend} {mode : ResponderMode} {writer : FrameWriter}
variable {msg : RequestHandshakeBegin} {msgBytes : Bytes} {now : Time} {random : Random}
variable {findKey : UInt64 → Option Bytes} {session : Session} {stats : SessionStatistics}

/-- The certificate handler looks at the mode. -/
theorem mode_of_material {staticKeys : StaticKeys} {certHandler : CertificateHandler}
    (hserved : (material backend (.publicKey staticKeys certHandler) msg random findKey).isSome =
      true) : msg.handshakeMode = certHandler.mode := by
  obtain ⟨values, hvalues⟩ := Option.isSome_iff_exists.mp hserved
  obtain ⟨remote, -, hvalidate, -, -⟩ := material_publicKey hvalues
  cases certHandler with
  | presharedKey key =>
      simp only [CertificateHandler.validate] at hvalidate
      split_ifs at hvalidate with hmode
      exact not_not.mp hmode
  | industrial anchor presented =>
      simp only [CertificateHandler.validate] at hvalidate
      split_ifs at hvalidate with hmode
      exact not_not.mp hmode

theorem reply_lookup {algorithms : Algorithms.Common} {message : ReplyHandshakeBegin}
    {ikm : Except CryptoError (List Bytes)} {lookup : Option UInt64} :
    (reply backend writer algorithms msg msgBytes now message ikm session stats lookup).lookup =
      lookup := by
  unfold reply
  cases writer.write message.write with
  | error e => rfl
  | ok result => cases ikm <;> rfl

theorem reply_result {algorithms : Algorithms.Common} {message : ReplyHandshakeBegin}
    {ikm : Except CryptoError (List Bytes)} {lookup : Option UInt64}
    {result : FrameWriter.WriteResult}
    (hok : (reply backend writer algorithms msg msgBytes now message ikm session stats
      lookup).result = .ok result) : writer.write message.write = .ok result := by
  unfold reply at hok
  cases hwrite : writer.write message.write with
  | error e =>
      simp only [hwrite] at hok
      cases hok
  | ok written =>
      simp only [hwrite] at hok
      cases ikm with
      | error e => cases hok
      | ok values =>
          cases hok
          rfl

/-- What is returned on success is what the frame writer made of the reply. -/
theorem process_result {result : FrameWriter.WriteResult}
    (hok : (process backend mode writer msg msgBytes now random findKey session stats).result =
      .ok result) :
    writer.write (replyMessage backend mode random).write = .ok result := by
  cases mode with
  | sharedSecret secret =>
      simp only [process] at hok
      split_ifs at hok
      split at hok
      · cases hok
      · exact reply_result hok
  | qkd =>
      simp only [process] at hok
      cases hconfigure : Algorithms.configureSpec backend msg.spec with
      | error e =>
          simp only [hconfigure] at hok
          split_ifs at hok
      | ok algorithms =>
          simp only [hconfigure] at hok
          split_ifs at hok
          split at hok
          · cases hok
          · exact reply_result hok
  | publicKey staticKeys certHandler =>
      simp only [process] at hok
      split at hok
      · cases hok
      · split at hok
        · cases hok
        · split_ifs at hok
          split at hok
          · cases hok
          · exact reply_result hok

/-- A key that is held is taken only by the handshake with key identifiers, and only for a request
that it serves. -/
theorem process_lookup {id : UInt64} {key : Bytes}
    (hlookup : id ∈ (process backend mode writer msg msgBytes now random findKey session
      stats).lookup) (hkey : findKey id = some key) :
    mode = .qkd ∧ Served backend mode writer msg random findKey := by
  cases mode with
  | sharedSecret secret =>
      simp only [process] at hlookup
      split_ifs at hlookup
      · cases hlookup
      · cases hlookup
      · split at hlookup
        · cases hlookup
        · rw [reply_lookup] at hlookup
          cases hlookup
  | qkd =>
      simp only [process] at hlookup
      cases hconfigure : Algorithms.configureSpec backend msg.spec with
      | error e =>
          simp only [hconfigure] at hlookup
          split_ifs at hlookup <;> cases hlookup
      | ok algorithms =>
          simp only [hconfigure] at hlookup
          split_ifs at hlookup with hempty hlength
          · cases hlookup
          · cases hlookup
          · have hid : UInt64.ofNat (ofBigEndian msg.modeData) = id := by
              split at hlookup
              · exact Option.some.inj hlookup
              · rw [reply_lookup] at hlookup
                exact Option.some.inj hlookup
            refine ⟨rfl, by rw [hconfigure]; rfl, ?_, .inl rfl⟩
            simp only [material, if_pos (And.intro (not_not.mp hempty) (not_not.mp hlength)), hid,
              hkey, Option.map_some, Option.isSome_some]
  | publicKey staticKeys certHandler =>
      simp only [process] at hlookup
      split at hlookup
      · cases hlookup
      · split at hlookup
        · cases hlookup
        · split_ifs at hlookup
          · cases hlookup
          · split at hlookup
            · cases hlookup
            · rw [reply_lookup] at hlookup
              cases hlookup

/-- A request that is not served is refused, and costs nothing. -/
theorem refused_of_not_served (hserved : ¬ Served backend mode writer msg random findKey) :
    (∃ e, (process backend mode writer msg msgBytes now random findKey session stats).result =
        .error e) ∧
      (process backend mode writer msg msgBytes now random findKey session stats).session =
        session ∧
      ∀ id ∈ (process backend mode writer msg msgBytes now random findKey session stats).lookup,
        findKey id = none := by
  have hkeys : ∀ id ∈ (process backend mode writer msg msgBytes now random findKey session
      stats).lookup, findKey id = none := by
    intro id hid
    cases hkey : findKey id with
    | none => rfl
    | some key => exact absurd (process_lookup hid hkey).2 hserved
  rcases process_settles backend mode writer msg msgBytes now random findKey session stats with
    ⟨algorithms, ikm, result, session', stats', lookup, initialized, hreplies, heq⟩ |
    ⟨e, lookup, heq⟩
  · have hok : (process backend mode writer msg msgBytes now random findKey session stats).result =
        .ok result := by rw [heq]
    refine absurd ⟨?_, ?_, .inr ?_⟩ hserved
    · rw [hreplies.configured]
      rfl
    · rw [hreplies.material]
      rfl
    · rw [process_result hok]
      rfl
  · refine ⟨⟨e, ?_⟩, ?_, hkeys⟩
    · rw [heq]
    · rw [heq]

/-- A request that is served takes a key or succeeds, if the mode is not looked at. -/
theorem not_enforces_of_served (hmode : msg.handshakeMode ≠ mode.handshakeMode)
    (hserved : Served backend mode writer msg random findKey) :
    ¬ Enforces mode findKey msg session
      (process backend mode writer msg msgBytes now random findKey session stats) := by
  intro henforces
  obtain ⟨hconfigure, hmaterial, hwrite⟩ := hserved
  cases hspec : Algorithms.configureSpec backend msg.spec with
  | error e =>
      rw [hspec] at hconfigure
      cases hconfigure
  | ok algorithms =>
      cases mode with
      | sharedSecret secret =>
          have hfields : msg.modeEphemeral.length = Consts.nonceLength ∧ msg.modeData = [] := by
            by_contra hnot
            simp only [material, if_neg hnot] at hmaterial
            cases hmaterial
          rcases hwrite with hqkd | hwrite
          · cases hqkd
          · cases hresult : writer.write (replyMessage backend (.sharedSecret secret) random).write
              with
            | error e =>
                rw [hresult] at hwrite
                cases hwrite
            | ok result =>
                have hok : (process backend (.sharedSecret secret) writer msg msgBytes now random
                    findKey session stats).result = .ok result := by
                  simp only [replyMessage] at hresult
                  simp only [process, hfields.1, hfields.2, hspec, ne_eq, not_true_eq_false,
                    if_false, reply, hresult]
                exact hmode (henforces.success result hok)
      | qkd =>
          have hfields : msg.modeEphemeral = [] ∧ msg.modeData.length = 8 := by
            by_contra hnot
            simp only [material, if_neg hnot] at hmaterial
            cases hmaterial
          obtain ⟨-, -, hkeys⟩ := henforces.refused hmode
          have hnone := hkeys (UInt64.ofNat (ofBigEndian msg.modeData)) (by
            simp only [process, hfields.1, hfields.2, hspec, ne_eq, not_true_eq_false, if_false]
            cases findKey (UInt64.ofNat (ofBigEndian msg.modeData)) with
            | none => rfl
            | some secret => exact reply_lookup)
          simp only [material, if_pos hfields, hnone] at hmaterial
          cases hmaterial
      | publicKey staticKeys certHandler => exact hmode (mode_of_material hmaterial)

end Mode

/-- **Handshake modes.**  A responder enforces its mode for every request if it uses public keys.
In general it does so exactly if the request names its mode, or would not be served anyway. -/
theorem mode_enforced_iff (backend : CryptoBackend) (writer : FrameWriter)
    (msg : RequestHandshakeBegin) (msgBytes : Bytes) (now : Time) (random : Random)
    (findKey : UInt64 → Option Bytes) (session : Session) (stats : SessionStatistics) :
    (∀ mode, (Enforces mode findKey msg session
        (process backend mode writer msg msgBytes now random findKey session stats) ↔
      msg.handshakeMode = mode.handshakeMode ∨
        ¬ Served backend mode writer msg random findKey)) ∧
    (∀ staticKeys certHandler, Enforces (.publicKey staticKeys certHandler) findKey msg session
      (process backend (.publicKey staticKeys certHandler) writer msg msgBytes now random findKey
        session stats)) := by
  have hiff : ∀ mode, (Enforces mode findKey msg session
      (process backend mode writer msg msgBytes now random findKey session stats) ↔
      msg.handshakeMode = mode.handshakeMode ∨
        ¬ Served backend mode writer msg random findKey) := by
    intro mode
    constructor
    · intro henforces
      by_contra hnot
      rw [not_or, not_not] at hnot
      exact not_enforces_of_served hnot.1 hnot.2 henforces
    · rintro (hmode | hserved)
      · exact ⟨fun _ _ => hmode, fun hne => absurd hmode hne⟩
      · obtain ⟨⟨e, herror⟩, hsession, hkeys⟩ := refused_of_not_served hserved
        refine ⟨?_, fun _ => ⟨⟨e, herror⟩, hsession, hkeys⟩⟩
        intro result hok
        rw [herror] at hok
        cases hok
  refine ⟨hiff, fun staticKeys certHandler => (hiff _).mpr ?_⟩
  by_cases hmode : msg.handshakeMode = certHandler.mode
  · exact .inl hmode
  · exact .inr fun hserved => hmode (mode_of_material hserved.2.1)

end ResponderMode

namespace HandshakeChecks

/-- A responder with a shared secret serves a request for public keys, and one with a key store
serves a request for shared secrets and takes the key that the request names. -/
theorem mode_not_enforced :
    ((ResponderMode.process backend (.sharedSecret key) (.raw 4092) (request .publicKeys key [])
        (requestBytes (request .publicKeys key [])) 0 random (fun _ => none) Session.create
        SessionStatistics.zero).result.isOk = true) ∧
    ((ResponderMode.process backend .qkd (.raw 4092)
        (request .sharedSecret [] (bigEndian 8 5))
        (requestBytes (request .sharedSecret [] (bigEndian 8 5))) 0 random
        (fun id => if id = 5 then some key else none) Session.create
        SessionStatistics.zero).result.isOk = true ∧
      (ResponderMode.process backend .qkd (.raw 4092)
        (request .sharedSecret [] (bigEndian 8 5))
        (requestBytes (request .sharedSecret [] (bigEndian 8 5))) 0 random
        (fun id => if id = 5 then some key else none) Session.create
        SessionStatistics.zero).lookup = some 5) := by
  decide +kernel

end HandshakeChecks

/-! ## All or nothing -/

namespace ResponderMode

/-- The key derivation sets both keys to 32 bytes. -/
def DerivesKeys (backend : CryptoBackend) : Prop :=
  ∀ salt inputKeyMaterial,
    (backend.hkdfSha256 salt inputKeyMaterial).1.length = Consts.symmetricKeyLength ∧
      (backend.hkdfSha256 salt inputKeyMaterial).2.length = Consts.symmetricKeyLength

/-- `Session::initialize` has succeeded, with the time and the limits given and the keys of the
transcript: those of the request and of the reply that was written. -/
structure Reinitialized (backend : CryptoBackend) (mode : ResponderMode)
    (msg : RequestHandshakeBegin) (msgBytes : Bytes) (now : Time) (random : Random)
    (findKey : UInt64 → Option Bytes) (written : Bytes) (outcome : Outcome) : Prop where
  initialized : outcome.initialized = true
  valid : outcome.session.valid = true
  nonces : outcome.session.rxNonce = 0 ∧ outcome.session.txNonce = 0
  parameters : outcome.session.parameters =
    ⟨now, msg.constraints.maxNonce, milliseconds msg.constraints.maxSessionDuration⟩
  algorithms : outcome.session.algorithms =
    ⟨msg.spec.sessionNonceMode, msg.spec.sessionCryptoMode⟩
  keys : ∃ ikm, material backend mode msg random findKey = some ikm ∧
    (outcome.session.keys.rxKey, outcome.session.keys.txKey) =
      backend.hkdfSha256 (handshakeHash backend.hashSha256 msgBytes written) ikm

/-- The frame holds the reply, and the reply only. -/
structure Encodes (backend : CryptoBackend) (mode : ResponderMode) (writer : FrameWriter)
    (random : Random) (result : FrameWriter.WriteResult) : Prop where
  written : result.written = encMessage .replyHandshakeBegin ReplyHandshakeBegin.fieldsSpec
    (replyMessage backend mode random)
  read : ReplyHandshakeBegin.read result.written = .ok (replyMessage backend mode random)
  frame : result.frame = writer.frame result.written

/-- **Atomicity of the responder's handshakes.**  In every mode, for every request, time, frame
writer and session: the request succeeds exactly if the session has been initialized, with the
values of this handshake and with the reply that is returned; on every error the session and its
counters are as before. -/
theorem process_atomic (backend : CryptoBackend) (hkdf : DerivesKeys backend)
    (mode : ResponderMode) (writer : FrameWriter) (msg : RequestHandshakeBegin) (msgBytes : Bytes)
    (now : Time) (random : Random) (findKey : UInt64 → Option Bytes) (session : Session)
    (stats : SessionStatistics) :
    let outcome := process backend mode writer msg msgBytes now random findKey session stats
    (outcome.result.isOk = outcome.initialized) ∧
    (∀ result, outcome.result = .ok result →
      Reinitialized backend mode msg msgBytes now random findKey result.written outcome ∧
        Encodes backend mode writer random result) ∧
    (∀ e, outcome.result = .error e → outcome.session = session ∧ outcome.stats = stats) := by
  rcases process_settles backend mode writer msg msgBytes now random findKey session stats with
    ⟨algorithms, ikm, result, session', stats', lookup, initialized, hreplies, heq⟩ |
    ⟨e, lookup, heq⟩
  · obtain ⟨hconfigured, hmaterial, hwritten, hframed, hinitialized, hsession⟩ := hreplies
    have halgorithms := Algorithms.configureSpec_ok hconfigured
    have hkeys : (derived backend algorithms msg msgBytes result.written ikm now).keys =
        ⟨(backend.hkdfSha256 (handshakeHash backend.hashSha256 msgBytes result.written) ikm).1,
          (backend.hkdfSha256 (handshakeHash backend.hashSha256 msgBytes result.written)
            ikm).2⟩ := by
      rw [derived, Algorithms.Handshake.kdfWith_eq, Algorithms.Handshake.hashWith_eq]
    have hvalid : initialized = true := by
      obtain ⟨hrx, htx⟩ := hkdf (handshakeHash backend.hashSha256 msgBytes result.written) ikm
      rw [hinitialized, hkeys, SessionKeys.valid, hrx, htx]
      rfl
    rw [if_pos hvalid] at hsession
    obtain ⟨hfits, hbytes, -⟩ := writeMessage_ok ReplyHandshakeBegin.fieldsSpec hwritten
      writer.room_lt
    rw [heq]
    refine ⟨hvalid.symm, ?_, fun _ herror => by cases herror⟩
    intro _ hresult
    cases hresult
    refine ⟨⟨hvalid, ?_, ?_, ?_, ?_, ikm, hmaterial, ?_⟩, hbytes, ?_, hframed⟩
    · rw [hsession]
      rfl
    · rw [hsession]
      exact ⟨rfl, rfl⟩
    · rw [hsession]
      rfl
    · rw [hsession]
      exact congrArg Algorithms.Common.session halgorithms
    · change (session'.keys.rxKey, session'.keys.txKey) = _
      rw [hsession, hkeys]
    · rw [hbytes]
      exact readMessage_encMessage ReplyHandshakeBegin.fieldsSpec _ hfits
  · rw [heq]
    refine ⟨rfl, ?_, fun _ _ => ⟨rfl, rfl⟩⟩
    intro result hok
    cases hok

end ResponderMode

theorem Sodium.backend_derivesKeys (sodium : Sodium) (behind : Bytes) :
    ResponderMode.DerivesKeys (sodium.backend behind) := by
  intro salt inputKeyMaterial
  exact ⟨sodium.hmac_length _ _, sodium.hmac_length _ _⟩

namespace HandshakeChecks

theorem process_atomic_certificates :
    (ResponderMode.process backend (.publicKey staticKeys (.industrial anchor (chain key)))
        (.link 1 10 4092) (request .industrialCertificates key (chain key))
        (requestBytes (request .industrialCertificates key (chain key))) 7 random (fun _ => none)
        Session.create SessionStatistics.zero).result.isOk =
      (ResponderMode.process backend (.publicKey staticKeys (.industrial anchor (chain key)))
        (.link 1 10 4092) (request .industrialCertificates key (chain key))
        (requestBytes (request .industrialCertificates key (chain key))) 7 random (fun _ => none)
        Session.create SessionStatistics.zero).initialized ∧
    (ResponderMode.process backend (.publicKey staticKeys (.industrial anchor (chain key)))
        (.link 1 10 4092) (request .industrialCertificates key (chain key))
        (requestBytes (request .industrialCertificates key (chain key))) 7 random (fun _ => none)
        Session.create SessionStatistics.zero).initialized = true :=
  ⟨(ResponderMode.process_atomic backend (Sodium.sample.backend_derivesKeys []) _ _ _ _ _ _ _ _
    _).1, by decide +kernel⟩

end HandshakeChecks

end Ssp21
