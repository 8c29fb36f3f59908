import Ssp21.Crypto.Handshake

/-!
# Mirrored sessions

An initiator and a responder that are configured for each other derive the same
keys from one pair of handshake messages, with the directions exchanged, and agree
on everything else that a session depends on.

* `Agree` says what it means for two modes to be configured for each other.
* `material_agree`: both sides feed the same input key material to the derivation.
* `derived_mirrors`: the derived sessions mirror each other.
-/

namespace Ssp21

open Wire

namespace CertificateHandler

/-- The public key in the last certificate of a chain. -/
def endpointKey (certificateData : Bytes) : Option Bytes :=
  match readAll CertificateChain.codec certificateData with
  | .error _ => none
  | .ok chain =>
      match chain.certificates.1.getLast? with
      | none => none
      | some envelope =>
          match readAll CertificateBody.codec envelope.certificateBody with
          | .error _ => none
          | .ok body => some body.publicKey

/-- The handler of one party is set up for a peer whose static public key is `key`:
it was given that key, or the peer presents a certificate for it. -/
def SetUpFor (handler peer : CertificateHandler) (key : Bytes) : Prop :=
  match handler with
  | presharedKey remoteStaticPublicKey => remoteStaticPublicKey = key
  | industrial _ _ => endpointKey peer.certificateData = some key

/-- Whatever the anchor, the key that a handler extracts is the peer's own. -/
theorem validate_key {backend : CryptoBackend} {handler peer : CertificateHandler}
    {key extracted : Bytes} (hsetup : handler.SetUpFor peer key) {mode : HandshakeMode}
    (hvalidate : handler.validate backend mode peer.certificateData = .ok extracted) :
    extracted = key := by
  cases handler with
  | presharedKey remote =>
      simp only [validate] at hvalidate
      split_ifs at hvalidate
      cases hvalidate
      exact hsetup
  | industrial anchor presented =>
      simp only [validate] at hvalidate
      split_ifs at hvalidate
      simp only [SetUpFor, endpointKey] at hsetup
      split at hvalidate
      · cases hvalidate
      · rename_i chain hchain
        split at hvalidate
        · cases hvalidate
        · rename_i endpoint hverify
          cases hvalidate
          simp only [hchain] at hsetup
          split at hsetup
          · cases hsetup
          · rename_i last hlast
            rw [Chain.verify_endpoint hverify hlast] at hsetup
            exact Option.some.inj hsetup

end CertificateHandler

/-- The public key belongs to the private key. -/
def KeyPair.Consistent (backend : CryptoBackend) (keys : KeyPair) : Prop :=
  keys.publicKey = backend.publicKeyX25519 keys.privateKey

theorem genKeypairX25519_consistent (backend : CryptoBackend) (random : Random) :
    (genKeypairX25519 backend random).Consistent backend :=
  rfl

/-- Two modes that are configured for each other. -/
inductive Agree (backend : CryptoBackend) : InitiatorMode → ResponderMode → Prop
  | sharedSecret (suite : CryptoSuite) (key : Bytes) :
      Agree backend (.sharedSecret suite key) (.sharedSecret key)
  | qkd (suite : CryptoSuite) : Agree backend (.qkd suite) .qkd
  | publicKey {suite : DHCryptoSuite} {initiatorKeys responderKeys : StaticKeys}
      {initiatorHandler responderHandler : CertificateHandler}
      (hinitiator : initiatorKeys.Consistent backend)
      (hresponder : responderKeys.Consistent backend)
      (hforward : initiatorHandler.SetUpFor responderHandler responderKeys.publicKey)
      (hbackward : responderHandler.SetUpFor initiatorHandler initiatorKeys.publicKey) :
      Agree backend (.publicKey suite initiatorKeys initiatorHandler)
        (.publicKey responderKeys responderHandler)

/-- A Diffie-Hellman function in which the order of the parties does not matter. -/
def CryptoBackend.Commutes (backend : CryptoBackend) : Prop :=
  ∀ a b, backend.dhX25519 a (backend.publicKeyX25519 b) =
    backend.dhX25519 b (backend.publicKeyX25519 a)

/-- The lookup yields no other key for an identifier than the source handed out. -/
def LookupMatches (keyRecord : Option KeyRecord) (findKey : UInt64 → Option Bytes) : Prop :=
  ∀ record key secret, keyRecord = some record → record.key = some key →
    findKey record.id = some secret → secret = key

/-- The two sessions of one handshake. -/
structure Mirrors (initiator responder : Session) : Prop where
  forward : initiator.keys.txKey = responder.keys.rxKey
  backward : initiator.keys.rxKey = responder.keys.txKey
  maxNonce : initiator.parameters.maxNonce = responder.parameters.maxNonce
  maxSessionTime : initiator.parameters.maxSessionTime = responder.parameters.maxSessionTime
  algorithms : initiator.algorithms = responder.algorithms

/-- The three results come out in the order in which the other side uses them. -/
theorem TripleDH.compute_swapped {backend : CryptoBackend} (hcommutes : backend.Commutes)
    {initiatorKeys responderKeys initiatorEphemeral responderEphemeral : KeyPair}
    (hinitiator : initiatorKeys.Consistent backend) (hresponder : responderKeys.Consistent backend)
    (hinitiatorEph : initiatorEphemeral.Consistent backend)
    (hresponderEph : responderEphemeral.Consistent backend) {here there : TripleDH}
    (hhere : compute backend.dhX25519 initiatorKeys initiatorEphemeral responderKeys.publicKey
      responderEphemeral.publicKey = .ok here)
    (hthere : compute backend.dhX25519 responderKeys responderEphemeral initiatorKeys.publicKey
      initiatorEphemeral.publicKey = .ok there) :
    here.dh1 = there.dh1 ∧ here.dh3 = there.dh2 ∧ here.dh2 = there.dh3 := by
  unfold KeyPair.Consistent at hinitiator hresponder hinitiatorEph hresponderEph
  rw [hresponder, hresponderEph] at hhere
  rw [hinitiator, hinitiatorEph] at hthere
  simp only [compute, hcommutes responderEphemeral.privateKey initiatorEphemeral.privateKey,
    hcommutes responderEphemeral.privateKey initiatorKeys.privateKey,
    hcommutes responderKeys.privateKey initiatorEphemeral.privateKey] at hhere hthere
  split at hhere
  · cases hhere
  · rename_i dh1 hdh1
    split at hhere
    · cases hhere
    · rename_i dh2 hdh2
      split at hhere
      · cases hhere
      · rename_i dh3 hdh3
        cases hhere
        simp only [hdh1, hdh2, hdh3] at hthere
        cases hthere
        exact ⟨rfl, rfl, rfl⟩

/-- The key identifier that travels in the request is the one of the record. -/
theorem keyId_roundtrip (id : UInt64) : UInt64.ofNat (ofBigEndian (bigEndian 8 id.toNat)) = id := by
  have hlt : id.toNat < 256 ^ 8 := id.toNat_lt
  rw [ofBigEndian_bigEndian, Nat.mod_eq_of_lt hlt]
  simp

section Exchange

variable {backend : CryptoBackend} {initiator : InitiatorMode} {responder : ResponderMode}
variable {limits : SessionLimits} {handshake started : InitiatorHandshake}
variable {initiatorRandom responderRandom : Random} {keyRecord : Option KeyRecord}
variable {findKey : UInt64 → Option Bytes} {init : InitiatorHandshake.InitResult}

/-- Both sides feed the same input key material to the derivation. -/
theorem material_agree (hcommutes : backend.Commutes) (hagree : Agree backend initiator responder)
    (hlookup : LookupMatches keyRecord findKey)
    (hinit : handshake.initializeNewHandshake backend initiator initiatorRandom keyRecord =
      (some init, started))
    {here there : List Bytes} (requestData : Bytes) (now : Time)
    (hhere : InitiatorHandshake.material backend initiator
      (started.finalizeRequestTx backend initiator requestData now)
      (responder.replyMessage backend responderRandom) = some here)
    (hthere : responder.material backend (InitiatorHandshake.request initiator limits init)
      responderRandom findKey = some there) : here = there := by
  cases hagree with
  | sharedSecret suite key =>
      cases hinit
      simp only [InitiatorHandshake.material, InitiatorHandshake.finalizeRequestTx,
        ResponderMode.replyMessage] at hhere
      simp only [ResponderMode.material, InitiatorHandshake.request] at hthere
      split_ifs at hhere hthere
      cases hhere
      cases hthere
      rfl
  | qkd suite =>
      simp only [InitiatorHandshake.initializeNewHandshake] at hinit
      split at hinit
      · cases hinit
      · rename_i record
        split at hinit
        · cases hinit
        · rename_i key hkey
          cases hinit
          simp only [InitiatorHandshake.material, InitiatorHandshake.finalizeRequestTx,
            ResponderMode.replyMessage, and_self, if_true] at hhere
          simp only [ResponderMode.material, InitiatorHandshake.request, keyId_roundtrip] at hthere
          split_ifs at hthere
          cases hfind : findKey record.id with
          | none =>
              rw [hfind] at hthere
              cases hthere
          | some secret =>
              rw [hfind] at hthere
              cases hhere
              cases hthere
              rw [hlookup record key secret rfl hkey hfind]
  | @publicKey suite initiatorKeys responderKeys initiatorHandler responderHandler hinitiator
      hresponder hforward hbackward =>
      cases hinit
      simp only [InitiatorHandshake.material, InitiatorHandshake.finalizeRequestTx,
        ResponderMode.replyMessage] at hhere
      obtain ⟨initiatorKey, dh', hinitiatorKey, hdh', rfl⟩ :=
        ResponderMode.material_publicKey hthere
      split at hhere
      · cases hhere
      · rename_i responderKey hresponderKey
        split at hhere
        · cases hhere
        · rename_i dh hdh
          cases hhere
          rw [CertificateHandler.validate_key hforward hresponderKey] at hdh
          rw [CertificateHandler.validate_key hbackward hinitiatorKey] at hdh'
          obtain ⟨hdh1, hdh3, hdh2⟩ := TripleDH.compute_swapped hcommutes hinitiator hresponder
            (genKeypairX25519_consistent backend initiatorRandom)
            (genKeypairX25519_consistent backend responderRandom) hdh hdh'
          rw [hdh1, hdh2, hdh3]

/-- Sessions that were derived from the same two messages and the same input key
material mirror each other. -/
theorem derived_mirrors {algorithms : Algorithms.Common}
    (hconfigure : Algorithms.configureSpec backend
      (InitiatorHandshake.request initiator limits init).spec = .ok algorithms)
    (requestData replyData : Bytes) (ikm : List Bytes) (requested processed received : Time) :
    Mirrors
      (InitiatorHandshake.derived backend initiator
        (started.finalizeRequestTx backend initiator requestData requested) replyData ikm limits
        received)
      (ResponderMode.derived backend algorithms (InitiatorHandshake.request initiator limits init)
        requestData replyData ikm processed) := by
  have halgorithms : algorithms = initiator.algorithms := Algorithms.configure_ok hconfigure
  subst halgorithms
  exact ⟨rfl, rfl, rfl, rfl, rfl⟩

/-- If the initiator can derive a session from a reply, then the responder has derived its mirror
image. -/
theorem replies_mirror (hcommutes : backend.Commutes) (hagree : Agree backend initiator responder)
    (hlookup : LookupMatches keyRecord findKey)
    (hinit : handshake.initializeNewHandshake backend initiator initiatorRandom keyRecord =
      (some init, started))
    {writer : FrameWriter} {requestData : Bytes} {requested processed received : Time}
    {pending there : Session} {algorithms : Algorithms.Common} {here ikm : List Bytes}
    {result : FrameWriter.WriteResult} {initialized : Bool}
    (hreplies : responder.Replies backend writer (InitiatorHandshake.request initiator limits init)
      requestData processed responderRandom findKey pending algorithms ikm result there initialized)
    (hmaterial : InitiatorHandshake.material backend initiator
      (started.finalizeRequestTx backend initiator requestData requested)
      (responder.replyMessage backend responderRandom) = some here)
    (hkeys : (InitiatorHandshake.derived backend initiator
      (started.finalizeRequestTx backend initiator requestData requested) result.written here limits
      received).keys.valid = true) :
    Mirrors
        (InitiatorHandshake.derived backend initiator
          (started.finalizeRequestTx backend initiator requestData requested) result.written here
          limits received) there ∧
      there = ResponderMode.derived backend algorithms
        (InitiatorHandshake.request initiator limits init) requestData result.written here
        processed := by
  have hikm := material_agree hcommutes hagree hlookup hinit requestData requested hmaterial
    hreplies.material
  subst hikm
  have hmirrors := @derived_mirrors backend initiator limits started init algorithms
    hreplies.configured requestData result.written here requested processed received
  have hvalid : (ResponderMode.derived backend algorithms
      (InitiatorHandshake.request initiator limits init) requestData result.written here
      processed).keys.valid = true := by
    have hswap := hkeys
    simp only [SessionKeys.valid, hmirrors.forward, hmirrors.backward, Bool.and_comm] at hswap
    simpa only [SessionKeys.valid, Bool.and_comm] using hswap
  have hthere := hreplies.session_eq
  rw [hreplies.initialized_eq, if_pos hvalid] at hthere
  rw [hthere]
  exact ⟨hmirrors, rfl⟩

/-- The estimated start of a session lies between the request and the reply. -/
theorem derived_sessionStart (mode : InitiatorMode) (replyData : Bytes) (ikm : List Bytes)
    {now : Time} (htime : handshake.timeRequestTx ≤ now) :
    handshake.timeRequestTx ≤
        (InitiatorHandshake.derived backend mode handshake replyData ikm limits
          now).parameters.sessionStart ∧
      (InitiatorHandshake.derived backend mode handshake replyData ikm limits
        now).parameters.sessionStart ≤ now := by
  have hbound (a b : Int) (hle : a ≤ b) : a ≤ b - (b - a) / 2 ∧ b - (b - a) / 2 ≤ b := by omega
  exact hbound handshake.timeRequestTx now htime

/-- **Mirrored sessions after an honest handshake.**  The request that the initiator
wrote is processed by the responder, and the reply is given to the initiator.  If
both succeed, the two sessions mirror each other, are fresh, and the initiator
dates the start of its session between its request and the reply. -/
theorem mirrored_sessions (hcommutes : backend.Commutes)
    (hagree : Agree backend initiator responder) (hlookup : LookupMatches keyRecord findKey)
    (hinit : handshake.initializeNewHandshake backend initiator initiatorRandom keyRecord =
      (some init, started))
    (initiatorWriter responderWriter : FrameWriter) {request reply : FrameWriter.WriteResult}
    (hrequest : initiatorWriter.write (InitiatorHandshake.request initiator limits init).write =
      .ok request)
    {requestMsg : RequestHandshakeBegin} {replyMsg : ReplyHandshakeBegin}
    (hrequestMsg : RequestHandshakeBegin.read request.written = .ok requestMsg)
    (requested processed received : Time) (session pending : Session)
    (stats stats' : SessionStatistics)
    (hprocess : (responder.process backend responderWriter requestMsg request.written processed
      responderRandom findKey pending stats').result = .ok reply)
    (hreplyMsg : ReplyHandshakeBegin.read reply.written = .ok replyMsg)
    (hsuccess : (InitiatorHandshake.initializeSession backend initiator
      (started.finalizeRequestTx backend initiator request.written requested) replyMsg
      reply.written limits received session stats).success = true) :
    let here := (InitiatorHandshake.initializeSession backend initiator
      (started.finalizeRequestTx backend initiator request.written requested) replyMsg
      reply.written limits received session stats).session
    let there := (responder.process backend responderWriter requestMsg request.written processed
      responderRandom findKey pending stats').session
    Mirrors here there ∧ (here.valid = true ∧ there.valid = true) ∧
      (here.rxNonce = 0 ∧ here.txNonce = 0 ∧ there.rxNonce = 0 ∧ there.txNonce = 0) ∧
      requested ≤ here.parameters.sessionStart ∧ here.parameters.sessionStart ≤ received := by
  -- what travels is what was written
  have hsame : requestMsg = InitiatorHandshake.request initiator limits init :=
    readMessage_of_write RequestHandshakeBegin.fieldsSpec (FrameWriter.write_ok hrequest).1
      (FrameWriter.room_lt _) hrequestMsg
  subst hsame
  rcases ResponderMode.process_settles backend responder responderWriter
    (InitiatorHandshake.request initiator limits init) request.written processed responderRandom
    findKey pending stats' with
    ⟨algorithms, there, result, pending', stats₁, lookup, initialized, hreplies, heq⟩ |
    ⟨e, lookup, heq⟩
  · rw [heq] at hprocess
    cases hprocess
    have hreplySame : replyMsg = responder.replyMessage backend responderRandom :=
      readMessage_of_write ReplyHandshakeBegin.fieldsSpec hreplies.written
        (FrameWriter.room_lt _) hreplyMsg
    subst hreplySame
    rcases InitiatorHandshake.initializeSession_cases backend initiator
      (started.finalizeRequestTx backend initiator request.written requested)
      (responder.replyMessage backend responderRandom) reply.written limits received session stats
      with ⟨here, handshake', stats₂, hmaterial, htime, hkeys, hok⟩ | ⟨handshake', hfail⟩
    · obtain ⟨hmirrors, hpending⟩ :=
        replies_mirror hcommutes hagree hlookup hinit hreplies hmaterial
        hkeys
      rw [hpending] at hmirrors
      simp only [hok, heq, hpending]
      exact ⟨hmirrors, ⟨rfl, rfl⟩, ⟨rfl, rfl, rfl, rfl⟩,
        derived_sessionStart initiator reply.written here htime⟩
    · rw [hfail] at hsuccess
      cases hsuccess
  · rw [heq] at hprocess
    cases hprocess

end Exchange

namespace MirroredSessions

/-! ## One exchange with preshared public keys -/

theorem sample_commutes (behind : Bytes) : (Sodium.sample.backend behind).Commutes := by
  intro a b
  simp only [Sodium.backend, Sodium.sample]
  rw [List.zipWith_comm_of_comm (fun x y => UInt8.add_comm x y)]

def backend : CryptoBackend := Sodium.sample.backend []

theorem length_seeded (seed : UInt8) : (List.replicate 32 seed).length = Consts.nonceLength :=
  List.length_replicate

def random (seed : UInt8) : Random := ⟨List.replicate 32 seed, length_seeded seed⟩

def staticKeys (seed : UInt8) : StaticKeys := genKeypairX25519 backend (random seed)

def initiator : InitiatorMode :=
  .publicKey ⟨⟨.sha256, .hkdfSha256, .strictIncrement, .aes256Gcm⟩, .x25519⟩ (staticKeys 1)
    (.presharedKey (staticKeys 2).publicKey)

def responder : ResponderMode :=
  .publicKey (staticKeys 2) (.presharedKey (staticKeys 1).publicKey)

def limits : SessionLimits := ⟨100, 60000⟩

def init : InitiatorHandshake.InitResult := ⟨(staticKeys 3).publicKey, []⟩

def started : InitiatorHandshake :=
  { InitiatorHandshake.create with localEphemeralKeys := staticKeys 3 }

def request : Bytes :=
  encMessage .requestHandshakeBegin RequestHandshakeBegin.fieldsSpec
    (InitiatorHandshake.request initiator limits init)

def reply : Bytes :=
  encMessage .replyHandshakeBegin ReplyHandshakeBegin.fieldsSpec
    (responder.replyMessage backend (random 4))

theorem mirrored_sessions_preshared :
    let here := (InitiatorHandshake.initializeSession backend initiator
      (started.finalizeRequestTx backend initiator request 1000)
      (responder.replyMessage backend (random 4)) reply limits 3000 Session.create
      SessionStatistics.zero).session
    let there := (responder.process backend (.raw 1024)
      (InitiatorHandshake.request initiator limits init) request 70 (random 4) (fun _ => none)
      Session.create SessionStatistics.zero).session
    Mirrors here there ∧ (here.valid = true ∧ there.valid = true) ∧
      (here.rxNonce = 0 ∧ here.txNonce = 0 ∧ there.rxNonce = 0 ∧ there.txNonce = 0) ∧
      1000 ≤ here.parameters.sessionStart ∧ here.parameters.sessionStart ≤ 3000 :=
  @mirrored_sessions backend initiator responder limits InitiatorHandshake.create started (random 3)
    (random 4) none (fun _ => none) init (sample_commutes [])
    (.publicKey (genKeypairX25519_consistent _ _) (genKeypairX25519_consistent _ _) rfl rfl)
    (by intro record key secret hrecord; cases hrecord) rfl (.raw 1024) (.raw 1024)
    ⟨request, request⟩ ⟨reply, reply⟩ (by decide +kernel)
    (InitiatorHandshake.request initiator limits init) (responder.replyMessage backend (random 4))
    (by decide +kernel) 1000 70 3000 Session.create Session.create SessionStatistics.zero
    SessionStatistics.zero (by decide +kernel) (by decide +kernel) (by decide +kernel)

end MirroredSessions

end Ssp21
