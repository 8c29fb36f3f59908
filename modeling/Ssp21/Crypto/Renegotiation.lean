import Ssp21.Crypto.Conversation

/-!
# Renegotiation between two parties

`Phase` says how far two parties and the messages between them are, from one session to the next.

* `settled`: both have the same active session, and the messages on the way belong to it, but for a
  request and its reply, which may be on the way as well (`Handshaking`).
* `offered`: the initiator has sent the auth message of the next session, and sends nothing behind
  it.  The messages in front of it still belong to the old session, for both directions.
* `answered`: the responder has moved on to the next session and has answered.  In front of the
  answer are messages of the old session, behind it messages of the new one.

A party that reads finds one of three things (`ResponderReads`, `InitiatorReads`): data for its
active session, a message of the handshake, or an auth message for its pending session.  No act
that refuses a session message is possible, and every act leads to a phase again.
-/

namespace Ssp21

open Wire

/-- What two configurations need so that the parties understand each other. -/
structure Pairing.Compatible (pairing : Pairing) : Prop where
  agree : Agree pairing.backend pairing.initiatorConfig.mode pairing.responderMode
  commutes : pairing.backend.Commutes
  decrypts : pairing.backend.Decrypts
  initiatorRoom : SessionMode.Room pairing.initiatorConfig.mode.cryptoSuite.base.sessionCryptoMode
    pairing.initiatorContext.payloadBufferLength
  responderRoom : SessionMode.Room pairing.initiatorConfig.mode.cryptoSuite.base.sessionCryptoMode
    pairing.responderContext.payloadBufferLength

theorem Pairing.Compatible.toResponder {pairing : Pairing} (hcompatible : pairing.Compatible) :
    pairing.initiatorContext.Readable pairing.responderContext :=
  ⟨pairing.backend_eq, hcompatible.decrypts⟩

theorem Pairing.Compatible.toInitiator {pairing : Pairing} (hcompatible : pairing.Compatible) :
    pairing.responderContext.Readable pairing.initiatorContext :=
  ⟨pairing.backend_eq.symm, by rw [pairing.backend_eq]; exact hcompatible.decrypts⟩

/-! ## Messages of sessions and of handshakes -/

namespace Transmission

def isSession (transmission : Transmission) : Bool :=
  (SessionData.read transmission.written).isOk

variable {transmission : Transmission}

theorem isSession_of_read {msg : SessionData}
    (hread : SessionData.read transmission.written = .ok msg) : transmission.isSession = true := by
  rw [isSession, hread]
  rfl

theorem isSession_eq_false_iff :
    transmission.isSession = false ↔ Foreign transmission.written := by
  rw [isSession, Foreign]
  cases SessionData.read transmission.written with
  | error e => simp [Except.isOk, Except.toBool]
  | ok msg => simp [Except.isOk, Except.toBool]

end Transmission

/-- The messages that belong to sessions. -/
def datas (messages : List Transmission) : List Transmission :=
  messages.filter Transmission.isSession

/-- The messages of handshakes. -/
def controls (messages : List Transmission) : List Transmission :=
  messages.filter fun transmission => !transmission.isSession

section Lists

variable {transmission : Transmission} {messages : List Transmission}

theorem datas_cons_session (hsession : transmission.isSession = true) :
    datas (transmission :: messages) = transmission :: datas messages :=
  List.filter_cons_of_pos hsession

theorem controls_cons_session (hsession : transmission.isSession = true) :
    controls (transmission :: messages) = controls messages :=
  List.filter_cons_of_neg (by simp [hsession])

theorem datas_cons_foreign (hforeign : Foreign transmission.written) :
    datas (transmission :: messages) = datas messages :=
  List.filter_cons_of_neg (by simp [Transmission.isSession_eq_false_iff.mpr hforeign])

theorem controls_cons_foreign (hforeign : Foreign transmission.written) :
    controls (transmission :: messages) = transmission :: controls messages :=
  List.filter_cons_of_pos (by simp [Transmission.isSession_eq_false_iff.mpr hforeign])

theorem datas_concat_session (hsession : transmission.isSession = true) :
    datas (messages ++ [transmission]) = datas messages ++ [transmission] := by
  rw [datas, List.filter_append, List.filter_cons_of_pos hsession, List.filter_nil, datas]

theorem controls_concat_session (hsession : transmission.isSession = true) :
    controls (messages ++ [transmission]) = controls messages := by
  rw [controls, List.filter_append, List.filter_cons_of_neg (by simp [hsession]), List.filter_nil,
    List.append_nil, controls]

theorem datas_concat_foreign (hforeign : Foreign transmission.written) :
    datas (messages ++ [transmission]) = datas messages := by
  have hcontrol := Transmission.isSession_eq_false_iff.mpr hforeign
  rw [datas, List.filter_append, List.filter_cons_of_neg (by simp [hcontrol]), List.filter_nil,
    List.append_nil, datas]

theorem controls_concat_foreign (hforeign : Foreign transmission.written) :
    controls (messages ++ [transmission]) = controls messages ++ [transmission] := by
  have hcontrol := Transmission.isSession_eq_false_iff.mpr hforeign
  rw [controls, List.filter_append, List.filter_cons_of_pos (by simp [hcontrol]), List.filter_nil,
    controls]

theorem datas_of_sessions (hsessions : ∀ message ∈ messages, message.isSession = true) :
    datas messages = messages :=
  List.filter_eq_self.mpr hsessions

theorem controls_of_sessions (hsessions : ∀ message ∈ messages, message.isSession = true) :
    controls messages = [] :=
  List.filter_eq_nil_iff.mpr fun message hmem => by simp [hsessions message hmem]

theorem datas_of_no_controls (hcontrols : controls messages = []) : datas messages = messages := by
  refine datas_of_sessions fun message hmem => ?_
  simpa using List.filter_eq_nil_iff.mp hcontrols message hmem

end Lists

/-- Messages on the way between two ends of a session belong to sessions. -/
theorem Connects.isSession {ctx : SessionContext} {sender receiver : Session}
    {messages : List Transmission} (hconnects : Connects ctx sender receiver messages) :
    ∀ message ∈ messages, message.isSession = true := by
  rcases hconnects with hflows | ⟨-, -, rfl⟩
  · intro message hmem
    obtain ⟨index, hindex, rfl⟩ := List.getElem_of_mem hmem
    obtain ⟨msg, hread, -⟩ := hflows.inOrder.get (by simpa using hindex) hindex
    exact Transmission.isSession_of_read hread
  · simp

/-! ## Phases -/

/-- The part of an endpoint that a handshake is about. -/
structure Stance where
  state : HandshakeState
  handshake : InitiatorHandshake
  /-- how many times the state is still to be left for the idle one -/
  entering : Nat
  active : Session
  pending : Session

def Endpoint.stance (e : Endpoint) : Stance :=
  ⟨e.state, e.handshake, e.entering, e.active, e.pending⟩

section Phases

variable (pairing : Pairing) (store : UInt64 → Option Bytes)

/-- `written` is the request that the initiator's handshake was started with. -/
inductive Asked (handshake : InitiatorHandshake) (written : Bytes) : Prop
  | intro {before started : InitiatorHandshake} {random : Random} {keyRecord : Option KeyRecord}
      {init : InitiatorHandshake.InitResult} {now : Time}
      (hkeys : ∀ record ∈ keyRecord, ∀ key ∈ record.key, store record.id = some key)
      (hinit : before.initializeNewHandshake pairing.backend pairing.initiatorConfig.mode random
        keyRecord = (some init, started))
      (hrequested : Requested pairing.initiatorContext pairing.initiatorConfig init written)
      (hhandshake : handshake = started.finalizeRequestTx pairing.backend
        pairing.initiatorConfig.mode written now)

/-- The sessions are two ends of one, and the responder's is new. -/
structure Joins (initiator responder : Session) : Prop where
  forward : initiator.terms.Serves pairing.responderContext responder.terms
  backward : responder.terms.Serves pairing.initiatorContext initiator.terms
  valid : responder.valid = true
  rxNonce : responder.rxNonce = 0
  txNonce : responder.txNonce = 0

/-- A session that the initiator can derive from the reply has its other end at the responder. -/
def Promised (handshake : InitiatorHandshake) (pending : Session) (written : Bytes) : Prop :=
  ∀ msg ikm now, ReplyHandshakeBegin.read written = .ok msg →
    handshake.material pairing.backend pairing.initiatorConfig.mode msg = some ikm →
    (handshake.derived pairing.backend pairing.initiatorConfig.mode written ikm
      pairing.initiatorConfig.sessionLimits now).keys.valid = true →
    Joins pairing (handshake.derived pairing.backend pairing.initiatorConfig.mode written ikm
      pairing.initiatorConfig.sessionLimits now) pending

/-- The request and its reply, while the active session stays: the messages of the handshake that
are on the way to the responder, and those on the way back. -/
inductive Handshaking (initiator : Stance) (pending : Session) :
    List Transmission → List Transmission → Prop
  /-- nothing is on the way, whatever the initiator waits for -/
  | resting (hentering : initiator.entering = 0 ∨
        initiator.entering = 1 ∧ initiator.state.waits = true) :
      Handshaking initiator pending [] []
  | asked {request : Transmission} (hstate : initiator.state = .waitForBeginReply)
      (hentering : initiator.entering = 0) (hdata : request.userData = [])
      (hasked : Asked pairing store initiator.handshake request.written) :
      Handshaking initiator pending [request] []
  | replied {reply : Transmission} (hstate : initiator.state = .waitForBeginReply)
      (hentering : initiator.entering = 0) (hdata : reply.userData = [])
      (hpromised : Promised pairing initiator.handshake pending reply.written) :
      Handshaking initiator pending [] [reply]

/-- How far two parties are, with the messages on the way to the responder and back. -/
inductive Phase (initiator responder : Stance) (out back : List Transmission) : Prop
  | settled (hforward : Connects pairing.responderContext initiator.active responder.active
        (datas out))
      (hbackward : Connects pairing.initiatorContext responder.active initiator.active
        (datas back))
      (hhandshaking : Handshaking pairing store initiator responder.pending (controls out)
        (controls back))
  | offered {old : List Transmission} {auth : Transmission} (hout : out = old ++ [auth])
      (hstate : initiator.state = .waitForAuthReply) (hentering : initiator.entering = 0)
      (hforward : Connects pairing.responderContext initiator.active responder.active old)
      (hbackward : Connects pairing.initiatorContext responder.active initiator.active back)
      (hauth : Carries pairing.responderContext responder.pending.terms 0 auth)
      (hjoins : Joins pairing initiator.pending responder.pending)
      (hvalid : initiator.pending.valid = true) (hrxNonce : initiator.pending.rxNonce = 0)
      (htxNonce : initiator.pending.txNonce = 1)
  | answered {sender : Session} {old new : List Transmission} {answer : Transmission}
      (hout : out = []) (hback : back = old ++ answer :: new)
      (hstate : initiator.state = .waitForAuthReply) (hentering : initiator.entering = 0)
      (hold : Connects pairing.initiatorContext sender initiator.active old)
      (hanswer : Carries pairing.initiatorContext initiator.pending.terms 0 answer)
      (hdata : answer.userData ≠ [] → initiator.active.valid = true)
      (hforward : Connects pairing.responderContext initiator.pending responder.active [])
      (hbackward : Connects pairing.initiatorContext responder.active initiator.pending new)
      (hvalid : initiator.pending.valid = true) (hrxNonce : initiator.pending.rxNonce = 0)

end Phases

section Handshaking

variable {pairing : Pairing} {store : UInt64 → Option Bytes} {initiator : Stance}
  {pending : Session} {toResponder toInitiator : List Transmission}

theorem Handshaking.active
    (hhandshaking : Handshaking pairing store initiator pending toResponder toInitiator)
    (session : Session) :
    Handshaking pairing store { initiator with active := session } pending toResponder
      toInitiator := by
  cases hhandshaking with
  | resting hentering => exact .resting hentering
  | asked hstate hentering hdata hasked => exact .asked hstate hentering hdata hasked
  | replied hstate hentering hdata hpromised => exact .replied hstate hentering hdata hpromised

/-- An initiator that does not wait is free to start a handshake. -/
theorem Handshaking.of_not_waits
    (hhandshaking : Handshaking pairing store initiator pending toResponder toInitiator)
    (hwaits : initiator.state.waits = false) :
    toResponder = [] ∧ toInitiator = [] ∧ initiator.entering = 0 := by
  cases hhandshaking with
  | resting hentering =>
      rcases hentering with hentering | ⟨-, hwaiting⟩
      · exact ⟨rfl, rfl, hentering⟩
      · rw [hwaits] at hwaiting
        cases hwaiting
  | asked hstate =>
      rw [hstate] at hwaits
      cases hwaits
  | replied hstate =>
      rw [hstate] at hwaits
      cases hwaits

end Handshaking

/-! ## Replies -/

theorem milliseconds_le_max (count : UInt32) : milliseconds count ≤ milliseconds 4294967295 := by
  have hlt : count.toNat < 4294967296 := count.toNat_lt
  change (count.toNat : Int) * 1000000 ≤ 4294967295 * 1000000
  omega

theorem Mirrors.joins {pairing : Pairing} {initiator responder : Session}
    (hmirrors : Mirrors initiator responder) (hcompatible : pairing.Compatible)
    (hmode : initiator.algorithms.sessionMode =
      pairing.initiatorConfig.mode.cryptoSuite.base.sessionCryptoMode)
    (hexpressible : initiator.parameters.maxSessionTime ≤ milliseconds 4294967295)
    (hvalid : responder.valid = true) (hrxNonce : responder.rxNonce = 0)
    (htxNonce : responder.txNonce = 0) : Joins pairing initiator responder where
  forward := ⟨hmirrors.forward.symm, hmirrors.algorithms.symm, hmirrors.maxNonce.symm,
    hmirrors.maxSessionTime.symm, hexpressible, hmode ▸ hcompatible.responderRoom⟩
  backward := ⟨hmirrors.backward, hmirrors.algorithms, hmirrors.maxNonce, hmirrors.maxSessionTime,
    by
      change responder.parameters.maxSessionTime ≤ _
      rw [← hmirrors.maxSessionTime]
      exact hexpressible,
    by
      change SessionMode.Room responder.algorithms.sessionMode _
      rw [← hmirrors.algorithms, hmode]
      exact hcompatible.initiatorRoom⟩
  valid := hvalid
  rxNonce := hrxNonce
  txNonce := htxNonce

/-- The reply to the request of a handshake keeps what it promises. -/
theorem promised_of_replies {pairing : Pairing} {store : UInt64 → Option Bytes}
    (hcompatible : pairing.Compatible) {handshake : InitiatorHandshake} {written : Bytes}
    (hasked : Asked pairing store handshake written) {msg : RequestHandshakeBegin}
    (hread : RequestHandshakeBegin.read written = .ok msg) {now : Time} {random : Random}
    {findKey : UInt64 → Option Bytes} {algorithms : Algorithms.Common} {ikm : List Bytes}
    {result : FrameWriter.WriteResult} {pending session : Session} {initialized : Bool}
    (hlookup : ∀ id, ∀ secret ∈ findKey id, store id = some secret)
    (hreplies : pairing.responderMode.Replies pairing.responderContext.backend
      pairing.responderContext.frameWriter msg written now random findKey pending algorithms ikm
      result session initialized) :
    Promised pairing handshake session result.written := by
  intro replyMsg here received hreplyMsg hmaterial hkeys
  obtain @⟨before, started, drawn, keyRecord, init, requested, hkeyRecord, hinit,
    hrequested, rfl⟩ :=
    hasked
  rw [pairing.backend_eq] at hreplies
  -- both messages are read as they were written
  have hsame := readMessage_of_write RequestHandshakeBegin.fieldsSpec hrequested
    (FrameWriter.room_lt _) hread
  subst hsame
  have hreplySame := readMessage_of_write ReplyHandshakeBegin.fieldsSpec hreplies.written
    (FrameWriter.room_lt _) hreplyMsg
  subst hreplySame
  have hmatches : LookupMatches keyRecord findKey := by
    intro record key secret hrecord hkey hfind
    have hhere := hkeyRecord record hrecord key hkey
    have hthere := hlookup record.id secret hfind
    exact Option.some.inj (hthere.symm.trans hhere)
  obtain ⟨hmirrors, hthere⟩ := replies_mirror hcompatible.commutes hcompatible.agree hmatches hinit
    hreplies hmaterial hkeys
  refine hmirrors.joins hcompatible rfl (milliseconds_le_max _) ?_ ?_ ?_
  · rw [hthere]
    rfl
  · rw [hthere]
    rfl
  · rw [hthere]
    rfl

/-! ## The responder -/

section Responder

variable {pairing : Pairing} {store : UInt64 → Option Bytes} {initiator responder : Stance}
  {transmission : Transmission} {out back : List Transmission}

/-- What the responder finds when it reads. -/
inductive ResponderReads (pairing : Pairing) (store : UInt64 → Option Bytes)
    (initiator responder : Stance) (transmission : Transmission)
    (out back : List Transmission) : Prop
  | data (msg : SessionData) (hread : SessionData.read transmission.written = .ok msg)
      (hnonce : msg.metadata.nonce ≠ 0)
      (hadmits : responder.active.Admits pairing.responderContext
        responder.active.algorithms.verifyNonce.verify msg transmission.userData)
      (hphase : Phase pairing store initiator
        { responder with active :=
          { responder.active with rxNonce := msg.metadata.nonce } } out back)
  | request (hforeign : Foreign transmission.written) (hdata : transmission.userData = [])
      (hasked : Asked pairing store initiator.handshake transmission.written)
      (hrest : ∀ pending, Phase pairing store initiator
        { responder with pending := pending } out back)
      (hreplied : ∀ pending (reply : Transmission), Foreign reply.written →
        reply.userData = [] → Promised pairing initiator.handshake pending reply.written →
        Phase pairing store initiator { responder with pending := pending } out (back ++ [reply]))
  | auth (msg : SessionData) (hread : SessionData.read transmission.written = .ok msg)
      (hnonce : msg.metadata.nonce = 0)
      (hadmits : responder.pending.Admits pairing.responderContext SessionNonceMode.equalToZero msg
        transmission.userData)
      (hanswered : ∀ now cleartext rest formatted pending,
        responder.pending.Formats pairing.responderContext now cleartext rest formatted →
        (formatted.userData ≠ [] → responder.active.valid = true) →
        Phase pairing store initiator
          { responder with
            active := { responder.pending with rxNonce := 0, txNonce := 0 + 1 }
            pending := pending }
          out (back ++ [CryptoLayer.sessionTransmission responder.pending formatted]))

/-- An auth message is admitted by a new session. -/
theorem admits_of_carries {ctx : SessionContext} {session : Session}
    (hvalid : session.valid = true) (hrxNonce : session.rxNonce = 0)
    (hcarries : Carries ctx session.terms 0 transmission) :
    ∃ msg, SessionData.read transmission.written = .ok msg ∧ msg.metadata.nonce = 0 ∧
      session.Admits ctx SessionNonceMode.equalToZero msg transmission.userData := by
  obtain ⟨msg, hread, hnonce, hopens⟩ := hcarries
  have hzero : msg.metadata.nonce = 0 := UInt16.toNat_inj.mp hnonce
  refine ⟨msg, hread, hzero, hvalid, hopens, ?_⟩
  exact SessionNonceMode.equalToZero_iff.mpr ⟨hrxNonce, hzero⟩

theorem Phase.responder_reads (hcompatible : pairing.Compatible)
    (hphase : Phase pairing store initiator responder (transmission :: out) back) :
    ResponderReads pairing store initiator responder transmission out back := by
  cases hphase with
  | settled hforward hbackward hhandshaking =>
      cases hsession : transmission.isSession with
      | true =>
          rw [datas_cons_session hsession] at hforward
          rw [controls_cons_session hsession] at hhandshaking
          obtain ⟨msg, hread, hnonce, hadmits, hforward⟩ := hforward.receive
          exact .data msg hread hnonce hadmits
            (.settled hforward (hbackward.sender_rxNonce _) hhandshaking)
      | false =>
          have hforeign := Transmission.isSession_eq_false_iff.mp hsession
          rw [datas_cons_foreign hforeign] at hforward
          rw [controls_cons_foreign hforeign] at hhandshaking
          generalize hcontrols : controls out = more at hhandshaking
          generalize hcontrols' : controls back = more' at hhandshaking
          -- of the messages of a handshake only the request goes this way
          cases hhandshaking with
          | asked hstate hentering hdata hasked =>
              refine .request hforeign hdata hasked (fun pending => ?_)
                fun pending reply hforeign' hdata' hpromised => ?_
              · refine .settled hforward hbackward ?_
                rw [hcontrols, hcontrols']
                exact .resting (.inl hentering)
              · refine .settled hforward ?_ ?_
                · rw [datas_concat_foreign hforeign']
                  exact hbackward
                · rw [hcontrols, controls_concat_foreign hforeign', hcontrols']
                  exact .replied hstate hentering hdata' hpromised
  | @offered old auth hout hstate hentering hforward hbackward hauth hjoins hvalid hrxNonce
      htxNonce =>
      cases old with
      | nil =>
          -- the auth message is next; the answer follows what is on the way back under the old
          -- session, and from then on both directions belong to the new one
          obtain ⟨rfl, rfl⟩ := List.cons.inj hout
          obtain ⟨msg, hread, hnonce, hadmits⟩ :=
            admits_of_carries hjoins.valid hjoins.rxNonce hauth
          refine .auth msg hread hnonce hadmits
            fun now cleartext rest formatted pending hformats hdata => ?_
          refine .answered rfl rfl hstate hentering hbackward ?_ ?_ ?_ ?_ hvalid hrxNonce
          · have hcarries := carries_of_formats hcompatible.toInitiator hjoins.backward hformats
              (by rw [hjoins.txNonce]; exact UInt16.zero_le)
            rw [hjoins.txNonce] at hcarries
            exact hcarries
          · intro hne
            exact hbackward.valid_eq.symm.trans (hdata hne)
          · refine .inl ⟨hvalid, hjoins.valid, hjoins.forward, .nil, ?_⟩
            rw [htxNonce]
            rfl
          · refine .inl ⟨hjoins.valid, hvalid, hjoins.backward, .nil, ?_⟩
            rw [hrxNonce]
            rfl
      | cons first old =>
          obtain ⟨rfl, rfl⟩ := List.cons.inj hout
          obtain ⟨msg, hread, hnonce, hadmits, hforward⟩ := hforward.receive
          exact .data msg hread hnonce hadmits (.offered rfl hstate hentering hforward
            (hbackward.sender_rxNonce _) hauth hjoins hvalid hrxNonce htxNonce)
  -- the initiator sends nothing until it has read the answer
  | answered hout => cases hout

/-- The responder sends under its active session. -/
theorem Phase.responder_emits (hcompatible : pairing.Compatible)
    (hphase : Phase pairing store initiator responder out back) {now : Time}
    {cleartext left : Bytes} {formatted : Session.Formatted}
    (hnonce : responder.active.txNonce < responder.active.parameters.maxNonce)
    (hformats : responder.active.Formats pairing.responderContext now cleartext left formatted) :
    Phase pairing store initiator
      { responder with active := { responder.active with txNonce := responder.active.txNonce + 1 } }
      out (back ++ [CryptoLayer.sessionTransmission responder.active formatted]) := by
  have hsession : (CryptoLayer.sessionTransmission responder.active formatted).isSession = true :=
    Transmission.isSession_of_read hformats.read_wire
  cases hphase with
  | settled hforward hbackward hhandshaking =>
      refine .settled (hforward.receiver_txNonce _) ?_ ?_
      · rw [datas_concat_session hsession]
        exact hbackward.send hcompatible.toInitiator hformats hnonce
      · rw [controls_concat_session hsession]
        exact hhandshaking
  | offered hout hstate hentering hforward hbackward hauth hjoins hvalid hrxNonce htxNonce =>
      exact .offered hout hstate hentering (hforward.receiver_txNonce _)
        (hbackward.send hcompatible.toInitiator hformats hnonce) hauth hjoins hvalid
          hrxNonce htxNonce
  | @answered sender old new answer hout hback hstate hentering hold hanswer hdata hforward
      hbackward hvalid hrxNonce =>
      refine .answered hout ?_ hstate hentering hold hanswer hdata (hforward.receiver_txNonce _)
        (hbackward.send hcompatible.toInitiator hformats hnonce) hvalid hrxNonce
      rw [hback, List.append_assoc, List.cons_append]

end Responder

/-! ## The initiator -/

section Initiator

variable {pairing : Pairing} {store : UInt64 → Option Bytes} {initiator responder : Stance}
  {transmission : Transmission} {out back : List Transmission}

/-- What the initiator finds when it reads. -/
inductive InitiatorReads (pairing : Pairing) (store : UInt64 → Option Bytes)
    (initiator responder : Stance) (transmission : Transmission)
    (out back : List Transmission) : Prop
  | data (msg : SessionData) (hread : SessionData.read transmission.written = .ok msg)
      (hnonce : msg.metadata.nonce ≠ 0)
      (hadmits : initiator.active.Admits pairing.initiatorContext
        initiator.active.algorithms.verifyNonce.verify msg transmission.userData)
      (hphase : Phase pairing store
        { initiator with active := { initiator.active with rxNonce := msg.metadata.nonce } }
        responder out back)
  | reply (hforeign : Foreign transmission.written) (hdata : transmission.userData = [])
      (hrest : ∀ state handshake pending, Phase pairing store
        { initiator with state := state, handshake := handshake, pending := pending } responder out
        back)
      (hoffered : ∀ handshake msg ikm now later cleartext left formatted session,
        ReplyHandshakeBegin.read transmission.written = .ok msg →
        initiator.handshake.material pairing.backend pairing.initiatorConfig.mode msg = some ikm →
        session = initiator.handshake.derived pairing.backend pairing.initiatorConfig.mode
          transmission.written ikm pairing.initiatorConfig.sessionLimits now →
        session.keys.valid = true →
        session.Formats pairing.initiatorContext later cleartext left formatted →
        Phase pairing store
          { initiator with
            state := .waitForAuthReply
            handshake := handshake
            pending := { session with txNonce := session.txNonce + 1 } }
          responder (out ++ [CryptoLayer.sessionTransmission session formatted]) back)
  | answer (msg : SessionData) (hread : SessionData.read transmission.written = .ok msg)
      (hnonce : msg.metadata.nonce = 0) (hstate : initiator.state = .waitForAuthReply)
      (hadmits : initiator.pending.Admits pairing.initiatorContext SessionNonceMode.equalToZero msg
        transmission.userData)
      (hdata : transmission.userData ≠ [] → initiator.active.valid = true)
      (hphase : ∀ pending, Phase pairing store
        { initiator with
          entering := initiator.entering + 1
          active := { initiator.pending with rxNonce := 0 }
          pending := pending }
        responder out back)

/-- The initiator reads the answer, and is done. -/
theorem Phase.of_answer {new : List Transmission} (hstate : initiator.state = .waitForAuthReply)
    (hentering : initiator.entering = 0) (hrxNonce : initiator.pending.rxNonce = 0)
    (hforward : Connects pairing.responderContext initiator.pending responder.active [])
    (hbackward : Connects pairing.initiatorContext responder.active initiator.pending new)
    (pending : Session) :
    Phase pairing store
      { initiator with
        entering := initiator.entering + 1
        active := { initiator.pending with rxNonce := 0 }
        pending := pending }
      responder [] new := by
  have hsame : { initiator.pending with rxNonce := 0 } = initiator.pending := by
    rw [← hrxNonce]
  refine .settled ?_ ?_ ?_
  · change Connects _ { initiator.pending with rxNonce := 0 } _ _
    rw [hsame]
    exact hforward
  · change Connects _ _ { initiator.pending with rxNonce := 0 } _
    rw [hsame, datas_of_sessions hbackward.isSession]
    exact hbackward
  · rw [controls_of_sessions hbackward.isSession]
    refine .resting (.inr ⟨?_, ?_⟩)
    · change initiator.entering + 1 = 1
      rw [hentering]
    · change initiator.state.waits = true
      rw [hstate]
      rfl

theorem Phase.initiator_reads (hcompatible : pairing.Compatible)
    (hphase : Phase pairing store initiator responder out (transmission :: back)) :
    InitiatorReads pairing store initiator responder transmission out back := by
  cases hphase with
  | settled hforward hbackward hhandshaking =>
      cases hsession : transmission.isSession with
      | true =>
          rw [datas_cons_session hsession] at hbackward
          rw [controls_cons_session hsession] at hhandshaking
          obtain ⟨msg, hread, hnonce, hadmits, hbackward⟩ := hbackward.receive
          exact .data msg hread hnonce hadmits
            (.settled (hforward.sender_rxNonce _) hbackward (hhandshaking.active _))
      | false =>
          have hforeign := Transmission.isSession_eq_false_iff.mp hsession
          rw [datas_cons_foreign hforeign] at hbackward
          rw [controls_cons_foreign hforeign] at hhandshaking
          generalize hcontrols : controls out = more at hhandshaking
          generalize hcontrols' : controls back = more' at hhandshaking
          -- the request has been read when the reply is on the way, so that the auth message is
          -- behind messages of the old session only
          cases hhandshaking with
          | replied hstate hentering hdata hpromised =>
              refine .reply hforeign hdata (fun state handshake pending => ?_) ?_
              · refine .settled hforward hbackward ?_
                rw [hcontrols, hcontrols']
                exact .resting (.inl hentering)
              · intro handshake msg ikm now later cleartext left formatted session hread hmaterial
                  hsession hkeys hformats
                subst hsession
                have hjoins := hpromised msg ikm now hread hmaterial hkeys
                rw [datas_of_no_controls hcontrols] at hforward
                rw [datas_of_no_controls hcontrols'] at hbackward
                exact .offered rfl rfl hentering hforward hbackward
                  (carries_of_formats hcompatible.toResponder hjoins.forward hformats
                    UInt16.zero_le)
                  ⟨hjoins.forward, hjoins.backward, hjoins.valid, hjoins.rxNonce, hjoins.txNonce⟩
                  rfl rfl rfl
  | offered hout hstate hentering hforward hbackward hauth hjoins hvalid hrxNonce htxNonce =>
      obtain ⟨msg, hread, hnonce, hadmits, hbackward⟩ := hbackward.receive
      exact .data msg hread hnonce hadmits (.offered hout hstate hentering
        (hforward.sender_rxNonce _) hbackward hauth hjoins hvalid hrxNonce htxNonce)
  | @answered sender old new answer hout hback hstate hentering hold hanswer hdata hforward
      hbackward hvalid hrxNonce =>
      cases old with
      | nil =>
          obtain ⟨rfl, rfl⟩ := List.cons.inj hback
          obtain ⟨msg, hread, hnonce, hadmits⟩ := admits_of_carries hvalid hrxNonce hanswer
          subst hout
          exact .answer msg hread hnonce hstate hadmits hdata
            (.of_answer hstate hentering hrxNonce hforward hbackward)
      | cons first old =>
          obtain ⟨rfl, rfl⟩ := List.cons.inj hback
          obtain ⟨msg, hread, hnonce, hadmits, hold⟩ := hold.receive
          exact .data msg hread hnonce hadmits
            (.answered hout rfl hstate hentering hold hanswer hdata
            hforward hbackward hvalid hrxNonce)

/-- The initiator sends under its active session, unless it waits for the answer to an auth
message. -/
theorem Phase.initiator_emits (hcompatible : pairing.Compatible)
    (hphase : Phase pairing store initiator responder out back) {now : Time}
    {cleartext left : Bytes} {formatted : Session.Formatted}
    (hnonce : initiator.active.txNonce < initiator.active.parameters.maxNonce)
    (hformats : initiator.active.Formats pairing.initiatorContext now cleartext left formatted)
    (hwithheld : ¬ (initiator.state = .waitForAuthReply ∧ initiator.pending.valid = true)) :
    Phase pairing store
      { initiator with active := { initiator.active with txNonce := initiator.active.txNonce + 1 } }
      responder (out ++ [CryptoLayer.sessionTransmission initiator.active formatted]) back := by
  cases hphase with
  | settled hforward hbackward hhandshaking =>
      have hsession : (CryptoLayer.sessionTransmission initiator.active formatted).isSession =
          true := Transmission.isSession_of_read hformats.read_wire
      refine .settled ?_ (hbackward.receiver_txNonce _) ?_
      · rw [datas_concat_session hsession]
        exact hforward.send hcompatible.toResponder hformats hnonce
      · rw [controls_concat_session hsession]
        exact hhandshaking.active _
  -- data behind the auth message would find the responder in the next session
  | offered _ hstate _ _ _ _ _ hvalid => exact absurd ⟨hstate, hvalid⟩ hwithheld
  | answered _ _ hstate _ _ _ _ _ _ hvalid => exact absurd ⟨hstate, hvalid⟩ hwithheld

/-- Between two handshakes. -/
theorem Phase.initiator_turns (hphase : Phase pairing store initiator responder out back)
    (hwaits : initiator.state.waits = false) (state : HandshakeState)
    (handshake : InitiatorHandshake) :
    Phase pairing store { initiator with state := state, handshake := handshake } responder out
      back := by
  cases hphase with
  | settled hforward hbackward hhandshaking =>
      obtain ⟨hcontrols, hcontrols', hentering⟩ := hhandshaking.of_not_waits hwaits
      refine .settled hforward hbackward ?_
      rw [hcontrols, hcontrols']
      exact .resting (.inl hentering)
  | offered _ hstate =>
      rw [hstate] at hwaits
      cases hwaits
  | answered _ _ hstate =>
      rw [hstate] at hwaits
      cases hwaits

theorem Phase.initiator_asks (hphase : Phase pairing store initiator responder out back)
    (hwaits : initiator.state.waits = false) {handshake : InitiatorHandshake}
    {request : Transmission} (hforeign : Foreign request.written)
    (hdata : request.userData = []) (hasked : Asked pairing store handshake request.written) :
    Phase pairing store
      { initiator with state := .waitForBeginReply, handshake := handshake } responder
      (out ++ [request]) back := by
  cases hphase with
  | settled hforward hbackward hhandshaking =>
      obtain ⟨hcontrols, hcontrols', hentering⟩ := hhandshaking.of_not_waits hwaits
      refine .settled ?_ hbackward ?_
      · rw [datas_concat_foreign hforeign]
        exact hforward
      · rw [controls_concat_foreign hforeign, hcontrols, hcontrols']
        exact .asked rfl hentering hdata hasked
  | offered _ hstate =>
      rw [hstate] at hwaits
      cases hwaits
  | answered _ _ hstate =>
      rw [hstate] at hwaits
      cases hwaits

theorem Phase.initiator_enters (hphase : Phase pairing store initiator responder out back)
    {n : Nat} (hentering : initiator.entering = n + 1) :
    Phase pairing store { initiator with state := .idle, entering := n } responder out back := by
  cases hphase with
  | settled hforward hbackward hhandshaking =>
      refine .settled hforward hbackward ?_
      generalize controls out = toResponder at hhandshaking
      generalize controls back = toInitiator at hhandshaking
      cases hhandshaking with
      | resting hresting =>
          have hlast : n = 0 := by
            rcases hresting with hzero | ⟨hone, -⟩
            · omega
            · omega
          exact .resting (.inl hlast)
      | asked _ hzero => omega
      | replied _ hzero => omega
  | offered _ _ hzero => omega
  | answered _ _ _ hzero => omega

end Initiator

/-! ## Acts -/

/-- The user data in frames. -/
def carried (messages : List Transmission) : Bytes :=
  messages.flatMap Transmission.userData

theorem carried_cons (transmission : Transmission) (messages : List Transmission) :
    carried (transmission :: messages) = transmission.userData ++ carried messages :=
  List.flatMap_cons

theorem carried_append (messages new : List Transmission) :
    carried (messages ++ new) = carried messages ++ carried new :=
  List.flatMap_append

/-- Two parties with the messages between them: what has been received and what is on the way is
what has been sent. -/
structure Joint (pairing : Pairing) (store : UInt64 → Option Bytes) (initiator responder : Endpoint)
    (out back : List Transmission) : Prop where
  phase : Phase pairing store initiator.stance responder.stance out back
  /-- the responder has no use for the states of an initiator -/
  idle : responder.state = .idle
  entering : responder.entering = 0
  forward : responder.received ++ carried out = carried initiator.sent
  backward : initiator.received ++ carried back = carried responder.sent

section Acts

variable {pairing : Pairing} {store : UInt64 → Option Bytes} {initiator responder : Endpoint}
  {out back new : List Transmission} {message : Bytes} {rx rest channel : List Bytes}

/-- The next message that a party reads is the first one on the way. -/
theorem first_of_rx {messages : List Transmission}
    (hmessages : messages.map Transmission.written = rx ++ channel) (hrx : rx = message :: rest) :
    ∃ transmission messages', messages = transmission :: messages' ∧
      transmission.written = message ∧
      messages'.map Transmission.written = rest ++ channel := by
  rw [hrx, List.cons_append] at hmessages
  exact List.map_eq_cons_iff.mp hmessages

theorem Session.Admits.payload_eq {ctx : SessionContext} {verifyNonce : UInt16 → UInt16 → Bool}
    {session : Session} {msg : SessionData} {now : Time} {payload expected : Bytes}
    (hadmits : session.Admits ctx verifyNonce msg expected)
    (haccepts : session.Accepts ctx verifyNonce msg now payload) : payload = expected :=
  Except.ok.inj (haccepts.authentic.symm.trans hadmits.opens.authentic)

/-- An error is read as no reply, and promises nothing. -/
theorem promised_of_error {handshake : InitiatorHandshake} {pending : Session} {written : Bytes}
    (hfunction : written.head?.bind Function.spec.fromType = some .replyHandshakeError) :
    Promised pairing handshake pending written := by
  intro msg ikm now hread
  rw [readMessage_function ReplyHandshakeBegin.fieldsSpec hread] at hfunction
  cases hfunction

/-- What is sent is on the way. -/
theorem balance_of_act {cfg : Config} {e e' : Endpoint} {received : Bytes}
    {messages : List Transmission} (hact : Endpoint.Act cfg store e new e')
    (hbalance : received ++ carried messages = carried e.sent) :
    received ++ carried (messages ++ new) = carried e'.sent := by
  rw [hact.sent_eq, carried_append, carried_append, ← List.append_assoc, hbalance]

/-- **An act of the responder** leads to a phase again, and reads nothing but what was sent. -/
theorem Joint.responder_act {responder' : Endpoint} (hcompatible : pairing.Compatible)
    (hjoint : Joint pairing store initiator responder out back)
    (hact : Endpoint.Act (pairing.config .responder) store responder new responder')
    (hout : out.map Transmission.written = responder.rx ++ channel) :
    ∃ out', out'.map Transmission.written = responder'.rx ++ channel ∧
      Joint pairing store initiator responder' out' (back ++ new) := by
  obtain ⟨hphase, hidle, hentering, hforward, hbackward⟩ := hjoint
  have hsent := balance_of_act hact hbackward
  -- The acts of an initiator are none of a responder.  For an act that reads, the phase says what
  -- is read; the cases that do not fit the act are impossible.
  cases hact with
  | turn _ _ hrole => cases hrole
  | ask hrole => cases hrole
  | fail _ _ hrole => cases hrole
  | refuse hrole => cases hrole
  | offer _ hrole => cases hrole
  | activate hrole => cases hrole
  | enterIdle hone => omega
  | @skip message rest hrx hignores =>
      obtain ⟨transmission, out, rfl, rfl, hout⟩ := first_of_rx hout hrx
      rw [carried_cons] at hforward
      cases hphase.responder_reads hcompatible with
      | data msg hread hnonce hadmits => exact absurd hadmits ((hignores msg _ hread).1 hnonce)
      | auth msg hread hnonce hadmits =>
          exact absurd hadmits ((hignores msg _ hread).2 hnonce (.inl rfl))
      | request hforeign hdata hasked hrest =>
          rw [hdata] at hforward
          rw [List.append_nil] at hsent ⊢
          exact ⟨out, hout, hrest responder.pending, hidle, hentering, hforward, hsent⟩
  | @reply mode message rest msg now random findKey algorithms ikm result session initialized hrole
      hrx hread hlookup hreplies =>
      obtain ⟨transmission, out, rfl, rfl, hout⟩ := first_of_rx hout hrx
      rw [carried_cons] at hforward
      cases hrole
      have hforeign : Foreign result.written := foreign_of_function
        (writeMessage_function ReplyHandshakeBegin.fieldsSpec hreplies.written
          (FrameWriter.room_lt _))
        (by decide)
      cases hphase.responder_reads hcompatible with
      | data msg hread' => exact absurd hread' (foreign_of_request hread msg)
      | auth msg hread' => exact absurd hread' (foreign_of_request hread msg)
      | request _ hdata hasked _ hreplied =>
          rw [hdata] at hforward
          exact ⟨out, hout, hreplied session ⟨result.frame, result.written, .reply⟩ hforeign rfl
            (promised_of_replies hcompatible hasked hread hlookup hreplies), hidle, hentering,
            hforward, hsent⟩
  | @error mode message rest error written hrole hrx hcause hwritten =>
      obtain ⟨transmission, out, rfl, rfl, hout⟩ := first_of_rx hout hrx
      rw [carried_cons] at hforward
      have hfunction :=
        writeMessage_function ReplyHandshakeError.fieldsSpec hwritten (FrameWriter.room_lt _)
      cases hphase.responder_reads hcompatible with
      | data msg hread hnonce => exact absurd (hcause msg hread).1 hnonce
      -- `Responder::on_auth_session` answers so if there is no pending session
      | auth msg hread _ hadmits =>
          have hvalid := hadmits.valid
          rw [show responder.stance.pending.valid = false from (hcause msg hread).2] at hvalid
          cases hvalid
      -- an error takes the place of the reply
      | request _ hdata hasked _ hreplied =>
          rw [hdata] at hforward
          exact ⟨out, hout, hreplied responder.pending
            ⟨pairing.responderContext.frameWriter.frame written, written, .handshakeError error⟩
            (foreign_of_function hfunction (by decide)) rfl (promised_of_error hfunction),
            hidle, hentering, hforward, hsent⟩
  | @answer mode message rest msg session now later payload cleartext left formatted hrole hrx hread
      hnonce haccepts hempty howed hunsent hsession hformats hdata =>
      obtain ⟨transmission, out, rfl, rfl, hout⟩ := first_of_rx hout hrx
      rw [carried_cons, ← List.append_assoc] at hforward
      cases hphase.responder_reads hcompatible with
      | data msg' hread' hnonce' =>
          cases hread.symm.trans hread'
          exact absurd hnonce hnonce'
      | request hforeign => exact absurd hread (hforeign msg)
      | auth msg' hread' _ hadmits hanswered =>
          cases hread.symm.trans hread'
          have hpayload : payload = transmission.userData := hadmits.payload_eq haccepts
          -- the nonces of the pending session are zero, so that accepting leaves it as it is
          have hrxNonce : responder.pending.rxNonce = 0 :=
            (SessionNonceMode.equalToZero_iff.mp hadmits.nonce).1
          have hsame : session = responder.pending := by
            rw [hsession, hnonce, ← hrxNonce]
          subst hsame
          have hnext := hanswered later cleartext left formatted responder.active.reset
            hformats hdata
          have hactive : { responder.pending with rxNonce := 0, txNonce := 0 + 1 } =
              { responder.pending with txNonce := responder.pending.txNonce + 1 } := by
            rw [hunsent, ← hrxNonce]
          refine ⟨out, hout, ?_, hidle, hentering, ?_, hsent⟩
          · change Phase pairing store initiator.stance
              { responder.stance with
                active := { responder.pending with txNonce := responder.pending.txNonce + 1 }
                pending := responder.active.reset } out _
            rw [← hactive]
            exact hnext
          · rw [hpayload]
            exact hforward
  | @accept message rest msg now payload hrx hread hnonce haccepts hempty howed =>
      obtain ⟨transmission, out, rfl, rfl, hout⟩ := first_of_rx hout hrx
      rw [carried_cons, ← List.append_assoc] at hforward
      cases hphase.responder_reads hcompatible with
      | data msg' hread' _ hadmits hphase =>
          cases hread.symm.trans hread'
          rw [List.append_nil] at hsent ⊢
          refine ⟨out, hout, hphase, hidle, hentering, ?_, hsent⟩
          rw [show payload = transmission.userData from hadmits.payload_eq haccepts]
          exact hforward
      | request hforeign => exact absurd hread (hforeign msg)
      | auth msg' hread' hzero =>
          cases hread.symm.trans hread'
          exact absurd hzero hnonce
  | @emit now cleartext left formatted hnonce hformats hwithheld =>
      exact ⟨out, hout, hphase.responder_emits hcompatible hnonce hformats, hidle, hentering,
        hforward, hsent⟩
  | place howed =>
      rw [List.append_nil] at hsent ⊢
      exact ⟨out, hout, hphase, hidle, hentering, hforward, hsent⟩
  | read hfirst hpayload =>
      rw [List.append_nil] at hsent ⊢
      exact ⟨out, hout, hphase, hidle, hentering, hforward, hsent⟩
  | discard hlent =>
      rw [List.append_nil] at hsent ⊢
      exact ⟨out, hout, hphase, hidle, hentering, hforward, hsent⟩

/-- **An act of the initiator** leads to a phase again, and reads nothing but what was sent. -/
theorem Joint.initiator_act {initiator' : Endpoint} (hcompatible : pairing.Compatible)
    (hjoint : Joint pairing store initiator responder out back)
    (hact : Endpoint.Act (pairing.config .initiator) store initiator new initiator')
    (hback : back.map Transmission.written = initiator.rx ++ channel) :
    ∃ back', back'.map Transmission.written = initiator'.rx ++ channel ∧
      Joint pairing store initiator' responder (out ++ new) back' := by
  obtain ⟨hphase, hidle, hentering, hforward, hbackward⟩ := hjoint
  have hsent := balance_of_act hact hforward
  cases hact with
  | reply hrole => cases hrole
  | error hrole => cases hrole
  | answer hrole => cases hrole
  | turn state handshake hrole hfrom hto =>
      rw [List.append_nil] at hsent ⊢
      exact ⟨back, hback, hphase.initiator_turns hfrom state handshake, hidle, hentering, hsent,
        hbackward⟩
  | @ask config random keyRecord init started written now hrole hfrom hkeys hinit hrequested =>
      cases hrole
      have hforeign : Foreign written := foreign_of_function
        (writeMessage_function RequestHandshakeBegin.fieldsSpec hrequested (FrameWriter.room_lt _))
        (by decide)
      exact ⟨back, hback, hphase.initiator_asks hfrom hforeign rfl
        (.intro hkeys hinit hrequested rfl), hidle, hentering, hsent, hbackward⟩
  | @skip message rest hrx hignores =>
      obtain ⟨transmission, back, rfl, rfl, hback⟩ := first_of_rx hback hrx
      rw [carried_cons] at hbackward
      cases hphase.initiator_reads hcompatible with
      | data msg hread hnonce hadmits => exact absurd hadmits ((hignores msg _ hread).1 hnonce)
      | answer msg hread hnonce hstate hadmits =>
          exact absurd hadmits ((hignores msg _ hread).2 hnonce (.inr hstate))
      | reply hforeign hdata hrest =>
          rw [hdata] at hbackward
          rw [List.append_nil] at hsent ⊢
          exact ⟨back, hback, hrest initiator.state initiator.handshake initiator.pending, hidle,
            hentering, hsent, hbackward⟩
  | @fail config message rest handshake pending hrole hrx hstate hforeign =>
      obtain ⟨transmission, back, rfl, rfl, hback⟩ := first_of_rx hback hrx
      rw [carried_cons] at hbackward
      cases hphase.initiator_reads hcompatible with
      | data msg hread => exact absurd hread (hforeign msg)
      | answer msg hread => exact absurd hread (hforeign msg)
      | reply _ hdata hrest =>
          rw [hdata] at hbackward
          rw [List.append_nil] at hsent ⊢
          exact ⟨back, hback, hrest .waitForRetry handshake pending, hidle, hentering, hsent,
            hbackward⟩
  -- an answer that does not verify would end the handshake after the responder has moved on
  | @refuse config message rest msg hrole hrx hstate hread hnonce hnot =>
      obtain ⟨transmission, back, rfl, rfl, hback⟩ := first_of_rx hback hrx
      cases hphase.initiator_reads hcompatible with
      | data msg' hread' hnonce' =>
          cases hread.symm.trans hread'
          exact absurd hnonce hnonce'
      | answer msg' hread' _ _ hadmits =>
          cases hread.symm.trans hread'
          exact absurd hadmits (hnot _)
      | reply hforeign => exact absurd hread (hforeign msg)
  | @offer config message rest msg ikm session now later cleartext left formatted
    handshake hrole hrx
      hstate hread hmaterial hsession hkeys hformats =>
      obtain ⟨transmission, back, rfl, rfl, hback⟩ := first_of_rx hback hrx
      rw [carried_cons] at hbackward
      cases hrole
      cases hphase.initiator_reads hcompatible with
      | data msg' hread' => exact absurd hread' (foreign_of_reply hread msg')
      | answer msg' hread' => exact absurd hread' (foreign_of_reply hread msg')
      | reply _ hdata _ hoffered =>
          rw [hdata] at hbackward
          exact ⟨back, hback, hoffered handshake msg ikm now later cleartext left formatted session
            hread hmaterial hsession hkeys hformats, hidle, hentering, hsent, hbackward⟩
  | @activate config message rest msg now payload hrole hrx hstate hread hnonce haccepts hempty
      howed =>
      obtain ⟨transmission, back, rfl, rfl, hback⟩ := first_of_rx hback hrx
      rw [carried_cons, ← List.append_assoc] at hbackward
      cases hphase.initiator_reads hcompatible with
      | data msg' hread' hnonce' =>
          cases hread.symm.trans hread'
          exact absurd hnonce hnonce'
      | reply hforeign => exact absurd hread (hforeign msg)
      | answer msg' hread' _ _ hadmits _ hphase =>
          cases hread.symm.trans hread'
          rw [List.append_nil] at hsent ⊢
          refine ⟨back, hback, ?_, hidle, hentering, hsent, ?_⟩
          · rw [hnonce]
            exact hphase initiator.active.reset
          · rw [show payload = transmission.userData from hadmits.payload_eq haccepts]
            exact hbackward
  | @enterIdle n hone =>
      rw [List.append_nil] at hsent ⊢
      exact ⟨back, hback, hphase.initiator_enters hone, hidle, hentering, hsent, hbackward⟩
  | @accept message rest msg now payload hrx hread hnonce haccepts hempty howed =>
      obtain ⟨transmission, back, rfl, rfl, hback⟩ := first_of_rx hback hrx
      rw [carried_cons, ← List.append_assoc] at hbackward
      cases hphase.initiator_reads hcompatible with
      | data msg' hread' _ hadmits hphase =>
          cases hread.symm.trans hread'
          rw [List.append_nil] at hsent ⊢
          refine ⟨back, hback, hphase, hidle, hentering, hsent, ?_⟩
          rw [show payload = transmission.userData from hadmits.payload_eq haccepts]
          exact hbackward
      | reply hforeign => exact absurd hread (hforeign msg)
      | answer msg' hread' hzero =>
          cases hread.symm.trans hread'
          exact absurd hzero hnonce
  | @emit now cleartext left formatted hnonce hformats hwithheld =>
      have hfree : ¬ (initiator.state = .waitForAuthReply ∧ initiator.pending.valid = true) := by
        simpa [Endpoint.awaits] using hwithheld
      exact ⟨back, hback, hphase.initiator_emits hcompatible hnonce hformats hfree,
        hidle, hentering,
        hsent, hbackward⟩
  | place howed =>
      rw [List.append_nil] at hsent ⊢
      exact ⟨back, hback, hphase, hidle, hentering, hsent, hbackward⟩
  | read hfirst hpayload =>
      rw [List.append_nil] at hsent ⊢
      exact ⟨back, hback, hphase, hidle, hentering, hsent, hbackward⟩
  | discard hlent =>
      rw [List.append_nil] at hsent ⊢
      exact ⟨back, hback, hphase, hidle, hentering, hsent, hbackward⟩

end Acts

end Ssp21
