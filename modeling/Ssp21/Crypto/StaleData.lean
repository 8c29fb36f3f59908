import Ssp21.Crypto.TimersHeld

/-!
# Stale data

A close leaves stale data behind: the nonces, parameters and algorithms of both
sessions, the members of the handshake object, the counters.  Here the parts of two
layers are compared up to such data and up to the names of their timers.

* Sessions are alike if they are the same, or if neither is valid.
* Handshake objects are `Interchangeable` if a reply leads to the same session; they
  need to be only while the initiator waits for one.
* `SameTimers`: the timers of two initiators are the same under other names.
* `CryptoLayer.Alike`: the base classes also agree in what they do from now on.
-/

namespace Ssp21

open Wire

/-! ## Sessions -/

namespace Session

/-- Two sessions that cannot be told apart: one session, or two that are not valid. -/
def Alike (old new : Session) : Prop :=
  old = new ∨ old.valid = false ∧ new.valid = false

namespace Alike

variable {old new : Session}

theorem refl (session : Session) : Alike session session :=
  Or.inl rfl

theorem reset (old new : Session) : Alike old.reset new.reset :=
  Or.inr ⟨rfl, rfl⟩

theorem valid_eq (h : Alike old new) : old.valid = new.valid := by
  rcases h with rfl | ⟨hold, hnew⟩
  · rfl
  · rw [hold, hnew]

theorem eq_of_valid (h : Alike old new) (hvalid : new.valid = true) : old = new := by
  rcases h with rfl | ⟨-, hnew⟩
  · rfl
  · rw [hnew] at hvalid
    cases hvalid

end Alike

/-- A validation does not look at the counters. -/
theorem validateWithNonceFunc_stats (ctx : SessionContext) (verifyNonce : UInt16 → UInt16 → Bool)
    (session : Session) (stats stats' : SessionStatistics) (msg : SessionData) (now : Time) :
    ∃ next, session.validateWithNonceFunc ctx verifyNonce stats' msg now =
      ((session.validateWithNonceFunc ctx verifyNonce stats msg now).1,
        (session.validateWithNonceFunc ctx verifyNonce stats msg now).2.1, next) := by
  unfold validateWithNonceFunc
  cases session.valid with
  | false => exact ⟨_, rfl⟩
  | true =>
      cases SessionMode.read ctx.backend session.algorithms.sessionMode session.keys.rxKey msg
        ctx.payloadBufferLength with
      | error e => exact ⟨_, rfl⟩
      | ok payload =>
          simp only [Bool.not_true, Bool.false_eq_true, if_false]
          split_ifs <;> exact ⟨_, rfl⟩

/-- Two validations that cannot be told apart: both refuse the message, or both sessions are
the same and take it. -/
def AlikeValidations (old new : Session)
    (outcome outcome' : Except CryptoError Bytes × Session × SessionStatistics) : Prop :=
  ∃ result session session' next next', outcome = (result, session, next) ∧
    outcome' = (result, session', next') ∧ Alike session session' ∧
    ∀ payload, result = .ok payload → old = new ∧ session = session'

namespace Alike

variable {old new : Session}

theorem validateWithNonceFunc (h : Alike old new) (ctx : SessionContext)
    (verifyNonce : Session → UInt16 → UInt16 → Bool) (stats stats' : SessionStatistics)
    (msg : SessionData) (now : Time) :
    AlikeValidations old new (old.validateWithNonceFunc ctx (verifyNonce old) stats msg now)
      (new.validateWithNonceFunc ctx (verifyNonce new) stats' msg now) := by
  rcases h with rfl | ⟨hold, hnew⟩
  · obtain ⟨next, hnext⟩ :=
      validateWithNonceFunc_stats ctx (verifyNonce old) old stats stats' msg now
    exact ⟨_, _, _, _, next, rfl, hnext, .refl _, fun _ _ => ⟨rfl, rfl⟩⟩
  · simp only [Session.validateWithNonceFunc, hold, hnew, Bool.not_false, if_true]
    exact ⟨_, _, _, _, _, rfl, rfl, Or.inr ⟨hold, hnew⟩, fun _ hok => by cases hok⟩

theorem validateSessionAuth (h : Alike old new) (ctx : SessionContext)
    (stats stats' : SessionStatistics) (msg : SessionData) (now : Time) :
    AlikeValidations old new (old.validateSessionAuth ctx stats msg now)
      (new.validateSessionAuth ctx stats' msg now) :=
  h.validateWithNonceFunc ctx (fun _ => SessionNonceMode.equalToZero) stats stats' msg now

theorem validateSessionData (h : Alike old new) (ctx : SessionContext)
    (stats stats' : SessionStatistics) (msg : SessionData) (now : Time) :
    AlikeValidations old new (old.validateSessionData ctx stats msg now)
      (new.validateSessionData ctx stats' msg now) := by
  obtain ⟨result, session, session', next, next', heq, heq', hsession, hok⟩ :=
    h.validateWithNonceFunc ctx (fun session => session.algorithms.verifyNonce.verify) stats stats'
      msg now
  simp only [Session.validateSessionData, heq, heq']
  cases result with
  | error e => exact ⟨_, _, _, _, _, rfl, rfl, hsession, nofun⟩
  | ok payload =>
      dsimp only
      split_ifs
      · exact ⟨_, _, _, _, _, rfl, rfl, hsession, nofun⟩
      · exact ⟨_, _, _, _, _, rfl, rfl, hsession, fun _ _ => hok payload rfl⟩

end Alike

/-- A session that is not valid formats nothing. -/
theorem formatSessionAuth_invalid {session : Session} (hvalid : session.valid = false)
    (ctx : SessionContext) (now : Time) (cleartext : Bytes) :
    ∃ e, (session.formatSessionAuth ctx now cleartext).result = .error e := by
  simp only [formatSessionAuth, formatNoNonceCheck, hvalid, Bool.not_false, if_true]
  split_ifs <;> exact ⟨_, rfl⟩

/-- An initialization overwrites everything, or fails and changes nothing. -/
theorem Alike.initializeWith {old new : Session} (h : Alike old new)
    (stats stats' : SessionStatistics) (algorithms : SessionAlgorithms) (parameters : SessionParam)
    (keys : SessionKeys) :
    (old.initializeWith stats algorithms parameters keys).1 =
        (new.initializeWith stats' algorithms parameters keys).1 ∧
      Alike (old.initializeWith stats algorithms parameters keys).2.1
        (new.initializeWith stats' algorithms parameters keys).2.1 ∧
      ((new.initializeWith stats' algorithms parameters keys).1 = true →
        (old.initializeWith stats algorithms parameters keys).2.1 =
          (new.initializeWith stats' algorithms parameters keys).2.1) := by
  unfold Session.initializeWith
  split_ifs
  · exact ⟨rfl, h, nofun⟩
  · exact ⟨rfl, .refl _, fun _ => rfl⟩

end Session

/-! ## Handshakes -/

namespace InitiatorHandshake

/-- A reply leads to the same session. -/
structure Interchangeable (backend : CryptoBackend) (mode : InitiatorMode)
    (old new : InitiatorHandshake) :
    Prop where
  time : old.timeRequestTx = new.timeRequestTx
  hash : old.handshakeHash = new.handshakeHash
  material : ∀ msg, old.material backend mode msg = new.material backend mode msg

/-- What is drawn for a handshake does not depend on the one before, and is all that the
mode will use. -/
theorem initializeNewHandshake_interchangeable (backend : CryptoBackend) (mode : InitiatorMode)
    (old new : InitiatorHandshake) (random : Random) (keyRecord : Option KeyRecord) :
    let drawn := old.initializeNewHandshake backend mode random keyRecord
    let drawn' := new.initializeNewHandshake backend mode random keyRecord
    drawn.1 = drawn'.1 ∧ ∀ requestData now, drawn'.1.isSome = true →
      Interchangeable backend mode (drawn.2.finalizeRequestTx backend mode requestData now)
        (drawn'.2.finalizeRequestTx backend mode requestData now) := by
  cases mode with
  | sharedSecret suite key => exact ⟨rfl, fun _ _ _ => ⟨rfl, rfl, fun _ => rfl⟩⟩
  | qkd suite =>
      cases keyRecord with
      | none => exact ⟨rfl, nofun⟩
      | some record =>
          cases hkey : record.key with
          | none => simp [initializeNewHandshake, hkey]
          | some key =>
              simp only [initializeNewHandshake, hkey]
              exact ⟨trivial, fun _ _ _ => ⟨rfl, rfl, fun _ => rfl⟩⟩
  | publicKey suite staticKeys certHandler =>
      exact ⟨rfl, fun _ _ _ => ⟨rfl, rfl, fun _ => rfl⟩⟩

/-- Two outcomes that differ in stale data only. -/
def SessionOutcome.Alike (outcome outcome' : SessionOutcome) : Prop :=
  outcome.success = outcome'.success ∧ Session.Alike outcome.session outcome'.session ∧
    (outcome'.success = true → outcome.session = outcome'.session)

theorem deriveSession_alike {old new : InitiatorHandshake} {session session' : Session}
    (htime : old.timeRequestTx = new.timeRequestTx) (hhash : old.handshakeHash = new.handshakeHash)
    (halike : Session.Alike session session') (backend : CryptoBackend) (mode : InitiatorMode)
    (ikm : List Bytes) (limits : SessionLimits) (now : Time) (stats stats' : SessionStatistics) :
    (deriveSession backend mode old ikm limits now session stats).Alike
      (deriveSession backend mode new ikm limits now session' stats') := by
  unfold deriveSession
  rw [htime, hhash]
  dsimp only
  by_cases hroll : now < new.timeRequestTx
  · rw [if_pos hroll, if_pos hroll]
    exact ⟨rfl, halike, nofun⟩
  · rw [if_neg hroll, if_neg hroll]
    exact halike.initializeWith _ _ _ _ _

namespace Interchangeable

variable {backend : CryptoBackend} {mode : InitiatorMode} {old new : InitiatorHandshake}
  {session session' : Session}

theorem initializeSession (h : Interchangeable backend mode old new)
    (halike : Session.Alike session session')
    (msg : ReplyHandshakeBegin) (replyData : Bytes) (limits : SessionLimits) (now : Time)
    (stats stats' : SessionStatistics) :
    (InitiatorHandshake.initializeSession backend mode old msg replyData limits now session
      stats).Alike (InitiatorHandshake.initializeSession backend mode new msg replyData limits now
        session' stats') := by
  have hmaterial := h.material msg
  rcases initializeSession_material backend mode old msg replyData limits now session stats with
    ⟨ikm, hikm, heq⟩ | ⟨hnone, handshake, heq⟩
  · rcases initializeSession_material backend mode new msg replyData limits now session' stats' with
      ⟨ikm', hikm', heq'⟩ | ⟨hnone', -⟩
    · rw [hikm, hikm'] at hmaterial
      cases hmaterial
      rw [heq, heq']
      exact deriveSession_alike (by exact h.time) (by simp only [mixHandshakeHash, h.hash]) halike
        _ _ _ _ _ _ _
    · rw [hikm, hnone'] at hmaterial
      cases hmaterial
  · rcases initializeSession_material backend mode new msg replyData limits now session' stats' with
      ⟨ikm', hikm', -⟩ | ⟨-, handshake', heq'⟩
    · rw [hnone, hikm'] at hmaterial
      cases hmaterial
    · rw [heq, heq']
      exact ⟨rfl, halike, nofun⟩

end Interchangeable

end InitiatorHandshake

namespace ResponderMode

/-- Two outcomes that differ in stale data only. -/
def Outcome.Alike (outcome outcome' : Outcome) : Prop :=
  outcome.result = outcome'.result ∧ outcome.initialized = outcome'.initialized ∧
    Session.Alike outcome.session outcome'.session ∧
    (outcome'.initialized = true → outcome.session = outcome'.session)

theorem Outcome.Alike.refused {session session' : Session} (halike : Session.Alike session session')
    {e : HandshakeError} {stats stats' : SessionStatistics} {lookup : Option UInt64} :
    Outcome.Alike ⟨.error e, session, stats, lookup, false⟩
      ⟨.error e, session', stats', lookup, false⟩ :=
  ⟨rfl, rfl, halike, nofun⟩

theorem reply_alike {session session' : Session} (halike : Session.Alike session session')
    (backend : CryptoBackend) (writer : FrameWriter) (algorithms : Algorithms.Common)
    (msg : RequestHandshakeBegin) (msgBytes : Bytes) (now : Time) (message : ReplyHandshakeBegin)
    (ikm : Except CryptoError (List Bytes)) (stats stats' : SessionStatistics)
    (lookup : Option UInt64) :
    (reply backend writer algorithms msg msgBytes now message ikm session stats lookup).Alike
      (reply backend writer algorithms msg msgBytes now message ikm session' stats' lookup) := by
  unfold reply
  cases writer.write message.write with
  | error e => exact .refused halike
  | ok result =>
      cases ikm with
      | error e => exact .refused halike
      | ok values =>
          obtain ⟨hinit, hsession⟩ := halike.initializeWith stats stats' algorithms.session
            ⟨now, msg.constraints.maxNonce, milliseconds msg.constraints.maxSessionDuration⟩ _
          exact ⟨rfl, hinit, hsession⟩

/-- A request is answered in the same way, whatever the pending session was. -/
theorem process_alike {session session' : Session} (halike : Session.Alike session session')
    (backend : CryptoBackend) (mode : ResponderMode) (writer : FrameWriter)
    (msg : RequestHandshakeBegin) (msgBytes : Bytes) (now : Time) (random : Random)
    (findKey : UInt64 → Option Bytes) (stats stats' : SessionStatistics) :
    (process backend mode writer msg msgBytes now random findKey session stats).Alike
      (process backend mode writer msg msgBytes now random findKey session' stats') := by
  cases mode with
  | sharedSecret key =>
      simp only [process]
      cases Algorithms.configureSpec backend msg.spec with
      | error e => split_ifs <;> exact .refused halike
      | ok algorithms =>
          split_ifs
          · exact .refused halike
          · exact .refused halike
          · exact reply_alike halike _ _ _ _ _ _ _ _ _ _ _
  | qkd =>
      simp only [process]
      cases Algorithms.configureSpec backend msg.spec with
      | error e => split_ifs <;> exact .refused halike
      | ok algorithms =>
          cases findKey (UInt64.ofNat (ofBigEndian msg.modeData)) with
          | none => split_ifs <;> exact .refused halike
          | some secret =>
              split_ifs
              · exact .refused halike
              · exact .refused halike
              · exact reply_alike halike _ _ _ _ _ _ _ _ _ _ _
  | publicKey staticKeys certHandler =>
      simp only [process]
      cases Algorithms.configureSpec backend msg.spec with
      | error e => exact .refused halike
      | ok algorithms =>
          cases Algorithms.configureDh backend msg.spec.handshakeEphemeral with
          | error e => exact .refused halike
          | ok _ =>
              cases certHandler.validate backend msg.handshakeMode msg.modeData with
              | error e => split_ifs <;> exact .refused halike
              | ok remote =>
                  split_ifs
                  · exact .refused halike
                  · exact reply_alike halike _ _ _ _ _ _ _ _ _ _ _

end ResponderMode

/-! ## Timers -/

/-- A timer under another name. -/
def Timer.rename (shift : Nat) (timer : Timer) : Timer :=
  { timer with id := timer.id + shift }

namespace InitiatorState

/-- The timers and handles of two initiators are the same, up to their names. -/
structure SameTimers (shift : Nat) (old new : InitiatorState) : Prop where
  answer : old.responseAndRetryTimer = new.responseAndRetryTimer.map (· + shift)
  session : old.sessionTimeoutTimer = new.sessionTimeoutTimer.map (· + shift)
  timers : old.timers = new.timers.map (Timer.rename shift)
  nextTimer : old.nextTimer = new.nextTimer + shift

/-- Two initiators that differ in stale data and in the names of timers only. -/
structure Alike (cfg : Config) (shift : Nat) (old new : InitiatorState) : Prop
    extends SameTimers shift old new where
  handshakeState : old.handshakeState = new.handshakeState
  handshakeRequired : old.handshakeRequired = new.handshakeRequired
  waits : ∀ config, cfg.role = .initiator config → new.handshakeState = .waitForBeginReply →
    InitiatorHandshake.Interchangeable cfg.ctx.backend config.mode old.handshake new.handshake ∧
      old.requestData = new.requestData

theorem cancelHandle_rename (shift : Nat) (timers : List Timer) (handle : Option Nat) :
    cancelHandle (timers.map (Timer.rename shift)) (handle.map (· + shift)) =
      (cancelHandle timers handle).map (Timer.rename shift) := by
  cases handle with
  | none => rfl
  | some id =>
      simp only [cancelHandle, Option.map_some, List.filter_map]
      congr 1
      refine List.filter_congr fun timer _ => ?_
      simp [Timer.rename]

namespace SameTimers

variable {shift : Nat} {old new : InitiatorState}

theorem startResponseTimer (h : SameTimers shift old new) (params : InitiatorParams) (now : Time) :
    SameTimers shift (old.startResponseTimer params now) (new.startResponseTimer params now) := by
  refine ⟨?_, h.session, ?_, ?_⟩ <;>
    simp [InitiatorState.startResponseTimer, h.timers, h.nextTimer, Timer.rename,
      Nat.add_right_comm]

theorem startRetryTimer (h : SameTimers shift old new) (params : InitiatorParams) (now : Time) :
    SameTimers shift (old.startRetryTimer params now) (new.startRetryTimer params now) := by
  refine ⟨?_, h.session, ?_, ?_⟩ <;>
    simp [InitiatorState.startRetryTimer, h.timers, h.nextTimer, Timer.rename, Nat.add_right_comm]

theorem startSessionTimer (h : SameTimers shift old new) (due : Time) :
    SameTimers shift (old.startSessionTimer due) (new.startSessionTimer due) := by
  refine ⟨h.answer, ?_, ?_, ?_⟩ <;>
    simp [InitiatorState.startSessionTimer, h.timers, h.nextTimer, Timer.rename, Nat.add_right_comm]

theorem cancelResponseAndRetryTimer (h : SameTimers shift old new) :
    SameTimers shift old.cancelResponseAndRetryTimer new.cancelResponseAndRetryTimer := by
  refine ⟨rfl, h.session, ?_, h.nextTimer⟩
  simp only [InitiatorState.cancelResponseAndRetryTimer, h.timers, h.answer, cancelHandle_rename]

theorem cancelSessionTimeoutTimer (h : SameTimers shift old new) :
    SameTimers shift old.cancelSessionTimeoutTimer new.cancelSessionTimeoutTimer := by
  refine ⟨h.answer, rfl, ?_, h.nextTimer⟩
  simp only [InitiatorState.cancelSessionTimeoutTimer, h.timers, h.session, cancelHandle_rename]

/-- A timer fires. -/
theorem fired (h : SameTimers shift old new) (timer : Timer) :
    (old.timers.filter (fun other => other.id ≠ (timer.rename shift).id)) =
      (new.timers.filter (fun other => other.id ≠ timer.id)).map (Timer.rename shift) := by
  rw [h.timers]
  exact cancelHandle_rename shift new.timers (some timer.id)

theorem find (h : SameTimers shift old new) (id : Nat) :
    old.timers.find? (fun timer => timer.id = id + shift) =
      (new.timers.find? (fun timer => timer.id = id)).map (Timer.rename shift) := by
  rw [h.timers, List.find?_map]
  congr 2
  funext timer
  simp [Timer.rename]

end SameTimers

namespace Alike

variable {cfg : Config} {shift : Nat} {old new : InitiatorState}

/-- The initiator does not wait for a reply. -/
theorem of_timers {old' new' : InitiatorState} (htimers : SameTimers shift old' new')
    (hstate : old'.handshakeState = new'.handshakeState)
    (hrequired : old'.handshakeRequired = new'.handshakeRequired)
    (hwait : new'.handshakeState ≠ .waitForBeginReply) : Alike cfg shift old' new' :=
  ⟨htimers, hstate, hrequired, fun _ _ hstate' => absurd hstate' hwait⟩

theorem retryLater (h : SameTimers shift old new)
    (hrequired : old.handshakeRequired = new.handshakeRequired) (params : InitiatorParams)
    (now : Time) :
    Alike cfg shift (old.retryLater params now) (new.retryLater params now) := by
  exact of_timers { h.startRetryTimer params now with } rfl hrequired
    (by simp [InitiatorState.retryLater])

theorem cancelSessionTimeoutTimer (h : Alike cfg shift old new) :
    Alike cfg shift old.cancelSessionTimeoutTimer new.cancelSessionTimeoutTimer :=
  { h with toSameTimers := h.toSameTimers.cancelSessionTimeoutTimer }

theorem require (h : Alike cfg shift old new) :
    Alike cfg shift { old with handshakeRequired := true } { new with handshakeRequired := true } :=
  { h with handshakeRequired := rfl }

theorem resetStateOnClose (h : Alike cfg shift old new) :
    Alike cfg shift old.resetStateOnClose new.resetStateOnClose := by
  exact of_timers
    { h.toSameTimers.cancelResponseAndRetryTimer.cancelSessionTimeoutTimer with } rfl rfl
    (by simp [InitiatorState.resetStateOnClose])

end Alike

end InitiatorState

/-! ## The base class -/

namespace CryptoLayer

/-- Two layers that differ in stale data, counters and an earlier history only. -/
structure Alike (past : List Observation) (old new : CryptoLayer) : Prop where
  isOpen : old.isOpen = new.isOpen
  upperIsProcessingRxData : old.upperIsProcessingRxData = new.upperIsProcessingRxData
  active : Session.Alike old.active new.active
  pending : Session.Alike old.pending new.pending
  txState : old.txState = new.txState
  payloadData : old.payloadData = new.payloadData
  upperOpen : old.upperOpen = new.upperOpen
  lowerTxReady : old.lowerTxReady = new.lowerTxReady
  lowerRx : old.lowerRx = new.lowerRx
  trace : old.trace = past ++ new.trace

namespace Alike

variable {past : List Observation} {old new : CryptoLayer}

theorem log (h : Alike past old new) (observation : Observation) :
    Alike past (old.log observation) (new.log observation) := by
  exact { h with trace := by simp [CryptoLayer.log, h.trace] }

theorem session (h : Alike past old new) (slot : Slot) :
    Session.Alike (old.session slot) (new.session slot) := by
  cases slot with
  | active => exact h.active
  | pending => exact h.pending

theorem setSession (h : Alike past old new) (slot : Slot) {session session' : Session}
    (hsession : Session.Alike session session') :
    Alike past (old.setSession slot session) (new.setSession slot session') := by
  cases slot with
  | active =>
      exact { h with active := hsession }
  | pending =>
      exact { h with pending := hsession }

/-- The pending session and the counters. -/
theorem settle (h : Alike past old new) {session session' : Session}
    (hsession : Session.Alike session session') (stats stats' : SessionStatistics) :
    Alike past { old with pending := session, statistics := stats }
      { new with pending := session', statistics := stats' } :=
  { h with pending := hsession }

/-- The active session and the counters. -/
theorem settleActive (h : Alike past old new) {session session' : Session}
    (hsession : Session.Alike session session') (stats stats' : SessionStatistics) :
    Alike past { old with active := session, statistics := stats }
      { new with active := session', statistics := stats' } :=
  { h with active := hsession }

/-- What the transmission of data has left. -/
theorem transmitted (h : Alike past old new) (txState : TxState) :
    Alike past { old with txState := txState } { new with txState := txState } :=
  { h with txState := rfl }

/-- What the lower layer answers. -/
theorem answered (h : Alike past old new) (isOpen ready : Bool) :
    Alike past { old with isOpen := isOpen, lowerTxReady := ready }
      { new with isOpen := isOpen, lowerTxReady := ready } :=
  { h with isOpen := rfl, lowerTxReady := rfl }

theorem received (h : Alike past old new) (messages : List Bytes) :
    Alike past { old with lowerRx := messages } { new with lowerRx := messages } :=
  { h with lowerRx := rfl }

/-- The payload and the flag of the interface above. -/
theorem lent (h : Alike past old new) (payload : Bytes) (processing : Bool) :
    Alike past { old with payloadData := payload, upperIsProcessingRxData := processing }
      { new with payloadData := payload, upperIsProcessingRxData := processing } :=
  { h with upperIsProcessingRxData := rfl, payloadData := rfl }

theorem notified (h : Alike past old new) (upperOpen : Bool) :
    Alike past { old with upperOpen := upperOpen } { new with upperOpen := upperOpen } :=
  { h with upperOpen := rfl }

theorem holding (h : Alike past old new) (payload : Bytes) :
    Alike past { old with payloadData := payload } { new with payloadData := payload } :=
  { h with payloadData := rfl }

theorem placePayload (h : Alike past old new) (payload : Bytes) :
    Alike past (old.placePayload payload) (new.placePayload payload) :=
  (h.holding payload).log _

theorem resetBoth (h : Alike past old new) : Alike past old.resetBoth new.resetBoth :=
  { h with active := .reset _ _, pending := .reset _ _ }

/-- A valid pending session becomes the active one. -/
theorem activatePending (h : Alike past old new) (hsame : old.pending = new.pending) :
    Alike past old.activatePending new.activatePending := by
  unfold CryptoLayer.activatePending
  rw [hsame]
  refine Alike.log ?_ _
  exact { h with active := .refl _, pending := .reset _ _ }

end Alike

end CryptoLayer

theorem CryptoLayer.lowerStartTx_active (layer : CryptoLayer) (transmission : Transmission) :
    (layer.lowerStartTx transmission).2.active = layer.active := by
  unfold lowerStartTx
  split_ifs <;> rfl

/-- Two results that differ in stale data only, and leave the same to do. -/
def CryptoLayer.AlikeTasks (past : List Observation) (old new : CryptoLayer × List Task) : Prop :=
  old.1.Alike past new.1 ∧ old.2 = new.2

namespace CryptoLayer.Alike

variable {past : List Observation} {old new : CryptoLayer}

theorem lowerStartTx (h : Alike past old new) (transmission : Transmission) :
    (old.lowerStartTx transmission).1 = (new.lowerStartTx transmission).1 ∧
      Alike past (old.lowerStartTx transmission).2 (new.lowerStartTx transmission).2 := by
  unfold CryptoLayer.lowerStartTx
  rw [h.lowerTxReady]
  split_ifs
  · refine ⟨rfl, Alike.log ?_ _⟩
    exact { h with lowerTxReady := rfl }
  · exact ⟨rfl, h.log _⟩

theorem openUpper (h : Alike past old new) : AlikeTasks past old.openUpper new.openUpper := by
  unfold CryptoLayer.openUpper
  rw [h.upperOpen]
  split_ifs
  · exact ⟨h, rfl⟩
  · exact ⟨(h.notified true).log _, rfl⟩

theorem closeUpper (h : Alike past old new) : AlikeTasks past old.closeUpper new.closeUpper := by
  unfold CryptoLayer.closeUpper
  rw [h.upperOpen]
  split_ifs
  · exact ⟨(h.notified false).log _, rfl⟩
  · exact ⟨h, rfl⟩

theorem notifyTxReady (h : Alike past old new) :
    AlikeTasks past old.notifyTxReady new.notifyTxReady := by
  unfold CryptoLayer.notifyTxReady
  rw [h.upperOpen]
  split_ifs
  · exact ⟨h.log _, rfl⟩
  · exact ⟨h, rfl⟩

theorem notifyRxReady (h : Alike past old new) :
    AlikeTasks past old.notifyRxReady new.notifyRxReady := by
  unfold CryptoLayer.notifyRxReady
  rw [h.upperOpen]
  split_ifs
  · exact ⟨h.log _, rfl⟩
  · exact ⟨h, rfl⟩

theorem startTxFromUpper (h : Alike past old new) (data : Bytes) :
    AlikeTasks past (old.startTxFromUpper data) (new.startTxFromUpper data) := by
  have hready : old.isTxReady = new.isTxReady := by
    simp only [isTxReady, h.isOpen, h.upperOpen, h.txState]
  unfold CryptoLayer.startTxFromUpper
  rw [hready]
  split_ifs
  · exact ⟨(h.transmitted _).log _, rfl⟩
  · exact ⟨h, rfl⟩

theorem startRxFromUpper (h : Alike past old new) :
    AlikeTasks past old.startRxFromUpper new.startRxFromUpper := by
  unfold CryptoLayer.startRxFromUpper
  dsimp only
  rw [h.upperIsProcessingRxData]
  cases new.upperIsProcessingRxData with
  | true =>
      refine ⟨?_, rfl⟩
      exact h.lent [] false
  | false =>
      simp only [Bool.false_eq_true, if_false]
      rw [h.payloadData]
      split_ifs
      · exact ⟨h, rfl⟩
      · refine ⟨Alike.log ?_ _, rfl⟩
        exact { h with upperIsProcessingRxData := rfl, payloadData := rfl }

theorem logVerified (h : Alike past old new) {session session' : Session}
    (hsession : Session.Alike session session') (ctx : SessionContext) (msg : SessionData) :
    Alike past (old.logVerified ctx session msg) (new.logVerified ctx session' msg) := by
  rcases hsession with rfl | ⟨hold, hnew⟩
  · unfold CryptoLayer.logVerified
    split
    · exact h.log _
    · exact h
  · simp only [CryptoLayer.logVerified, hold, hnew]
    exact h

theorem transmitSessionAuth (h : Alike past old new) (ctx : SessionContext) (slot : Slot)
    (now : Time) :
    (old.transmitSessionAuth ctx slot now).1 = (new.transmitSessionAuth ctx slot now).1 ∧
      Alike past (old.transmitSessionAuth ctx slot now).2
        (new.transmitSessionAuth ctx slot now).2 := by
  unfold CryptoLayer.transmitSessionAuth
  dsimp only
  rw [h.txState]
  rcases h.session slot with hsame | ⟨hold, hnew⟩
  · rw [hsame]
    cases ((new.session slot).formatSessionAuth ctx now new.txState.remainder).result with
    | error e => exact ⟨rfl, h.log _⟩
    | ok formatted =>
        dsimp only
        have hset := h.setSession slot (.refl
          ((new.session slot).formatSessionAuth ctx now new.txState.remainder).session)
        rw [hset.txState]
        split_ifs
        · exact hset.lowerStartTx _
        · exact (hset.transmitted _).lowerStartTx _
  · obtain ⟨e, he⟩ := Session.formatSessionAuth_invalid hold ctx now new.txState.remainder
    obtain ⟨e', he'⟩ := Session.formatSessionAuth_invalid hnew ctx now new.txState.remainder
    rw [he, he']
    exact ⟨rfl, h.log _⟩

end CryptoLayer.Alike

end Ssp21
