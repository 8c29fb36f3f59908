import Ssp21.Crypto.Handshake
import Ssp21.Foundation.Runs

/-!
# The cryptographic layer

`CryptoLayer` is the state of the base class of initiator and responder, and
`InitiatorState` what the initiator adds.  The functions below are the members of
the three classes, from a state to a state.

* Calls into the upper layer are not made but returned, as a list of `Task`s: the
  callback that is due, and the code of this layer that stands behind the call.
  The upper layer may call back into this layer before it returns.
* The lower layer is asynchronous.  It keeps received messages until they are read,
  and is not ready to transmit from the moment it is given a frame until it says
  so.
* `trace` is the history of the layer: what crosses its two interfaces, and what
  happens to its sessions.  No function reads it.
* A step takes from its environment the time, fresh random bytes and the answers
  of the key stores.
-/

namespace Ssp21

open Wire

/-- `TxState`. -/
structure TxState where
  transmitting : Bool
  remainder : Bytes
  deriving DecidableEq, Repr

namespace TxState

/-- As constructed, and after `reset`. -/
def idle : TxState := ⟨false, []⟩

/-- `TxState::initialize`. -/
def initializeWith (data : Bytes) : TxState := ⟨false, data⟩

def isIdle (tx : TxState) : Bool := !tx.transmitting && tx.remainder.isEmpty

def isReadyTx (tx : TxState) : Bool := !tx.transmitting && !tx.remainder.isEmpty

/-- Whether the whole transmission is complete, and the state behind it. -/
def onTxComplete (tx : TxState) : Bool × TxState :=
  if tx.transmitting then (tx.remainder.isEmpty, { tx with transmitting := false })
  else (false, tx)

def beginTransmit (tx : TxState) (remainder : Bytes) : TxState :=
  if tx.remainder.isEmpty then tx else ⟨true, remainder⟩

end TxState

/-! ## What is observed -/

/-- What a frame carries. -/
inductive Content
  | request
  | reply
  | handshakeError (error : HandshakeError)
  | session (key : Bytes) (formatted : Session.Formatted)
  deriving DecidableEq, Repr

/-- A frame that is handed to the lower layer, and the message in it. -/
structure Transmission where
  frame : Bytes
  written : Bytes
  content : Content
  deriving DecidableEq, Repr

/-- A derivation of session keys from two handshake messages. -/
structure Derivation where
  request : Bytes
  reply : Bytes
  inputKeyMaterial : List Bytes
  session : Session
  deriving DecidableEq, Repr

inductive Observation
  /-- a frame is accepted by the lower layer, or refused by it -/
  | transmit (transmission : Transmission)
  | refused (transmission : Transmission)
  /-- the lower layer reports that it is ready again -/
  | completed
  /-- callbacks into the upper layer -/
  | opened
  | closed
  | txReady
  | rxReady
  /-- the upper layer's data is accepted; a payload is returned to it -/
  | submit (data : Bytes)
  | read (payload : Bytes)
  /-- a payload becomes available to the upper layer -/
  | placed (payload : Bytes)
  /-- a fresh value goes into a handshake message -/
  | drew (value : Bytes)
  /-- the pending session is initialized; it becomes the active one -/
  | initialized (derivation : Derivation)
  | activated (session : Session)
  /-- the tag of a message is right under a key; the message passes all checks -/
  | verified (key : Bytes) (message : SessionData)
  | accepted (key : Bytes) (message : SessionData) (payload : Bytes)
  /-- the warnings about a message that could not be formatted -/
  | dataFormatFailed
  | authFormatFailed
  deriving DecidableEq, Repr

/-- The callbacks of `IUpperLayer`. -/
inductive Callback
  | onLowerOpen
  | onLowerClose
  | onLowerTxReady
  | onLowerRxReady
  deriving DecidableEq, Repr

/-- What is left to do: a callback the upper layer is in, or code of this layer. -/
inductive Task
  | upper (callback : Callback)
  /-- the loop of `try_read_from_lower` -/
  | tryReadFromLower
  | checkTransmit
  /-- the rest of an auth message behind `on_lower_open` -/
  | authPayload (payload : Bytes)
  /-- the state that `on_auth_message` returns -/
  | enterIdle
  /-- the rest of `on_lower_close_impl` behind `on_lower_close` -/
  | afterClose
  deriving DecidableEq, Repr

/-! ## The base class -/

/-- Which of the two sessions. -/
inductive Slot
  | active
  | pending
  deriving DecidableEq, Repr

structure CryptoLayer where
  isOpen : Bool
  upperIsProcessingRxData : Bool
  active : Session
  pending : Session
  statistics : SessionStatistics
  txState : TxState
  payloadData : Bytes
  /-- the flag of the upper layer -/
  upperOpen : Bool
  /-- the lower layer: what it answers to `is_tx_ready`, and its received messages -/
  lowerTxReady : Bool
  lowerRx : List Bytes
  trace : List Observation
  deriving DecidableEq, Repr

namespace CryptoLayer

def create : CryptoLayer where
  isOpen := false
  upperIsProcessingRxData := false
  active := Session.create
  pending := Session.create
  statistics := SessionStatistics.zero
  txState := TxState.idle
  payloadData := []
  upperOpen := false
  lowerTxReady := false
  lowerRx := []
  trace := []

def log (layer : CryptoLayer) (observation : Observation) : CryptoLayer :=
  { layer with trace := layer.trace ++ [observation] }

def session (layer : CryptoLayer) : Slot → Session
  | .active => layer.active
  | .pending => layer.pending

def setSession (layer : CryptoLayer) (slot : Slot) (session : Session) : CryptoLayer :=
  match slot with
  | .active => { layer with active := session }
  | .pending => { layer with pending := session }

/-! ### The interface below -/

/-- `lower->start_tx_from_upper`. -/
def lowerStartTx (layer : CryptoLayer) (transmission : Transmission) : Bool × CryptoLayer :=
  if layer.lowerTxReady then
    (true, { layer with lowerTxReady := false }.log (.transmit transmission))
  else (false, layer.log (.refused transmission))

/-! ### The interface above -/

/-- `upper->on_lower_open`. -/
def openUpper (layer : CryptoLayer) : CryptoLayer × List Task :=
  if layer.upperOpen then (layer, [])
  else ({ layer with upperOpen := true }.log .opened, [.upper .onLowerOpen])

/-- `upper->on_lower_close`. -/
def closeUpper (layer : CryptoLayer) : CryptoLayer × List Task :=
  if layer.upperOpen then
    ({ layer with upperOpen := false }.log .closed, [.upper .onLowerClose])
  else (layer, [])

/-- `upper->on_lower_tx_ready`. -/
def notifyTxReady (layer : CryptoLayer) : CryptoLayer × List Task :=
  if layer.upperOpen then (layer.log .txReady, [.upper .onLowerTxReady]) else (layer, [])

/-- `upper->on_lower_rx_ready`. -/
def notifyRxReady (layer : CryptoLayer) : CryptoLayer × List Task :=
  if layer.upperOpen then (layer.log .rxReady, [.upper .onLowerRxReady]) else (layer, [])

def isTxReady (layer : CryptoLayer) : Bool :=
  layer.isOpen && layer.upperOpen && layer.txState.isIdle

/-- `start_tx_from_upper`. -/
def startTxFromUpper (layer : CryptoLayer) (data : Bytes) : CryptoLayer × List Task :=
  if layer.isTxReady then
    ({ layer with txState := TxState.initializeWith data }.log (.submit data), [.checkTransmit])
  else (layer, [])

/-- `ILowerLayer::start_rx_from_upper` around `start_rx_from_upper_impl`.  An empty
result is returned only behind the loop, and changes nothing then. -/
def startRxFromUpper (layer : CryptoLayer) : CryptoLayer × List Task :=
  let layer :=
    if layer.upperIsProcessingRxData then
      { layer with payloadData := [], upperIsProcessingRxData := false }
    else layer
  if layer.payloadData.isEmpty then (layer, [.tryReadFromLower])
  else ({ layer with upperIsProcessingRxData := true }.log (.read layer.payloadData), [])

/-- A payload becomes available. -/
def placePayload (layer : CryptoLayer) (payload : Bytes) : CryptoLayer :=
  { layer with payloadData := payload }.log (.placed payload)

/-! ### Sessions -/

/-- `Sessions::reset_both`. -/
def resetBoth (layer : CryptoLayer) : CryptoLayer :=
  { layer with active := layer.active.reset, pending := layer.pending.reset }

/-- `Sessions::activate_pending`. -/
def activatePending (layer : CryptoLayer) : CryptoLayer :=
  { layer with active := layer.pending, pending := layer.active.reset }.log
    (.activated layer.pending)

/-- Record that a session finds the tag of a message right. -/
def logVerified (ctx : SessionContext) (session : Session) (msg : SessionData)
    (layer : CryptoLayer) : CryptoLayer :=
  match session.valid, SessionMode.read ctx.backend session.algorithms.sessionMode
      session.keys.rxKey msg ctx.payloadBufferLength with
  | true, .ok _ => layer.log (.verified session.keys.rxKey msg)
  | _, _ => layer

def canTransmitSessionData (layer : CryptoLayer) : Bool :=
  layer.active.valid && layer.lowerTxReady && layer.txState.isReadyTx

/-- The frame of a formatted message. -/
def sessionTransmission (session : Session) (formatted : Session.Formatted) : Transmission :=
  ⟨formatted.frame, formatted.message.wire, .session session.keys.txKey formatted⟩

/-- `transmit_session_auth`. -/
def transmitSessionAuth (ctx : SessionContext) (layer : CryptoLayer) (slot : Slot) (now : Time) :
    Bool × CryptoLayer :=
  let session := layer.session slot
  let outcome := session.formatSessionAuth ctx now layer.txState.remainder
  match outcome.result with
  | .error _ => (false, layer.log .authFormatFailed)
  | .ok formatted =>
      let layer := layer.setSession slot outcome.session
      let layer :=
        if layer.txState.remainder.isEmpty then layer
        else { layer with txState := layer.txState.beginTransmit outcome.remainder }
      layer.lowerStartTx (sessionTransmission session formatted)

end CryptoLayer

/-! ## The initiator -/

/-- The states of `InitiatorHandshakeStates`. -/
inductive HandshakeState
  | idle
  | waitForBeginReply
  | waitForAuthReply
  | waitForRetry
  | badConfiguration
  deriving DecidableEq, Repr

inductive TimerKind
  | response
  | retry
  | session
  deriving DecidableEq, Repr

/-- A timer that the executor will fire. -/
structure Timer where
  id : Nat
  kind : TimerKind
  due : Time
  deriving DecidableEq, Repr

/-- `InitiatorConfig::Params`. -/
structure InitiatorParams where
  responseTimeout : Duration
  retryTimeout : Duration
  sessionTimeRenegotiationTriggerMs : UInt32
  nonceRenegotiationTriggerValue : UInt16
  deriving DecidableEq, Repr

structure InitiatorConfig where
  params : InitiatorParams
  sessionLimits : SessionLimits
  mode : InitiatorMode
  deriving DecidableEq, Repr

/-- The members that the initiator adds to the base class.  The two timer members are
handles: giving one a new value does not stop the timer it referred to.
`requestData` is the request that the running hash started with. -/
structure InitiatorState where
  handshakeState : HandshakeState
  handshake : InitiatorHandshake
  handshakeRequired : Bool
  responseAndRetryTimer : Option Nat
  sessionTimeoutTimer : Option Nat
  timers : List Timer
  nextTimer : Nat
  requestData : Bytes
  deriving DecidableEq, Repr

namespace InitiatorState

def create : InitiatorState :=
  ⟨.idle, InitiatorHandshake.create, false, none, none, [], 0, []⟩

def startResponseTimer (state : InitiatorState) (params : InitiatorParams) (now : Time) :
    InitiatorState :=
  { state with
    responseAndRetryTimer := some state.nextTimer
    timers := state.timers ++ [⟨state.nextTimer, .response, now + params.responseTimeout⟩]
    nextTimer := state.nextTimer + 1 }

def startRetryTimer (state : InitiatorState) (params : InitiatorParams) (now : Time) :
    InitiatorState :=
  { state with
    responseAndRetryTimer := some state.nextTimer
    timers := state.timers ++ [⟨state.nextTimer, .retry, now + params.retryTimeout⟩]
    nextTimer := state.nextTimer + 1 }

def startSessionTimer (state : InitiatorState) (due : Time) : InitiatorState :=
  { state with
    sessionTimeoutTimer := some state.nextTimer
    timers := state.timers ++ [⟨state.nextTimer, .session, due⟩]
    nextTimer := state.nextTimer + 1 }

/-- The timers that are left when a handle is cancelled. -/
def cancelHandle (timers : List Timer) : Option Nat → List Timer
  | none => timers
  | some id => timers.filter (fun timer => timer.id ≠ id)

def cancelResponseAndRetryTimer (state : InitiatorState) : InitiatorState :=
  { state with
    timers := cancelHandle state.timers state.responseAndRetryTimer
    responseAndRetryTimer := none }

def cancelSessionTimeoutTimer (state : InitiatorState) : InitiatorState :=
  { state with
    timers := cancelHandle state.timers state.sessionTimeoutTimer
    sessionTimeoutTimer := none }

/-- A failed attempt is retried later. -/
def retryLater (state : InitiatorState) (params : InitiatorParams) (now : Time) : InitiatorState :=
  { state.startRetryTimer params now with handshakeState := .waitForRetry }

/-- `Initiator::reset_state_on_close_from_lower`. -/
def resetStateOnClose (state : InitiatorState) : InitiatorState :=
  { state.cancelResponseAndRetryTimer.cancelSessionTimeoutTimer with
    handshakeState := .idle
    handshakeRequired := false }

end InitiatorState

/-- The derived classes. -/
inductive Role
  | initiator (config : InitiatorConfig)
  | responder (mode : ResponderMode)
  deriving DecidableEq, Repr

structure Config where
  ctx : SessionContext
  role : Role

/-- What a step takes from outside: two readings of the clock, the bytes that a random
generator fills in, the record that the key source hands out, and the lookup of
keys. -/
structure Env where
  now : Time
  later : Time
  random : Random
  keyRecord : Option KeyRecord
  findKey : UInt64 → Option Bytes

/-- A layer with the members of both classes; a responder leaves those of the
initiator alone. -/
structure Layer where
  base : CryptoLayer
  initiator : InitiatorState
  deriving DecidableEq, Repr

namespace Layer

def create : Layer := ⟨CryptoLayer.create, InitiatorState.create⟩

/-- The part of a drawn value that is fresh: the nonce, the ephemeral key or the key
identifier. -/
def freshValue (init : InitiatorHandshake.InitResult) : InitiatorMode → Bytes
  | .sharedSecret _ _ => init.modeEphemeral
  | .qkd _ => init.modeData
  | .publicKey _ _ _ => init.modeEphemeral

/-- `on_handshake_required` of the current state. -/
def onHandshakeRequired (ctx : SessionContext) (config : InitiatorConfig) (env : Env) (now : Time)
    (layer : Layer) : Layer :=
  match layer.initiator.handshakeState with
  | .idle =>
      if !layer.base.lowerTxReady then
        { layer with initiator := { layer.initiator with handshakeRequired := true } }
      else
        match layer.initiator.handshake.initializeNewHandshake ctx.backend config.mode env.random
            env.keyRecord with
        | (none, handshake) =>
            { layer with
              initiator := { layer.initiator with handshake := handshake }.retryLater config.params
                env.later }
        | (some init, handshake) =>
            let base := layer.base.log (.drew (freshValue init config.mode))
            match ctx.frameWriter.write
                (InitiatorHandshake.request config.mode config.sessionLimits init).write with
            | .error _ =>
                ⟨base, { layer.initiator with
                  handshake := handshake
                  handshakeState := .badConfiguration }⟩
            | .ok result =>
                let handshake := handshake.finalizeRequestTx ctx.backend config.mode result.written
                  now
                let sent := base.lowerStartTx ⟨result.frame, result.written, .request⟩
                ⟨sent.2,
                  { layer.initiator with
                    handshake := handshake
                    requestData := result.written
                    handshakeState := .waitForBeginReply }.startResponseTimer config.params
                    env.later⟩
  -- every other state defers the renegotiation
  | _ => { layer with initiator := { layer.initiator with handshakeRequired := true } }

/-- `on_session_nonce_change`; a responder does nothing there. -/
def onSessionNonceChange (cfg : Config) (env : Env) (layer : Layer) : Layer :=
  match cfg.role with
  | .responder _ => layer
  | .initiator config =>
      if max layer.base.active.txNonce layer.base.active.rxNonce ≥
          config.params.nonceRenegotiationTriggerValue then
        onHandshakeRequired cfg.ctx config env env.later
          { layer with initiator := layer.initiator.cancelSessionTimeoutTimer }
      else layer

/-- `WaitForBeginReply::on_reply_message`; any other state ignores the message. -/
def onReplyMessage (ctx : SessionContext) (config : InitiatorConfig) (env : Env) (layer : Layer)
    (msg : ReplyHandshakeBegin) (rawData : Bytes) : Layer :=
  if layer.initiator.handshakeState ≠ .waitForBeginReply then layer
  else
    let state := layer.initiator.cancelResponseAndRetryTimer
    let outcome := InitiatorHandshake.initializeSession ctx.backend config.mode state.handshake msg
      rawData config.sessionLimits env.now layer.base.pending layer.base.statistics
    let ikm := InitiatorHandshake.material ctx.backend config.mode state.handshake msg
    let state := { state with handshake := outcome.handshake }
    let base := { layer.base with pending := outcome.session, statistics := outcome.stats }
    if !outcome.success then ⟨base, state.retryLater config.params env.later⟩
    else
      let base := base.log
        (.initialized ⟨state.requestData, rawData, ikm.getD [], outcome.session⟩)
      match base.transmitSessionAuth ctx .pending env.later with
      | (false, base) => ⟨base, state.retryLater config.params env.later⟩
      | (true, base) =>
          ⟨base, { state.startResponseTimer config.params env.later with
            handshakeState := .waitForAuthReply }⟩

/-- `on_error_message` of the two states that wait for a message. -/
def onErrorMessage (config : InitiatorConfig) (env : Env) (layer : Layer) : Layer :=
  match layer.initiator.handshakeState with
  | .waitForBeginReply | .waitForAuthReply =>
      { layer with
        initiator := layer.initiator.cancelResponseAndRetryTimer.retryLater
          config.params env.later }
  | _ => layer

/-- `WaitForAuthReply::on_auth_message`.  The state is left only when the callbacks
have returned. -/
def onAuthMessage (ctx : SessionContext) (config : InitiatorConfig) (env : Env) (layer : Layer)
    (msg : SessionData) : Layer × List Task :=
  if layer.initiator.handshakeState ≠ .waitForAuthReply then (layer, [])
  else
    let state := layer.initiator.cancelResponseAndRetryTimer
    let session := layer.base.pending
    let base := layer.base.logVerified ctx session msg
    match session.validateSessionAuth ctx base.statistics msg env.now with
    | (.error _, pending, stats) =>
        (⟨{ base with pending := pending, statistics := stats },
          state.retryLater config.params env.later⟩, [])
    | (.ok payload, pending, stats) =>
        let base := { base with pending := pending, statistics := stats }.log
          (.accepted session.keys.rxKey msg payload)
        let base := base.activatePending
        let due := base.active.parameters.sessionStart +
          milliseconds config.params.sessionTimeRenegotiationTriggerMs
        let state := { state with handshakeRequired := false }.startSessionTimer due
        let opened := base.openUpper
        (⟨opened.1, state⟩, opened.2 ++ [.authPayload payload, .enterIdle])

/-! ## The responder -/

/-- `reply_with_handshake_error`. -/
def replyWithHandshakeError (ctx : SessionContext) (layer : Layer) (error : HandshakeError) :
    Layer :=
  match ctx.frameWriter.write (ReplyHandshakeError.mk Version.get error).write with
  | .error _ => layer
  | .ok result =>
      { layer with
        base := (layer.base.lowerStartTx ⟨result.frame, result.written, .handshakeError error⟩).2 }

/-- What is fresh in an exchange on the responder's side. -/
def freshReply (backend : CryptoBackend) (mode : ResponderMode) (msg : RequestHandshakeBegin)
    (random : Random) : Bytes :=
  match mode with
  | .sharedSecret _ => random.1
  | .qkd => msg.modeData
  | .publicKey _ _ => (genKeypairX25519 backend random).publicKey

/-- `Responder::on_message(RequestHandshakeBegin)`. -/
def onRequest (ctx : SessionContext) (mode : ResponderMode) (env : Env) (layer : Layer)
    (msg : RequestHandshakeBegin) (rawMsg : Bytes) : Layer :=
  if msg.version.majorVersion ≠ Version.get.majorVersion then
    replyWithHandshakeError ctx layer .unsupportedVersion
  else
    let outcome := mode.process ctx.backend ctx.frameWriter msg rawMsg env.now
      env.random env.findKey
      layer.base.pending layer.base.statistics
    let base := { layer.base with pending := outcome.session, statistics := outcome.stats }
    match outcome.result with
    | .error e => replyWithHandshakeError ctx { layer with base := base } e
    | .ok result =>
        let base := base.log (.drew (freshReply ctx.backend mode msg env.random))
        let ikm := mode.material ctx.backend msg env.random env.findKey
        let base :=
          if outcome.initialized then
            base.log (.initialized ⟨rawMsg, result.written, ikm.getD [], outcome.session⟩)
          else base
        { layer with base := (base.lowerStartTx ⟨result.frame, result.written, .reply⟩).2 }

/-- `Responder::on_auth_session`. -/
def onAuthSession (ctx : SessionContext) (env : Env) (layer : Layer) (msg : SessionData) :
    Layer × List Task :=
  if !layer.base.pending.valid then (replyWithHandshakeError ctx layer .noPriorHandshakeBegin, [])
  else
    let session := layer.base.pending
    let base := layer.base.logVerified ctx session msg
    match session.validateSessionAuth ctx base.statistics msg env.now with
    | (.error _, pending, stats) =>
        ({ layer with base := { base with pending := pending, statistics := stats } }, [])
    | (.ok payload, pending, stats) =>
        let base := { base with pending := pending, statistics := stats }.log
          (.accepted session.keys.rxKey msg payload)
        match base.activatePending.transmitSessionAuth ctx .active env.later with
        | (false, base) => ({ layer with base := base }, [])
        | (true, base) =>
            let opened := base.openUpper
            ({ layer with base := opened.1 }, opened.2 ++ [.authPayload payload])

/-! ## Received messages -/

/-- `on_session_data`. -/
def onSessionData (cfg : Config) (env : Env) (layer : Layer) (msg : SessionData) :
    Layer × List Task :=
  let session := layer.base.active
  let base := layer.base.logVerified cfg.ctx session msg
  match session.validateSessionData cfg.ctx base.statistics msg env.now with
  | (.error _, active, stats) =>
      ({ layer with base := { base with active := active, statistics := stats } }, [])
  | (.ok payload, active, stats) =>
      let base := { base with active := active, statistics := stats }.log
        (.accepted session.keys.rxKey msg payload)
      let layer := onSessionNonceChange cfg env { layer with base := base.placePayload payload }
      let notified := layer.base.notifyRxReady
      ({ layer with base := notified.1 }, notified.2)

/-- `on_message(SessionData)`. -/
def onSessionMessage (cfg : Config) (env : Env) (layer : Layer) (msg : SessionData) :
    Layer × List Task :=
  if msg.metadata.nonce = 0 then
    match cfg.role with
    | .initiator config => onAuthMessage cfg.ctx config env layer msg
    | .responder _ => onAuthSession cfg.ctx env layer msg
  else onSessionData cfg env layer msg

/-- `process`, with `supports` and `handle_message`. -/
def process (cfg : Config) (env : Env) (layer : Layer) (message : Bytes) : Layer × List Task :=
  match message with
  | [] => (layer, [])
  | rawFunction :: _ =>
      match Function.spec.fromType rawFunction, cfg.role with
      | some .replyHandshakeBegin, .initiator config =>
          match ReplyHandshakeBegin.read message with
          | .error _ => (layer, [])
          | .ok msg => (onReplyMessage cfg.ctx config env layer msg message, [])
      | some .replyHandshakeError, .initiator config =>
          match ReplyHandshakeError.read message with
          | .error _ => (layer, [])
          | .ok _ => (onErrorMessage config env layer, [])
      | some .requestHandshakeBegin, .responder mode =>
          match RequestHandshakeBegin.read message with
          | .error _ => (replyWithHandshakeError cfg.ctx layer .badMessageFormat, [])
          | .ok msg => (onRequest cfg.ctx mode env layer msg message, [])
      | some .sessionData, _ =>
          match SessionData.read message with
          | .error _ => (layer, [])
          | .ok msg => onSessionMessage cfg env layer msg
      | _, _ => (layer, [])

/-- `try_read_one_from_lower`, and the next iteration of its loop. -/
def tryReadFromLower (cfg : Config) (env : Env) (layer : Layer) : Layer × List Task :=
  if !layer.base.lowerTxReady || !layer.base.payloadData.isEmpty then (layer, [])
  else
    match layer.base.lowerRx with
    | [] => (layer, [])
    | message :: messages =>
        let layer := { layer with base := { layer.base with lowerRx := messages } }
        if message.isEmpty then (layer, [])
        else
          let processed := process cfg env layer message
          (processed.1, processed.2 ++ [.tryReadFromLower])

/-! ## Transmission -/

/-- `check_transmit`. -/
def checkTransmit (cfg : Config) (env : Env) (layer : Layer) : Layer × List Task :=
  if !layer.base.canTransmitSessionData then (layer, [])
  else
    let session := layer.base.active
    let outcome := session.formatSessionData cfg.ctx env.now layer.base.txState.remainder
    match outcome.result with
    | .error _ =>
        let base := layer.base.log .dataFormatFailed
        let closed := { base with active := session.reset }.closeUpper
        ({ layer with base := closed.1 }, closed.2)
    | .ok formatted =>
        let base :=
          { layer.base with
            active := outcome.session
            txState := layer.base.txState.beginTransmit outcome.remainder }
        let sent := base.lowerStartTx (CryptoLayer.sessionTransmission session formatted)
        (onSessionNonceChange cfg env { layer with base := sent.2 }, [])

/-! ## Events of the lower layer and of the executor -/

/-- `on_lower_open`; the lower layer is ready to transmit or not. -/
def onLowerOpen (cfg : Config) (env : Env) (layer : Layer) (ready : Bool) : Layer :=
  if layer.base.isOpen then layer
  else
    let layer := { layer with base := { layer.base with isOpen := true, lowerTxReady := ready } }
    match cfg.role with
    | .initiator config => onHandshakeRequired cfg.ctx config env env.now layer
    | .responder _ => layer

/-- `on_lower_close`. -/
def onLowerClose (cfg : Config) (layer : Layer) (ready : Bool) : Layer × List Task :=
  if !layer.base.isOpen then (layer, [])
  else
    let initiator :=
      match cfg.role with
      | .initiator _ => layer.initiator.resetStateOnClose
      -- `Responder::reset_state_on_close_from_lower` resets the sessions, as the base does
      | .responder _ => layer.initiator
    let base := { layer.base with isOpen := false, lowerTxReady := ready }.resetBoth
    let closed := { base with payloadData := [] }.closeUpper
    (⟨closed.1, initiator⟩, closed.2 ++ [.afterClose])

/-- `on_pre_tx_ready`; a responder does nothing there. -/
def onPreTxReady (cfg : Config) (env : Env) (layer : Layer) : Layer :=
  match cfg.role with
  | .initiator config =>
      if layer.initiator.handshakeRequired then onHandshakeRequired cfg.ctx config env env.now layer
      else layer
  | .responder _ => layer

/-- The lower layer has become ready: `on_lower_tx_ready`. -/
def onLowerTxReady (cfg : Config) (env : Env) (layer : Layer) : Layer × List Task :=
  let base := { layer.base with lowerTxReady := true }.log .completed
  if !base.isOpen then ({ layer with base := base }, [])
  else
    let complete := base.txState.onTxComplete
    let layer := onPreTxReady cfg env { layer with base := { base with txState := complete.2 } }
    if complete.1 then
      let notified := layer.base.notifyTxReady
      ({ layer with base := notified.1 }, notified.2 ++ [.tryReadFromLower, .checkTransmit])
    else (layer, [.tryReadFromLower, .checkTransmit])

/-- `on_lower_rx_ready`. -/
def onLowerRxReady (layer : Layer) : Layer × List Task :=
  if layer.base.isOpen then (layer, [.tryReadFromLower]) else (layer, [])

/-- A timer fires; it is armed no longer. -/
def onTimer (cfg : Config) (env : Env) (layer : Layer) (timer : Timer) : Layer :=
  let layer := { layer with initiator := { layer.initiator with
    timers := layer.initiator.timers.filter (fun other => other.id ≠ timer.id) } }
  match cfg.role with
  | .responder _ => layer
  | .initiator config =>
      match timer.kind with
      | .response =>
          match layer.initiator.handshakeState with
          | .waitForBeginReply | .waitForAuthReply =>
              { layer with initiator := layer.initiator.retryLater config.params env.now }
          | _ => layer
      | .retry =>
          let layer :=
            match layer.initiator.handshakeState with
            | .waitForRetry =>
                { layer with initiator := { layer.initiator with handshakeState := .idle } }
            | _ => layer
          onHandshakeRequired cfg.ctx config env env.now layer
      | .session => onHandshakeRequired cfg.ctx config env env.now layer

/-! ## Pending tasks -/

/-- Run a task of this layer; a callback is not one. -/
def runTask (cfg : Config) (env : Env) (layer : Layer) : Task → Option (Layer × List Task)
  | .upper _ => none
  | .tryReadFromLower => some (tryReadFromLower cfg env layer)
  | .checkTransmit => some (checkTransmit cfg env layer)
  | .authPayload payload =>
      if payload.isEmpty then some (layer, [])
      else
        let notified := (layer.base.placePayload payload).notifyRxReady
        some ({ layer with base := notified.1 }, notified.2)
  | .enterIdle =>
      some ({ layer with initiator := { layer.initiator with handshakeState := .idle } }, [])
  | .afterClose =>
      some ({ layer with base := { layer.base with
        txState := TxState.idle
        upperIsProcessingRxData := false } }, [])

/-- A task, with what running it leads to. -/
inductive Ran (cfg : Config) (env : Env) (layer : Layer) : Task → Layer × List Task → Prop
  | tryReadFromLower : Ran cfg env layer .tryReadFromLower (tryReadFromLower cfg env layer)
  | checkTransmit : Ran cfg env layer .checkTransmit (checkTransmit cfg env layer)
  | noPayload : Ran cfg env layer (.authPayload []) (layer, [])
  | authPayload {payload : Bytes} (hne : payload ≠ []) :
      Ran cfg env layer (.authPayload payload)
        ({ layer with base := (layer.base.placePayload payload).notifyRxReady.1 },
          (layer.base.placePayload payload).notifyRxReady.2)
  | enterIdle :
      Ran cfg env layer .enterIdle
        ({ layer with initiator := { layer.initiator with handshakeState := .idle } }, [])
  | afterClose :
      Ran cfg env layer .afterClose
        ({ layer with base := { layer.base with
          txState := TxState.idle
          upperIsProcessingRxData := false } }, [])

theorem ran_of_runTask {cfg : Config} {env : Env} {layer : Layer} {task : Task}
    {result : Layer × List Task} (hrun : runTask cfg env layer task = some result) :
    Ran cfg env layer task result := by
  cases task with
  | upper callback => cases hrun
  | tryReadFromLower =>
      cases hrun
      exact .tryReadFromLower
  | checkTransmit =>
      cases hrun
      exact .checkTransmit
  | authPayload payload =>
      simp only [runTask] at hrun
      split_ifs at hrun with hempty
      · cases List.isEmpty_iff.mp hempty
        cases hrun
        exact .noPayload
      · cases hrun
        exact .authPayload (by simpa using hempty)
  | enterIdle =>
      cases hrun
      exact .enterIdle
  | afterClose =>
      cases hrun
      exact .afterClose

end Layer

/-! ## Runs -/

/-- A layer and what it has left to do, the next task first. -/
structure Machine where
  layer : Layer
  stack : List Task
  deriving DecidableEq, Repr

/-- What can happen next. -/
inductive Label
  /-- a message arrives at the lower layer -/
  | receive (message : Bytes)
  /-- events between which the layer is at rest -/
  | lowerOpen (ready : Bool) (env : Env)
  | lowerClose (ready : Bool)
  | lowerTxReady (env : Env)
  | lowerRxReady
  | timer (id : Nat) (env : Env)
  /-- calls of the upper layer, at rest or from inside a callback -/
  | startRx
  | startTx (data : Bytes)
  /-- the upper layer returns from a callback -/
  | ret
  /-- this layer goes on -/
  | run (env : Env)

namespace Machine

def create : Machine := ⟨Layer.create, []⟩

/-- The upper layer can call: the layer is at rest or in a callback. -/
def upperMayCall : List Task → Bool
  | [] => true
  | .upper _ :: _ => true
  | _ :: _ => false

/-- A result of a call: its tasks come before what was left to do. -/
def push (result : Layer × List Task) (stack : List Task) : Machine :=
  ⟨result.1, result.2 ++ stack⟩

/-- One step, if the label is possible. -/
def step (cfg : Config) (machine : Machine) : Label → Option Machine
  | .receive message =>
      some { machine with
        layer := { machine.layer with base := { machine.layer.base with
          lowerRx := machine.layer.base.lowerRx ++ [message] } } }
  | .lowerOpen ready env =>
      if machine.stack = [] then some ⟨machine.layer.onLowerOpen cfg env ready, []⟩ else none
  | .lowerClose ready =>
      if machine.stack = [] then some (push (machine.layer.onLowerClose cfg ready) []) else none
  | .lowerTxReady env =>
      if machine.stack = [] then some (push (machine.layer.onLowerTxReady cfg env) []) else none
  | .lowerRxReady =>
      if machine.stack = [] then some (push machine.layer.onLowerRxReady []) else none
  | .timer id env =>
      if machine.stack = [] then
        match machine.layer.initiator.timers.find? (fun timer => timer.id = id) with
        | none => none
        | some timer =>
            if timer.due ≤ env.now then some ⟨machine.layer.onTimer cfg env timer, []⟩ else none
      else none
  | .startRx =>
      if upperMayCall machine.stack then
        let called := machine.layer.base.startRxFromUpper
        some (push ({ machine.layer with base := called.1 }, called.2) machine.stack)
      else none
  | .startTx data =>
      if upperMayCall machine.stack then
        let called := machine.layer.base.startTxFromUpper data
        some (push ({ machine.layer with base := called.1 }, called.2) machine.stack)
      else none
  | .ret =>
      match machine.stack with
      | .upper _ :: stack => some ⟨machine.layer, stack⟩
      | _ => none
  | .run env =>
      match machine.stack with
      | [] => none
      | task :: stack => (machine.layer.runTask cfg env task).map (fun result => push result stack)

/-- A sequence of steps. -/
def run (cfg : Config) (machine : Machine) (labels : List Label) : Option Machine :=
  Runs.run (step cfg) machine labels

/-- A step, with what makes it possible. -/
inductive Steps (cfg : Config) : Machine → Label → Machine → Prop
  | receive (layer : Layer) (stack : List Task) (message : Bytes) :
      Steps cfg ⟨layer, stack⟩ (.receive message)
        ⟨{ layer with base :=
          { layer.base with lowerRx := layer.base.lowerRx ++ [message] } }, stack⟩
  | lowerOpen (layer : Layer) (ready : Bool) (env : Env) :
      Steps cfg ⟨layer, []⟩ (.lowerOpen ready env) ⟨layer.onLowerOpen cfg env ready, []⟩
  | lowerClose (layer : Layer) (ready : Bool) :
      Steps cfg ⟨layer, []⟩ (.lowerClose ready)
        ⟨(layer.onLowerClose cfg ready).1, (layer.onLowerClose cfg ready).2⟩
  | lowerTxReady (layer : Layer) (env : Env) :
      Steps cfg ⟨layer, []⟩ (.lowerTxReady env)
        ⟨(layer.onLowerTxReady cfg env).1, (layer.onLowerTxReady cfg env).2⟩
  | lowerRxReady (layer : Layer) :
      Steps cfg ⟨layer, []⟩ .lowerRxReady ⟨layer.onLowerRxReady.1, layer.onLowerRxReady.2⟩
  | timer {layer : Layer} {timer : Timer} {id : Nat} (env : Env)
      (hfind : layer.initiator.timers.find? (fun timer => timer.id = id) = some timer)
      (hdue : timer.due ≤ env.now) :
      Steps cfg ⟨layer, []⟩ (.timer id env) ⟨layer.onTimer cfg env timer, []⟩
  | startRx (layer : Layer) {stack : List Task} (hcall : upperMayCall stack = true) :
      Steps cfg ⟨layer, stack⟩ .startRx
        ⟨{ layer with base := layer.base.startRxFromUpper.1 },
          layer.base.startRxFromUpper.2 ++ stack⟩
  | startTx (layer : Layer) {stack : List Task} (data : Bytes) (hcall : upperMayCall stack = true) :
      Steps cfg ⟨layer, stack⟩ (.startTx data)
        ⟨{ layer with base := (layer.base.startTxFromUpper data).1 },
          (layer.base.startTxFromUpper data).2 ++ stack⟩
  | ret (layer : Layer) (stack : List Task) (callback : Callback) :
      Steps cfg ⟨layer, .upper callback :: stack⟩ .ret ⟨layer, stack⟩
  | run {layer : Layer} {task : Task} {result : Layer × List Task} (stack : List Task) (env : Env)
      (hrun : layer.runTask cfg env task = some result) :
      Steps cfg ⟨layer, task :: stack⟩ (.run env) ⟨result.1, result.2 ++ stack⟩

theorem steps_of_step {cfg : Config} {machine machine' : Machine} {label : Label}
    (hstep : machine.step cfg label = some machine') : Steps cfg machine label machine' := by
  obtain ⟨layer, stack⟩ := machine
  cases label with
  | receive message =>
      cases hstep
      exact .receive layer stack message
  | lowerOpen ready env =>
      obtain ⟨rfl, ⟨⟩⟩ := Option.ite_none_right_eq_some.mp hstep
      exact .lowerOpen layer ready env
  | lowerClose ready =>
      obtain ⟨rfl, ⟨⟩⟩ := Option.ite_none_right_eq_some.mp hstep
      simpa only [push, List.append_nil] using Steps.lowerClose layer ready
  | lowerTxReady env =>
      obtain ⟨rfl, ⟨⟩⟩ := Option.ite_none_right_eq_some.mp hstep
      simpa only [push, List.append_nil] using Steps.lowerTxReady layer env
  | lowerRxReady =>
      obtain ⟨rfl, ⟨⟩⟩ := Option.ite_none_right_eq_some.mp hstep
      simpa only [push, List.append_nil] using Steps.lowerRxReady layer
  | timer id env =>
      obtain ⟨rfl, hfires⟩ := Option.ite_none_right_eq_some.mp hstep
      split at hfires
      · cases hfires
      · rename_i timer hfind
        obtain ⟨hdue, ⟨⟩⟩ := Option.ite_none_right_eq_some.mp hfires
        exact .timer env hfind hdue
  | startRx =>
      obtain ⟨hcall, ⟨⟩⟩ := Option.ite_none_right_eq_some.mp hstep
      exact .startRx layer hcall
  | startTx data =>
      obtain ⟨hcall, ⟨⟩⟩ := Option.ite_none_right_eq_some.mp hstep
      exact .startTx layer data hcall
  | ret =>
      simp only [step] at hstep
      split at hstep
      · cases hstep
        exact .ret layer _ _
      · cases hstep
  | run env =>
      simp only [step] at hstep
      split at hstep
      · cases hstep
      · obtain ⟨result, hrun, rfl⟩ := Option.map_eq_some_iff.mp hstep
        exact .run _ env hrun

end Machine

/-! ## A sample handshake

An initiator and a responder that share a secret, over the computable primitives.
Each message is what the other side's run has handed to its lower layer. -/

namespace Sample

def ctx (ttlPadMs : UInt32) : SessionContext :=
  ⟨Sodium.sample.backend [], .raw 4096, ttlPadMs, 4096⟩

def suite : CryptoSuite := ⟨.sha256, .hkdfSha256, .strictIncrement, .hmacSha256_16⟩

def key : Bytes := List.replicate 32 7

def initiator (limits : SessionLimits) : Config :=
  ⟨ctx 1000, .initiator ⟨⟨milliseconds 5000, milliseconds 5000, 60000, 30000⟩, limits,
    .sharedSecret suite key⟩⟩

def responder (ttlPadMs : UInt32) : Config := ⟨ctx ttlPadMs, .responder (.sharedSecret key)⟩

/-- The clock stands still; `seed` fills the random bytes. -/
def env (seed : UInt8) : Env :=
  ⟨0, 0, ⟨List.replicate 32 seed, by simp [Consts.nonceLength]⟩, none, fun _ => none⟩

/-- The state behind a run. -/
def reached (cfg : Config) (labels : List Label) : Machine :=
  (Machine.create.run cfg labels).getD Machine.create

/-- A frame that was handed to the lower layer. -/
def frame (machine : Machine) (i : Nat) : Bytes :=
  (machine.layer.base.trace.filterMap
    (fun | .transmit transmission => some transmission.frame | _ => none)).getD i []

def requesting : List Label := [.lowerOpen true (env 1)]

def request (limits : SessionLimits) : Bytes := frame (reached (initiator limits) requesting) 0

/-- The responder reads the request and answers it. -/
def replying (limits : SessionLimits) : List Label :=
  [.lowerOpen true (env 2), .receive (request limits), .lowerRxReady, .run (env 2), .run (env 2),
    .lowerTxReady (env 2), .run (env 2), .run (env 2)]

def reply (limits : SessionLimits) : Bytes := frame (reached (responder 1000) (replying limits)) 0

/-- The initiator reads the reply and sends its auth message. -/
def authenticating (limits : SessionLimits) : List Label :=
  requesting ++ [.lowerTxReady (env 1), .run (env 1), .run (env 1), .receive (reply limits),
    .lowerRxReady, .run (env 1), .run (env 1)]

def auth (limits : SessionLimits) : Bytes :=
  frame (reached (initiator limits) (authenticating limits)) 1

/-- The responder reads the auth message, and is in the callback that opens its upper
layer. -/
def opening (limits : SessionLimits) : List Label :=
  replying limits ++ [.receive (auth limits), .lowerRxReady, .run (env 2)]

end Sample

end Ssp21
