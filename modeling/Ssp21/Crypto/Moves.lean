import Ssp21.Crypto.Layer
import Mathlib.Logic.Relation

/-!
# What a step of the layer can do

Every step of a `Machine` is a sequence of `Move`s.  A move is one change of the
base class, of the task stack and of the request that the initiator waits on.  It
says nothing about timers, statistics counters or the other state of a handshake.
Invariants of the layer are proved once per move.

* `Snapshot` is what moves act on.
* `step_moves`: a step of a machine is a sequence of moves.
* `run_moves`: so is a run.
-/

namespace Ssp21

open Wire

/-! ## What the members of the layer return -/

namespace CryptoLayer

/-- The lower layer has accepted a frame. -/
def sent (layer : CryptoLayer) (transmission : Transmission) : CryptoLayer :=
  { layer with lowerTxReady := false }.log (.transmit transmission)

theorem lowerStartTx_ready {layer : CryptoLayer} (hready : layer.lowerTxReady = true)
    (transmission : Transmission) :
    layer.lowerStartTx transmission = (true, layer.sent transmission) := by
  simp [lowerStartTx, hready, sent]

/-- A message of the session in `slot` was formatted and sent; `rest` is what it left
of the upper layer's data. -/
def sentSession (layer : CryptoLayer) (slot : Slot) (rest : Bytes)
    (formatted : Session.Formatted) : CryptoLayer :=
  let session := layer.session slot
  { layer.setSession slot { session with txNonce := session.txNonce + 1 } with
    txState := layer.txState.beginTransmit rest }.sent (sessionTransmission session formatted)

theorem setSession_txState (layer : CryptoLayer) (slot : Slot) (session : Session) :
    (layer.setSession slot session).txState = layer.txState := by
  cases slot <;> rfl

theorem setSession_lowerTxReady (layer : CryptoLayer) (slot : Slot) (session : Session) :
    (layer.setSession slot session).lowerTxReady = layer.lowerTxReady := by
  cases slot <;> rfl

theorem transmitSessionAuth_cases (ctx : SessionContext) {layer : CryptoLayer}
    (hready : layer.lowerTxReady = true) (slot : Slot) (now : Time) :
    (∃ rest formatted, (layer.session slot).txNonce = 0 ∧
      Session.Formats ctx (layer.session slot) now layer.txState.remainder rest formatted ∧
      layer.transmitSessionAuth ctx slot now = (true, layer.sentSession slot rest formatted)) ∨
    (∃ e, ((layer.session slot).formatSessionAuth ctx now layer.txState.remainder).result =
        .error e ∧
      layer.transmitSessionAuth ctx slot now = (false, layer.log .authFormatFailed)) := by
  rcases Session.formatSessionAuth_cases ctx (layer.session slot) now layer.txState.remainder with
    ⟨rest, formatted, hnonce, hformats, heq⟩ | ⟨rest, e, heq⟩
  · refine Or.inl ⟨rest, formatted, hnonce, hformats, ?_⟩
    simp only [transmitSessionAuth, heq, setSession_txState]
    rw [lowerStartTx_ready]
    · simp only [sentSession, TxState.beginTransmit]
      by_cases hempty : layer.txState.remainder.isEmpty = true
      · simp only [hempty, if_true]
        cases slot <;> rfl
      · simp only [hempty, Bool.false_eq_true, if_false]
    · by_cases hempty : layer.txState.remainder.isEmpty = true
      · simp only [hempty, if_true, setSession_lowerTxReady, hready]
      · simp only [hempty, Bool.false_eq_true, if_false, setSession_lowerTxReady, hready]
  · exact Or.inr ⟨e, by rw [heq], by simp only [transmitSessionAuth, heq]⟩

end CryptoLayer

/-- `written` is a request of the initiator for the drawn values `init`. -/
def Requested (ctx : SessionContext) (config : InitiatorConfig)
    (init : InitiatorHandshake.InitResult) (written : Bytes) : Prop :=
  (InitiatorHandshake.request config.mode config.sessionLimits init).write ctx.frameWriter.room =
    .ok written

namespace Layer

/-- What a required handshake leads to. -/
inductive Negotiates (ctx : SessionContext) (config : InitiatorConfig) (layer : Layer) :
    Layer → Prop
  | deferred : Negotiates ctx config layer
      { layer with initiator := { layer.initiator with handshakeRequired := true } }
  | retried {initiator : InitiatorState} (hidle : layer.initiator.handshakeState = .idle)
      (hstate : initiator.handshakeState = .waitForRetry) :
      Negotiates ctx config layer ⟨layer.base, initiator⟩
  | failed {initiator : InitiatorState} (value : Bytes)
      (hidle : layer.initiator.handshakeState = .idle)
      (hstate : initiator.handshakeState = .badConfiguration) :
      Negotiates ctx config layer ⟨layer.base.log (.drew value), initiator⟩
  | requested {initiator : InitiatorState} (env : Env) (now : Time)
      (started : InitiatorHandshake) (init : InitiatorHandshake.InitResult) (written : Bytes)
      (hidle : layer.initiator.handshakeState = .idle) (hready : layer.base.lowerTxReady = true)
      (hinit : layer.initiator.handshake.initializeNewHandshake ctx.backend config.mode env.random
        env.keyRecord = (some init, started))
      (hrequested : Requested ctx config init written)
      (hstate : initiator.handshakeState = .waitForBeginReply)
      (hdata : initiator.requestData = written)
      (hhandshake : initiator.handshake =
        started.finalizeRequestTx ctx.backend config.mode written now) :
      Negotiates ctx config layer
        ⟨(layer.base.log (.drew (freshValue init config.mode))).sent
          ⟨ctx.frameWriter.frame written, written, .request⟩, initiator⟩

theorem onHandshakeRequired_negotiates (ctx : SessionContext) (config : InitiatorConfig)
    (env : Env) (now : Time) (layer : Layer) :
    Negotiates ctx config layer (onHandshakeRequired ctx config env now layer) := by
  unfold onHandshakeRequired
  split
  · rename_i hidle
    split_ifs with hready
    · exact .deferred
    · have hready' : layer.base.lowerTxReady = true := by simpa using hready
      split
      · exact .retried hidle rfl
      · rename_i init started hinit
        split
        · exact .failed _ hidle rfl
        · rename_i result hwrite
          obtain ⟨hwritten, hframe⟩ := FrameWriter.write_ok hwrite
          have hlog : (layer.base.log (.drew (freshValue init config.mode))).lowerTxReady = true :=
            hready'
          simp only [CryptoLayer.lowerStartTx_ready hlog, hframe]
          exact .requested env now started init result.written hidle hready' hinit hwritten rfl rfl
            rfl
  · exact .deferred

end Layer

/-! ## Derivations -/

/-- A session that the initiator derived from its request and a reply to it. -/
structure InitiatorDerives (ctx : SessionContext) (config : InitiatorConfig)
    (init : InitiatorHandshake.InitResult) (handshake : InitiatorHandshake)
    (msg : ReplyHandshakeBegin) (now : Time) (d : Derivation) : Prop where
  requested : Requested ctx config init d.request
  hash : handshake.handshakeHash =
    config.mode.algorithms.handshake.hashWith ctx.backend [d.request]
  reply : ReplyHandshakeBegin.read d.reply = .ok msg
  material : handshake.material ctx.backend config.mode msg = some d.inputKeyMaterial
  session : d.session = handshake.derived ctx.backend config.mode d.reply d.inputKeyMaterial
    config.sessionLimits now
  keys : d.session.keys.valid = true

/-- A session that the responder derived from a request and its reply. -/
structure ResponderDerives (ctx : SessionContext) (mode : ResponderMode)
    (msg : RequestHandshakeBegin) (algorithms : Algorithms.Common) (random : Random)
    (findKey : UInt64 → Option Bytes) (now : Time) (d : Derivation) : Prop where
  request : RequestHandshakeBegin.read d.request = .ok msg
  configured : Algorithms.configureSpec ctx.backend msg.spec = .ok algorithms
  reply : (mode.replyMessage ctx.backend random).write ctx.frameWriter.room = .ok d.reply
  material : mode.material ctx.backend msg random findKey = some d.inputKeyMaterial
  session : d.session = ResponderMode.derived ctx.backend algorithms msg d.request d.reply
    d.inputKeyMaterial now
  keys : d.session.keys.valid = true

/-! ## Moves -/

/-- The request that the initiator waits for a reply to. -/
def Layer.outstanding (layer : Layer) : Option Bytes :=
  if layer.initiator.handshakeState = .waitForBeginReply then some layer.initiator.requestData
  else none

theorem Layer.outstanding_none {layer : Layer}
    (hstate : layer.initiator.handshakeState ≠ .waitForBeginReply) : layer.outstanding = none :=
  if_neg hstate

theorem Layer.outstanding_some {layer : Layer}
    (hstate : layer.initiator.handshakeState = .waitForBeginReply) :
    layer.outstanding = some layer.initiator.requestData :=
  if_pos hstate

/-- The part of a machine that moves act on. -/
structure Snapshot where
  base : CryptoLayer
  outstanding : Option Bytes
  stack : List Task

def Machine.snapshot (machine : Machine) : Snapshot :=
  ⟨machine.layer.base, machine.layer.outstanding, machine.stack⟩

/-- A required handshake, as far as moves see it. -/
inductive Asks (cfg : Config) : CryptoLayer → Option Bytes → CryptoLayer → Option Bytes → Prop
  | stay (base : CryptoLayer) (outstanding : Option Bytes) :
      Asks cfg base outstanding base outstanding
  | forget (base : CryptoLayer) (outstanding : Option Bytes) : Asks cfg base outstanding base none
  | draw (base : CryptoLayer) (value : Bytes) : Asks cfg base none (base.log (.drew value)) none
  | request {base : CryptoLayer} {config : InitiatorConfig}
      {init : InitiatorHandshake.InitResult} {written : Bytes}
      (hrole : cfg.role = .initiator config) (hready : base.lowerTxReady = true)
      (hrequested : Requested cfg.ctx config init written) :
      Asks cfg base none
        ((base.log (.drew (Layer.freshValue init config.mode))).sent
          ⟨cfg.ctx.frameWriter.frame written, written, .request⟩) (some written)

namespace Task

/-- Tasks that can be finished without an effect on the base class. -/
def inert : Task → Bool
  | .authPayload payload => payload.isEmpty
  | .afterClose => false
  | _ => true

/-- Tasks that any function may leave behind. -/
def routine : Task → Bool
  | .upper _ => true
  | .tryReadFromLower => true
  | .checkTransmit => true
  | _ => false

end Task

namespace CryptoLayer

/-- The pending session accepts an auth message and becomes the active one. -/
def acceptAuth (layer : CryptoLayer) (msg : SessionData) (payload : Bytes) : CryptoLayer :=
  ({ layer with pending := { layer.pending with rxNonce := msg.metadata.nonce } }.log
    (.accepted layer.pending.keys.rxKey msg payload)).activatePending

/-- The active session accepts a message with user data. -/
def acceptData (layer : CryptoLayer) (msg : SessionData) (payload : Bytes) : CryptoLayer :=
  ({ layer with active := { layer.active with rxNonce := msg.metadata.nonce } }.log
    (.accepted layer.active.keys.rxKey msg payload)).placePayload payload

/-- The lower layer reports that it is ready, to an open layer. -/
def complete (layer : CryptoLayer) : CryptoLayer :=
  { { layer with lowerTxReady := true }.log .completed with
    txState := layer.txState.onTxComplete.2 }

/-- The layer is closed from below. -/
def closeFromLower (layer : CryptoLayer) (ready : Bool) : CryptoLayer :=
  { { layer with isOpen := false, lowerTxReady := ready }.resetBoth with payloadData := [] }

/-- The layer can process a message now. -/
def canRead (layer : CryptoLayer) : Prop :=
  layer.lowerTxReady = true ∧ layer.payloadData = []

theorem canRead_of_guard {layer : CryptoLayer}
    (hguard : ¬ (!layer.lowerTxReady || !layer.payloadData.isEmpty) = true) : layer.canRead := by
  simpa [canRead] using hguard

theorem ready_of_canTransmit {layer : CryptoLayer} (hcan : layer.canTransmitSessionData = true) :
    layer.active.valid = true ∧ layer.lowerTxReady = true := by
  simp only [canTransmitSessionData, Bool.and_eq_true] at hcan
  exact hcan.1

end CryptoLayer

/-- The formatting errors that cost a session: of user data, and of the answer to the
auth message that would open the upper layer. -/
inductive Fault
  | data
  | answer
  deriving DecidableEq, Repr

/-- One change of the base class, of the outstanding request and of the stack;
`mayFail` says which formatting errors can occur. -/
inductive Move (cfg : Config) (mayFail : Fault → Prop) : Snapshot → Snapshot → Prop
  | receive (base : CryptoLayer) (o : Option Bytes) (k : List Task) (messages : List Bytes) :
      Move cfg mayFail ⟨base, o, k⟩ ⟨{ base with lowerRx := messages }, o, k⟩
  | count (base : CryptoLayer) (o : Option Bytes) (k : List Task) (stats : SessionStatistics) :
      Move cfg mayFail ⟨base, o, k⟩ ⟨{ base with statistics := stats }, o, k⟩
  | pop (base : CryptoLayer) (o : Option Bytes) (k : List Task) {task : Task}
      (htask : task.inert = true) : Move cfg mayFail ⟨base, o, task :: k⟩ ⟨base, o, k⟩
  | push (base : CryptoLayer) (o : Option Bytes) (k : List Task) {task : Task}
      (htask : task.routine = true) : Move cfg mayFail ⟨base, o, k⟩ ⟨base, o, task :: k⟩
  | ask {base base' : CryptoLayer} {o o' : Option Bytes} (k : List Task)
      (hasks : Asks cfg base o base' o') : Move cfg mayFail ⟨base, o, k⟩ ⟨base', o', k⟩
  /-- messages of a handshake -/
  | handshakeError {base : CryptoLayer} (o : Option Bytes) (k : List Task)
      (hread : base.canRead) (error : HandshakeError) (frame written : Bytes) :
      Move cfg mayFail ⟨base, o, k⟩ ⟨base.sent ⟨frame, written, .handshakeError error⟩, o, k⟩
  | reply {base : CryptoLayer} (o : Option Bytes) (k : List Task) (hread : base.canRead)
      (value frame written : Bytes) :
      Move cfg mayFail ⟨base, o, k⟩ ⟨(base.log (.drew value)).sent ⟨frame, written, .reply⟩, o, k⟩
  | respond {base : CryptoLayer} (o : Option Bytes) (k : List Task) (hread : base.canRead)
      {mode : ResponderMode} {msg : RequestHandshakeBegin} {algorithms : Algorithms.Common}
      {random : Random} {findKey : UInt64 → Option Bytes} {now : Time} {d : Derivation}
      (hrole : cfg.role = .responder mode)
      (hderives : ResponderDerives cfg.ctx mode msg algorithms random findKey now d) :
      Move cfg mayFail ⟨base, o, k⟩
        ⟨((({ base with pending := d.session }.log
          (.drew (Layer.freshReply cfg.ctx.backend mode msg random))).log (.initialized d))).sent
            ⟨cfg.ctx.frameWriter.frame d.reply, d.reply, .reply⟩, o, k⟩
  | derive {base : CryptoLayer} (k : List Task) (hread : base.canRead)
      {config : InitiatorConfig} {init : InitiatorHandshake.InitResult}
      {handshake : InitiatorHandshake} {msg : ReplyHandshakeBegin} {now : Time} {d : Derivation}
      (hrole : cfg.role = .initiator config)
      (hderives : InitiatorDerives cfg.ctx config init handshake msg now d) :
      Move cfg mayFail ⟨base, some d.request, k⟩
        ⟨{ base with pending := d.session }.log (.initialized d), none, k⟩
  | sendAuth {base : CryptoLayer} (o : Option Bytes) (k : List Task)
      {config : InitiatorConfig} (hrole : cfg.role = .initiator config) (hread : base.canRead)
      {now : Time} {rest : Bytes} {formatted : Session.Formatted}
      (hnonce : base.pending.txNonce = 0)
      (hformats : Session.Formats cfg.ctx base.pending now base.txState.remainder rest formatted) :
      Move cfg mayFail ⟨base, o, k⟩ ⟨base.sentSession .pending rest formatted, o, k⟩
  | authFailed (base : CryptoLayer) (o : Option Bytes) (k : List Task) :
      Move cfg mayFail ⟨base, o, k⟩ ⟨base.log .authFormatFailed, o, k⟩
  /-- messages of a session -/
  | verify {base : CryptoLayer} (o : Option Bytes) (k : List Task) (slot : Slot)
      {msg : SessionData} {payload : Bytes} (hvalid : (base.session slot).valid = true)
      (htag : SessionMode.read cfg.ctx.backend (base.session slot).algorithms.sessionMode
        (base.session slot).keys.rxKey msg cfg.ctx.payloadBufferLength = .ok payload) :
      Move cfg mayFail ⟨base, o, k⟩ ⟨base.log (.verified (base.session slot).keys.rxKey msg), o, k⟩
  | activate {base : CryptoLayer} (o : Option Bytes) (k : List Task)
      {config : InitiatorConfig} (hrole : cfg.role = .initiator config) (hread : base.canRead)
      {now : Time} {msg : SessionData} {payload : Bytes}
      (hverified : .verified base.pending.keys.rxKey msg ∈ base.trace)
      (haccepts : Session.Accepts cfg.ctx SessionNonceMode.equalToZero base.pending msg
        now payload) :
      Move cfg mayFail ⟨base, o, k⟩
        ⟨(base.acceptAuth msg payload).openUpper.1, o,
          (base.acceptAuth msg payload).openUpper.2 ++ .authPayload payload :: .enterIdle :: k⟩
  | answer {base : CryptoLayer} (o : Option Bytes) (k : List Task)
      {mode : ResponderMode} (hrole : cfg.role = .responder mode) (hread : base.canRead)
      {now later : Time} {msg : SessionData} {payload rest : Bytes} {formatted : Session.Formatted}
      (hverified : .verified base.pending.keys.rxKey msg ∈ base.trace)
      (haccepts : Session.Accepts cfg.ctx SessionNonceMode.equalToZero base.pending msg now payload)
      (hnonce : base.pending.txNonce = 0)
      (hformats : Session.Formats cfg.ctx (base.acceptAuth msg payload).active later
        base.txState.remainder rest formatted) :
      Move cfg mayFail ⟨base, o, k⟩
        ⟨((base.acceptAuth msg payload).sentSession .active rest formatted).openUpper.1, o,
          ((base.acceptAuth msg payload).sentSession .active rest formatted).openUpper.2 ++
            .authPayload payload :: k⟩
  | leaveUnanswered {base : CryptoLayer} (o : Option Bytes) (k : List Task)
      {mode : ResponderMode} (hrole : cfg.role = .responder mode) (hread : base.canRead)
      {now : Time} {msg : SessionData} {payload : Bytes}
      (hverified : .verified base.pending.keys.rxKey msg ∈ base.trace)
      (haccepts : Session.Accepts cfg.ctx SessionNonceMode.equalToZero base.pending msg now payload)
      (hfault : base.upperOpen = false → mayFail .answer) :
      Move cfg mayFail ⟨base, o, k⟩ ⟨(base.acceptAuth msg payload).log .authFormatFailed, o, k⟩
  | acceptData {base : CryptoLayer} (o : Option Bytes) (k : List Task) (hread : base.canRead)
      {now : Time} {msg : SessionData} {payload : Bytes} (hpayload : payload ≠ [])
      (hnonce : msg.metadata.nonce ≠ 0)
      (hverified : .verified base.active.keys.rxKey msg ∈ base.trace)
      (haccepts : Session.Accepts cfg.ctx base.active.algorithms.verifyNonce.verify base.active msg
        now payload) :
      Move cfg mayFail ⟨base, o, k⟩ ⟨base.acceptData msg payload, o, k⟩
  | consume {base : CryptoLayer} (o : Option Bytes) (k : List Task) {now : Time}
      {msg : SessionData} (hnonce : msg.metadata.nonce ≠ 0)
      (hverified : .verified base.active.keys.rxKey msg ∈ base.trace)
      (haccepts : Session.Accepts cfg.ctx base.active.algorithms.verifyNonce.verify base.active msg
        now []) :
      Move cfg mayFail ⟨base, o, k⟩
        ⟨{ base with active := { base.active with rxNonce := msg.metadata.nonce } }, o, k⟩
  | notifyRx {base : CryptoLayer} (o : Option Bytes) (k : List Task)
      (hopen : base.upperOpen = true) :
      Move cfg mayFail ⟨base, o, k⟩ ⟨base.log .rxReady, o, .upper .onLowerRxReady :: k⟩
  /-- transmission of the upper layer's data -/
  | complete {base base' : CryptoLayer} {o o' : Option Bytes} (hopen : base.isOpen = true)
      (hasks : Asks cfg base.complete o base' o') (hdone : base.txState.onTxComplete.1 = false) :
      Move cfg mayFail ⟨base, o, []⟩ ⟨base', o', [.tryReadFromLower, .checkTransmit]⟩
  | finish {base base' : CryptoLayer} {o o' : Option Bytes} (hopen : base.isOpen = true)
      (hasks : Asks cfg base.complete o base' o') (hdone : base.txState.onTxComplete.1 = true) :
      Move cfg mayFail ⟨base, o, []⟩
        ⟨base'.notifyTxReady.1, o', base'.notifyTxReady.2 ++ [.tryReadFromLower, .checkTransmit]⟩
  | completeClosed {base : CryptoLayer} (o : Option Bytes) (hopen : base.isOpen = false) :
      Move cfg mayFail ⟨base, o, []⟩ ⟨{ base with lowerTxReady := true }.log .completed, o, []⟩
  | submit {base : CryptoLayer} (o : Option Bytes) (k : List Task) (data : Bytes)
      (hready : base.isTxReady = true) :
      Move cfg mayFail ⟨base, o, k⟩
        ⟨{ base with txState := TxState.initializeWith data }.log (.submit data), o,
          .checkTransmit :: k⟩
  | transmit {base : CryptoLayer} (o : Option Bytes) (k : List Task) {now : Time} {rest : Bytes}
      {formatted : Session.Formatted} (hready : base.canTransmitSessionData = true)
      (hnonce : base.active.txNonce < base.active.parameters.maxNonce)
      (hformats : Session.Formats cfg.ctx base.active now base.txState.remainder rest formatted) :
      Move cfg mayFail ⟨base, o, k⟩ ⟨base.sentSession .active rest formatted, o, k⟩
  | transmitFailed {base : CryptoLayer} (o : Option Bytes) (k : List Task)
      (hready : base.canTransmitSessionData = true) (hfault : mayFail .data) :
      Move cfg mayFail ⟨base, o, k⟩
        ⟨({ base.log .dataFormatFailed with active := base.active.reset } :
          CryptoLayer).closeUpper.1,
          o, ({ base.log .dataFormatFailed with active := base.active.reset } :
            CryptoLayer).closeUpper.2 ++ k⟩
  /-- calls and callbacks of the upper layer, opening and closing from below -/
  | discard {base : CryptoLayer} (o : Option Bytes) (k : List Task)
      (hflag : base.upperIsProcessingRxData = true) :
      Move cfg mayFail ⟨base, o, k⟩
        ⟨{ base with payloadData := [], upperIsProcessingRxData := false }, o, k⟩
  | read {base : CryptoLayer} (o : Option Bytes) (k : List Task)
      (hfirst : base.upperIsProcessingRxData = false) (hpayload : base.payloadData ≠ []) :
      Move cfg mayFail ⟨base, o, k⟩
        ⟨{ base with upperIsProcessingRxData := true }.log (.read base.payloadData), o, k⟩
  | place (base : CryptoLayer) (o : Option Bytes) (k : List Task) {payload : Bytes}
      (hpayload : payload ≠ []) :
      Move cfg mayFail ⟨base, o, .authPayload payload :: k⟩ ⟨base.placePayload payload, o, k⟩
  | afterClose (base : CryptoLayer) (o : Option Bytes) (k : List Task) :
      Move cfg mayFail ⟨base, o, .afterClose :: k⟩
        ⟨{ base with txState := TxState.idle, upperIsProcessingRxData := false }, o, k⟩
  | lowerOpen {base : CryptoLayer} (o : Option Bytes) (hopen : base.isOpen = false)
      (ready : Bool) :
      Move cfg mayFail ⟨base, o, []⟩ ⟨{ base with isOpen := true, lowerTxReady := ready }, o, []⟩
  | lowerClose {base : CryptoLayer} (o : Option Bytes) (hopen : base.isOpen = true)
      (ready : Bool) :
      Move cfg mayFail ⟨base, o, []⟩
        ⟨(base.closeFromLower ready).closeUpper.1, none,
          (base.closeFromLower ready).closeUpper.2 ++ [.afterClose]⟩

/-- A sequence of moves. -/
abbrev Moves (cfg : Config) (mayFail : Fault → Prop) : Snapshot → Snapshot → Prop :=
  Relation.ReflTransGen (Move cfg mayFail)

theorem moves_invariant {cfg : Config} {mayFail : Fault → Prop} {P : Snapshot → Prop}
    (hmove : ∀ s s', Move cfg mayFail s s' → P s → P s') {s s' : Snapshot}
    (hmoves : Moves cfg mayFail s s') (hstart : P s) : P s' := by
  induction hmoves with
  | refl => exact hstart
  | tail _ hlast ih => exact hmove _ _ hlast ih

/-! ## Functions as sequences of moves -/

/-- While the initiator waits for a reply, its running hash is that of the request. -/
def Sound (cfg : Config) (layer : Layer) : Prop :=
  layer.initiator.handshakeState = .waitForBeginReply →
    ∃ config init, cfg.role = .initiator config ∧
      Requested cfg.ctx config init layer.initiator.requestData ∧
      layer.initiator.handshake.handshakeHash =
        config.mode.algorithms.handshake.hashWith cfg.ctx.backend [layer.initiator.requestData]

/-- A change of the layer and of the stack is a sequence of moves. -/
def Leads (cfg : Config) (mayFail : Fault → Prop) (layer : Layer) (k : List Task) (layer' : Layer)
    (k' : List Task) : Prop :=
  Sound cfg layer →
    Moves cfg mayFail ⟨layer.base, layer.outstanding, k⟩ ⟨layer'.base, layer'.outstanding, k'⟩ ∧
      Sound cfg layer'

namespace Leads

variable {cfg : Config} {mayFail : Fault → Prop} {layer layer' layer'' : Layer}
  {k k' k'' : List Task}

theorem refl (layer : Layer) (k : List Task) : Leads cfg mayFail layer k layer k :=
  fun hsound => ⟨.refl, hsound⟩

theorem trans (hfirst : Leads cfg mayFail layer k layer' k')
    (hsecond : Leads cfg mayFail layer' k' layer'' k'') :
    Leads cfg mayFail layer k layer'' k'' := by
  intro hsound
  obtain ⟨hmoves, hsound'⟩ := hfirst hsound
  obtain ⟨hmoves', hsound''⟩ := hsecond hsound'
  exact ⟨hmoves.trans hmoves', hsound''⟩

/-- A move of the base class alone. -/
theorem move {base : CryptoLayer} (hmove : Move cfg mayFail ⟨layer.base, layer.outstanding, k⟩
    ⟨base, layer.outstanding, k'⟩) : Leads cfg mayFail layer k { layer with base := base } k' :=
  fun hsound => ⟨.single hmove, hsound⟩

/-- The initiator's own members change, and it does not wait for a reply. -/
theorem forget {initiator : InitiatorState}
    (hstate : initiator.handshakeState ≠ .waitForBeginReply) :
    Leads cfg mayFail layer k ⟨layer.base, initiator⟩ k := by
  intro _
  refine ⟨?_, fun hwait => absurd hwait hstate⟩
  have hnone : (⟨layer.base, initiator⟩ : Layer).outstanding = none :=
    Layer.outstanding_none hstate
  rw [hnone]
  exact .single (.ask k (.forget _ _))

/-- The initiator's own members change, but not those that it waits with. -/
theorem keep {initiator : InitiatorState}
    (hstate : initiator.handshakeState = layer.initiator.handshakeState)
    (hdata : initiator.requestData = layer.initiator.requestData)
    (hhandshake : initiator.handshake = layer.initiator.handshake) :
    Leads cfg mayFail layer k ⟨layer.base, initiator⟩ k := by
  intro hsound
  have hsame : (⟨layer.base, initiator⟩ : Layer).outstanding = layer.outstanding := by
    simp only [Layer.outstanding, hstate, hdata]
  rw [hsame]
  refine ⟨.refl, ?_⟩
  intro hwait
  simp only [hdata, hhandshake]
  exact hsound (hstate ▸ hwait)

end Leads

/-- The answer to an auth message that is accepted, and would open the upper layer,
cannot be formatted. -/
def Layer.AnswerFails (cfg : Config) (env : Env) (layer : Layer) (msg : SessionData) : Prop :=
  (∃ mode, cfg.role = .responder mode) ∧ layer.base.upperOpen = false ∧ msg.metadata.nonce = 0 ∧
    (∃ payload, Session.Accepts cfg.ctx SessionNonceMode.equalToZero layer.base.pending msg env.now
      payload) ∧
    ∃ e, (layer.base.pending.formatSessionAuth cfg.ctx env.later
      layer.base.txState.remainder).result = .error e

section Functions

variable {cfg : Config} {mayFail : Fault → Prop} {config : InitiatorConfig} {layer layer' : Layer}
  {k : List Task}

theorem asks_of_negotiates (hrole : cfg.role = .initiator config)
    (hnegotiates : Layer.Negotiates cfg.ctx config layer layer') :
    Asks cfg layer.base layer.outstanding layer'.base layer'.outstanding := by
  have hnone (hidle : layer.initiator.handshakeState = .idle) : layer.outstanding = none :=
    Layer.outstanding_none (by simp [hidle])
  cases hnegotiates with
  | deferred => exact .stay _ _
  | retried hidle hstate =>
      rw [hnone hidle, Layer.outstanding_none (by simp [hstate])]
      exact .stay _ _
  | failed value hidle hstate =>
      rw [hnone hidle, Layer.outstanding_none (by simp [hstate])]
      exact .draw _ _
  | requested env now started init written hidle hready hinit hrequested hstate hdata hhandshake =>
      rw [hnone hidle, Layer.outstanding_some hstate]
      simp only [hdata]
      exact .request hrole hready hrequested

theorem sound_of_negotiates (hrole : cfg.role = .initiator config) (hsound : Sound cfg layer)
    (hnegotiates : Layer.Negotiates cfg.ctx config layer layer') : Sound cfg layer' := by
  cases hnegotiates with
  | deferred => exact hsound
  | retried hidle hstate =>
      intro hwait
      rw [hstate] at hwait
      cases hwait
  | failed value hidle hstate =>
      intro hwait
      rw [hstate] at hwait
      cases hwait
  | requested env now started init written hidle hready hinit hrequested hstate hdata hhandshake =>
      intro _
      simp only [hdata, hhandshake]
      exact ⟨config, init, hrole, hrequested, rfl⟩

theorem onHandshakeRequired_leads (hrole : cfg.role = .initiator config) (env : Env) (now : Time) :
    Leads cfg mayFail layer k (layer.onHandshakeRequired cfg.ctx config env now) k := by
  intro hsound
  have hnegotiates := Layer.onHandshakeRequired_negotiates cfg.ctx config env now layer
  exact ⟨.single (.ask k (asks_of_negotiates hrole hnegotiates)),
    sound_of_negotiates hrole hsound hnegotiates⟩

theorem onSessionNonceChange_leads (env : Env) :
    Leads cfg mayFail layer k (layer.onSessionNonceChange cfg env) k := by
  unfold Layer.onSessionNonceChange
  split
  · exact .refl layer k
  · rename_i config hrole
    split_ifs
    · have hcancel : Leads cfg mayFail layer k
          { layer with initiator := layer.initiator.cancelSessionTimeoutTimer } k :=
        .keep rfl rfl rfl
      exact hcancel.trans (onHandshakeRequired_leads hrole env env.later)
    · exact .refl layer k

theorem replyWithHandshakeError_leads (hread : layer.base.canRead) (error : HandshakeError) :
    Leads cfg mayFail layer k (layer.replyWithHandshakeError cfg.ctx error) k := by
  unfold Layer.replyWithHandshakeError
  split
  · exact .refl layer k
  · rename_i result hwrite
    rw [CryptoLayer.lowerStartTx_ready hread.1]
    exact .move (.handshakeError _ _ hread error result.frame result.written)

/-! ### Messages of a handshake -/

theorem onReplyMessage_leads (hrole : cfg.role = .initiator config) (hread : layer.base.canRead)
    (env : Env) {msg : ReplyHandshakeBegin} {rawData : Bytes}
    (hmsg : ReplyHandshakeBegin.read rawData = .ok msg) :
    Leads cfg mayFail layer k (layer.onReplyMessage cfg.ctx config env msg rawData) k := by
  unfold Layer.onReplyMessage
  by_cases hstate : layer.initiator.handshakeState = .waitForBeginReply
  · rw [if_neg (not_not.mpr hstate)]
    rcases InitiatorHandshake.initializeSession_cases cfg.ctx.backend config.mode
      layer.initiator.handshake msg rawData config.sessionLimits env.now layer.base.pending
      layer.base.statistics with
      ⟨ikm, handshake', stats', hmaterial, htime, hkeys, heq⟩ | ⟨handshake', heq⟩
    · simp only [InitiatorState.cancelResponseAndRetryTimer, heq, hmaterial, Option.getD_some,
        Bool.not_true, Bool.false_eq_true, if_false]
      intro hsound
      obtain ⟨config', init, hrole', hrequested, hhash⟩ := hsound hstate
      rw [hrole] at hrole'
      cases hrole'
      rw [Layer.outstanding_some hstate]
      -- the session is initialized, and then its first message is tried
      let d : Derivation := ⟨layer.initiator.requestData, rawData, ikm,
        layer.initiator.handshake.derived cfg.ctx.backend config.mode rawData ikm
          config.sessionLimits env.now⟩
      have hderives : InitiatorDerives cfg.ctx config init layer.initiator.handshake msg
          env.now d :=
        ⟨hrequested, hhash, hmsg, hmaterial, rfl, hkeys⟩
      let counted : CryptoLayer := { layer.base with statistics := stats' }
      let derived : CryptoLayer := { counted with pending := d.session }.log (.initialized d)
      have hcount : Move cfg mayFail ⟨layer.base, some layer.initiator.requestData, k⟩
          ⟨counted, some layer.initiator.requestData, k⟩ := .count _ _ _ _
      have hderive : Move cfg mayFail ⟨counted, some layer.initiator.requestData, k⟩
          ⟨derived, none, k⟩ :=
        .derive k (show counted.canRead from hread) hrole hderives
      have hreach := (Relation.ReflTransGen.single hcount).tail hderive
      have hderived : derived.canRead := hread
      rcases CryptoLayer.transmitSessionAuth_cases cfg.ctx hderived.1 .pending env.later with
        ⟨rest, formatted, hnonce, hformats, hsend⟩ | ⟨e, -, hsend⟩
      · have hsent : Move cfg mayFail ⟨derived, none, k⟩
            ⟨derived.sentSession .pending rest formatted, none, k⟩ :=
          .sendAuth none k hrole hderived hnonce hformats
        simp only [derived, counted, d] at hsend
        simp only [hsend]
        exact ⟨hreach.tail hsent, nofun⟩
      · simp only [derived, counted, d] at hsend
        simp only [hsend]
        exact ⟨hreach.tail (.authFailed derived none k), nofun⟩
    · simp only [InitiatorState.cancelResponseAndRetryTimer, heq, Bool.not_false, if_true]
      exact .forget nofun
  · rw [if_pos hstate]
    exact .refl layer k

theorem onErrorMessage_leads (env : Env) :
    Leads cfg mayFail layer k (layer.onErrorMessage config env) k := by
  unfold Layer.onErrorMessage
  split
  · exact .forget nofun
  · exact .forget nofun
  · exact .refl layer k

theorem onRequest_leads {mode : ResponderMode} (hrole : cfg.role = .responder mode)
    (hread : layer.base.canRead) (env : Env) {msg : RequestHandshakeBegin} {rawMsg : Bytes}
    (hmsg : RequestHandshakeBegin.read rawMsg = .ok msg) :
    Leads cfg mayFail layer k (layer.onRequest cfg.ctx mode env msg rawMsg) k := by
  unfold Layer.onRequest
  split_ifs
  · exact replyWithHandshakeError_leads hread _
  · rcases ResponderMode.process_settles cfg.ctx.backend mode cfg.ctx.frameWriter msg rawMsg env.now
      env.random env.findKey layer.base.pending layer.base.statistics with
      ⟨algorithms, ikm, result, session', stats', lookup, initialized, hreplies, heq⟩ |
      ⟨e, lookup, heq⟩
    · let counted : CryptoLayer := { layer.base with statistics := stats' }
      have hcounted : counted.canRead := hread
      have hcount : Leads cfg mayFail layer k { layer with base := counted } k :=
        .move (.count _ _ _ _)
      refine hcount.trans ?_
      simp only [heq, hreplies.material, Option.getD_some, hreplies.framed]
      cases initialized with
      | true =>
          let d : Derivation := ⟨rawMsg, result.written, ikm, session'⟩
          have hsession : session' = ResponderMode.derived cfg.ctx.backend algorithms msg rawMsg
              result.written ikm env.now := hreplies.session_eq
          have hkeys : d.session.keys.valid = true := by
            simp only [d, hsession]
            exact hreplies.initialized_eq.symm
          have hderives : ResponderDerives cfg.ctx mode msg algorithms env.random
            env.findKey env.now
              d := ⟨hmsg, hreplies.configured, hreplies.written, hreplies.material, hsession, hkeys⟩
          rw [if_pos rfl, CryptoLayer.lowerStartTx_ready (by exact hread.1)]
          exact .move (Move.respond layer.outstanding k hcounted hrole hderives)
      | false =>
          have hsession : session' = layer.base.pending := hreplies.session_eq
          subst hsession
          rw [if_neg (by simp), CryptoLayer.lowerStartTx_ready (by exact hread.1)]
          exact .move (Move.reply layer.outstanding k hcounted _ _ _)
    · simp only [heq]
      exact replyWithHandshakeError_leads hread e

/-! ### Messages of a session -/

/-- The record of a right tag. -/
theorem logVerified_leads (slot : Slot) (msg : SessionData) :
    Leads cfg mayFail layer k
      { layer with base := layer.base.logVerified cfg.ctx (layer.base.session slot) msg } k := by
  unfold CryptoLayer.logVerified
  split
  · rename_i payload hvalid htag
    exact .move (.verify _ k slot hvalid htag)
  · exact .refl layer k

/-- An accepted message has been recorded as having the right tag. -/
theorem logVerified_accepts {ctx : SessionContext} {session : Session} {msg : SessionData}
    {now : Time} {payload : Bytes} {verifyNonce : UInt16 → UInt16 → Bool}
    (haccepts : Session.Accepts ctx verifyNonce session msg now payload) (base : CryptoLayer) :
    base.logVerified ctx session msg = base.log (.verified session.keys.rxKey msg) := by
  simp [CryptoLayer.logVerified, haccepts.valid, haccepts.authentic]

theorem logVerified_eq (ctx : SessionContext) (session : Session) (msg : SessionData)
    (base : CryptoLayer) :
    ∃ trace, base.logVerified ctx session msg = { base with trace := trace } := by
  unfold CryptoLayer.logVerified
  split
  · exact ⟨_, rfl⟩
  · exact ⟨base.trace, rfl⟩

/-- The check of a message before its result is used. -/
theorem checked_leads (slot : Slot) (msg : SessionData) (stats : SessionStatistics) :
    Leads cfg mayFail layer k
      { layer with base := { layer.base.logVerified cfg.ctx (layer.base.session slot) msg with
        statistics := stats } } k :=
  (logVerified_leads slot msg).trans (.move (.count _ _ _ _))

theorem onAuthMessage_leads (hrole : cfg.role = .initiator config) (hread : layer.base.canRead)
    (env : Env) (msg : SessionData) :
    Leads cfg mayFail layer k (layer.onAuthMessage cfg.ctx config env msg).1
      ((layer.onAuthMessage cfg.ctx config env msg).2 ++ k) := by
  unfold Layer.onAuthMessage
  split_ifs with hstate
  · exact .refl layer k
  · rcases Session.validateSessionAuth_cases cfg.ctx layer.base.pending
      (layer.base.logVerified cfg.ctx layer.base.pending msg).statistics msg env.now with
      ⟨payload, stats', haccepts, heq⟩ | ⟨e, stats', heq⟩
    · simp only [heq]
      have hchecked := @checked_leads cfg mayFail layer k .pending msg stats'
      simp only [CryptoLayer.session] at hchecked
      rw [logVerified_accepts haccepts] at hchecked ⊢
      let verified : CryptoLayer :=
        { layer.base.log (.verified layer.base.pending.keys.rxKey msg) with statistics := stats' }
      have hmove : Move cfg mayFail ⟨verified, layer.outstanding, k⟩ _ :=
          .activate layer.outstanding k hrole (show verified.canRead from hread)
        (by simp [verified, CryptoLayer.log]) haccepts
      rw [List.append_assoc]
      exact (hchecked.trans (.move hmove)).trans
        (.forget (by simp [InitiatorState.startSessionTimer,
        InitiatorState.cancelResponseAndRetryTimer, not_not.mp hstate]))
    · simp only [heq]
      have hchecked := @checked_leads cfg mayFail layer k .pending msg stats'
      simp only [CryptoLayer.session] at hchecked
      obtain ⟨trace, htrace⟩ := logVerified_eq cfg.ctx layer.base.pending msg layer.base
      rw [htrace] at hchecked ⊢
      exact hchecked.trans (.forget nofun)

theorem onAuthSession_leads {mode : ResponderMode} (hrole : cfg.role = .responder mode)
    (hread : layer.base.canRead) (env : Env) {msg : SessionData} (hnonce : msg.metadata.nonce = 0)
    (hfault : layer.AnswerFails cfg env msg → mayFail .answer) :
    Leads cfg mayFail layer k (layer.onAuthSession cfg.ctx env msg).1
      ((layer.onAuthSession cfg.ctx env msg).2 ++ k) := by
  unfold Layer.onAuthSession
  split_ifs with hvalid
  · exact replyWithHandshakeError_leads hread _
  · rcases Session.validateSessionAuth_cases cfg.ctx layer.base.pending
      (layer.base.logVerified cfg.ctx layer.base.pending msg).statistics msg env.now with
      ⟨payload, stats', haccepts, heq⟩ | ⟨e, stats', heq⟩
    · simp only [heq]
      have hchecked := @checked_leads cfg mayFail layer k .pending msg stats'
      simp only [CryptoLayer.session] at hchecked
      rw [logVerified_accepts haccepts] at hchecked ⊢
      let verified : CryptoLayer :=
        { layer.base.log (.verified layer.base.pending.keys.rxKey msg) with statistics := stats' }
      have hverified : verified.canRead := hread
      have htrace : .verified verified.pending.keys.rxKey msg ∈ verified.trace := by
        simp [verified, CryptoLayer.log]
      have hready : (verified.acceptAuth msg payload).lowerTxReady = true := hread.1
      rcases CryptoLayer.transmitSessionAuth_cases cfg.ctx hready .active env.later with
        ⟨rest, formatted, htx, hformats, hsend⟩ | ⟨e, herror, hsend⟩
      · have hmove : Move cfg mayFail ⟨verified, layer.outstanding, k⟩ _ :=
          .answer layer.outstanding k hrole hverified htrace haccepts htx hformats
        generalize htail : CryptoLayer.transmitSessionAuth cfg.ctx _ .active env.later = tail
        obtain rfl : tail = _ := htail.symm.trans hsend
        simp only [List.append_assoc]
        exact hchecked.trans (.move hmove)
      · have herror' := (layer.base.pending.formatSessionAuth_rxNonce cfg.ctx env.later
          layer.base.txState.remainder msg.metadata.nonce).symm.trans herror
        have hmove : Move cfg mayFail ⟨verified, layer.outstanding, k⟩ _ :=
          .leaveUnanswered layer.outstanding k hrole hverified htrace haccepts
          (fun hclosed => hfault ⟨⟨mode, hrole⟩, hclosed, hnonce, ⟨payload, haccepts⟩, e, herror'⟩)
        generalize htail : CryptoLayer.transmitSessionAuth cfg.ctx _ .active env.later = tail
        obtain rfl : tail = _ := htail.symm.trans hsend
        exact hchecked.trans (.move hmove)
    · simp only [heq]
      have hchecked := @checked_leads cfg mayFail layer k .pending msg stats'
      simp only [CryptoLayer.session] at hchecked
      obtain ⟨trace, htrace⟩ := logVerified_eq cfg.ctx layer.base.pending msg layer.base
      rw [htrace] at hchecked ⊢
      exact hchecked

theorem notifyRxReady_leads :
    Leads cfg mayFail layer k { layer with base := layer.base.notifyRxReady.1 }
      (layer.base.notifyRxReady.2 ++ k) := by
  unfold CryptoLayer.notifyRxReady
  split_ifs with hopen
  · exact .move (.notifyRx _ k hopen)
  · exact .refl layer k

theorem onSessionData_leads (hread : layer.base.canRead) (env : Env) {msg : SessionData}
    (hnonce : msg.metadata.nonce ≠ 0) :
    Leads cfg mayFail layer k (layer.onSessionData cfg env msg).1
      ((layer.onSessionData cfg env msg).2 ++ k) := by
  unfold Layer.onSessionData
  have hchecked (stats' : SessionStatistics) :=
    @checked_leads cfg mayFail layer k .active msg stats'
  simp only [CryptoLayer.session] at hchecked
  rcases Session.validateSessionData_cases cfg.ctx layer.base.active
    (layer.base.logVerified cfg.ctx layer.base.active msg).statistics msg env.now with
    ⟨payload, stats', hpayload, haccepts, heq⟩ | ⟨stats', haccepts, heq⟩ | ⟨e, stats', heq⟩
  · simp only [heq]
    rw [logVerified_accepts haccepts] at hchecked ⊢
    let verified : CryptoLayer :=
      { layer.base.log (.verified layer.base.active.keys.rxKey msg) with statistics := stats' }
    have hmove : Move cfg mayFail ⟨verified, layer.outstanding, k⟩ _ :=
          .acceptData layer.outstanding k (show verified.canRead from hread) hpayload
      hnonce (by simp [verified, CryptoLayer.log]) haccepts
    exact (((hchecked stats').trans (.move hmove)).trans (onSessionNonceChange_leads env)).trans
      notifyRxReady_leads
  · simp only [heq]
    rw [logVerified_accepts haccepts] at hchecked ⊢
    let verified : CryptoLayer :=
      { layer.base.log (.verified layer.base.active.keys.rxKey msg) with statistics := stats' }
    have hmove := @Move.consume cfg mayFail verified layer.outstanding k env.now msg hnonce
      (by simp [verified, CryptoLayer.log]) haccepts
    exact (hchecked stats').trans (.move hmove)
  · simp only [heq]
    obtain ⟨trace, htrace⟩ := logVerified_eq cfg.ctx layer.base.active msg layer.base
    rw [htrace] at hchecked ⊢
    exact hchecked stats'

theorem onSessionMessage_leads (hread : layer.base.canRead) (env : Env) (msg : SessionData)
    (hfault : layer.AnswerFails cfg env msg → mayFail .answer) :
    Leads cfg mayFail layer k (layer.onSessionMessage cfg env msg).1
      ((layer.onSessionMessage cfg env msg).2 ++ k) := by
  unfold Layer.onSessionMessage
  split_ifs with hnonce
  · split
    · rename_i config hrole
      exact onAuthMessage_leads hrole hread env msg
    · rename_i mode hrole
      exact onAuthSession_leads hrole hread env hnonce hfault
  · exact onSessionData_leads hread env hnonce

theorem process_leads (hread : layer.base.canRead) (env : Env) (message : Bytes)
    (hfault : ∀ msg, SessionData.read message = .ok msg → layer.AnswerFails cfg env msg →
      mayFail .answer) :
    Leads cfg mayFail layer k (layer.process cfg env message).1
      ((layer.process cfg env message).2 ++ k) := by
  unfold Layer.process
  split
  · exact .refl layer k
  · split
    · rename_i config hrole
      split
      · exact .refl layer k
      · rename_i msg hmsg
        exact onReplyMessage_leads hrole hread env hmsg
    · split
      · exact .refl layer k
      · exact onErrorMessage_leads env
    · rename_i mode hrole
      split
      · exact replyWithHandshakeError_leads hread _
      · rename_i msg hmsg
        exact onRequest_leads hrole hread env hmsg
    · split
      · exact .refl layer k
      · rename_i msg hmsg
        exact onSessionMessage_leads hread env msg (hfault msg hmsg)
    · exact .refl layer k

theorem tryReadFromLower_leads (env : Env)
    (hfault : ∀ message messages msg, layer.base.canRead →
      layer.base.lowerRx = message :: messages →
      SessionData.read message = .ok msg → layer.AnswerFails cfg env msg → mayFail .answer) :
    Leads cfg mayFail layer k (layer.tryReadFromLower cfg env).1
      ((layer.tryReadFromLower cfg env).2 ++ k) := by
  unfold Layer.tryReadFromLower
  split_ifs with hguard
  · exact .refl layer k
  · have hread := CryptoLayer.canRead_of_guard hguard
    split
    · exact .refl layer k
    · rename_i message messages hrx
      split_ifs
      · exact .move (.receive _ _ _ messages)
      · let popped : Layer := { layer with base := { layer.base with lowerRx := messages } }
        have hpop : Leads cfg mayFail layer k popped k := .move (.receive _ _ _ messages)
        have hpush : Leads cfg mayFail popped k popped (.tryReadFromLower :: k) :=
          .move (.push _ _ k rfl)
        rw [List.append_assoc]
        exact (hpop.trans hpush).trans (process_leads (show popped.base.canRead from hread) env
          message (fun msg hmsg hfails => hfault message messages msg hread hrx hmsg hfails))

/-! ### Transmission and the other events -/

theorem checkTransmit_leads (env : Env)
    (hfault : ∀ e, layer.base.canTransmitSessionData = true →
      (layer.base.active.formatSessionData cfg.ctx env.now layer.base.txState.remainder).result =
        .error e → mayFail .data) :
    Leads cfg mayFail layer k (layer.checkTransmit cfg env).1
      ((layer.checkTransmit cfg env).2 ++ k) := by
  unfold Layer.checkTransmit
  split_ifs with hguard
  · exact .refl layer k
  · have hready : layer.base.canTransmitSessionData = true := by simpa using hguard
    rcases Session.formatSessionData_cases cfg.ctx layer.base.active env.now
      layer.base.txState.remainder with ⟨rest, formatted, hnonce, hformats, heq⟩ | ⟨rest, e, heq⟩
    · have hlower := (CryptoLayer.ready_of_canTransmit hready).2
      have hmove : Move cfg mayFail ⟨layer.base, layer.outstanding, k⟩ _ :=
        .transmit layer.outstanding k hready hnonce hformats
      simp only [heq]
      rw [CryptoLayer.lowerStartTx_ready (by exact hlower)]
      have hsent : Leads cfg mayFail layer k
          { layer with base := layer.base.sentSession .active rest formatted } k := .move hmove
      exact hsent.trans (onSessionNonceChange_leads env)
    · simp only [heq]
      exact .move (.transmitFailed _ k hready (hfault e hready (by rw [heq])))

theorem onLowerOpen_leads (env : Env) (ready : Bool) :
    Leads cfg mayFail layer [] (layer.onLowerOpen cfg env ready) [] := by
  unfold Layer.onLowerOpen
  split_ifs with hopen
  · exact .refl layer []
  · have hmove : Leads cfg mayFail layer []
        { layer with base := { layer.base with isOpen := true, lowerTxReady := ready } } [] :=
      .move (.lowerOpen _ (by simpa using hopen) ready)
    split
    · rename_i config hrole
      exact hmove.trans (onHandshakeRequired_leads hrole env env.now)
    · exact hmove

theorem onLowerClose_leads (ready : Bool) :
    Leads cfg mayFail layer [] (layer.onLowerClose cfg ready).1
      (layer.onLowerClose cfg ready).2 := by
  unfold Layer.onLowerClose
  split_ifs with hguard
  · exact .refl layer []
  · have hopen : layer.base.isOpen = true := by simpa using hguard
    have hclosed {initiator : InitiatorState}
        (hstate : initiator.handshakeState ≠ .waitForBeginReply) :
        Leads cfg mayFail layer [] ⟨(layer.base.closeFromLower ready).closeUpper.1, initiator⟩
          ((layer.base.closeFromLower ready).closeUpper.2 ++ [.afterClose]) := by
      intro _
      have hnone : (⟨(layer.base.closeFromLower ready).closeUpper.1, initiator⟩ :
        Layer).outstanding =
          none := Layer.outstanding_none hstate
      rw [hnone]
      exact ⟨.single (.lowerClose _ hopen ready), fun hwait => absurd hwait hstate⟩
    split
    · exact hclosed nofun
    · rename_i mode hrole
      intro hsound
      refine hclosed ?_ hsound
      intro hwait
      obtain ⟨config, -, hrole', -⟩ := hsound hwait
      rw [hrole] at hrole'
      cases hrole'

theorem onPreTxReady_asks (env : Env) (hsound : Sound cfg layer) :
    Asks cfg layer.base layer.outstanding (layer.onPreTxReady cfg env).base
      (layer.onPreTxReady cfg env).outstanding ∧ Sound cfg (layer.onPreTxReady cfg env) := by
  unfold Layer.onPreTxReady
  split
  · rename_i config hrole
    split_ifs
    · have hnegotiates := Layer.onHandshakeRequired_negotiates cfg.ctx config env env.now layer
      exact ⟨asks_of_negotiates hrole hnegotiates, sound_of_negotiates hrole hsound hnegotiates⟩
    · exact ⟨.stay _ _, hsound⟩
  · exact ⟨.stay _ _, hsound⟩

theorem onLowerTxReady_leads (env : Env) :
    Leads cfg mayFail layer [] (layer.onLowerTxReady cfg env).1
      (layer.onLowerTxReady cfg env).2 := by
  unfold Layer.onLowerTxReady
  dsimp only
  split_ifs with hguard hdone
  · exact .move (.completeClosed _ (by simpa [CryptoLayer.log] using hguard))
  · intro hsound
    have hopen : layer.base.isOpen = true := by simpa [CryptoLayer.log] using hguard
    obtain ⟨hasks, hsound'⟩ := @onPreTxReady_asks cfg { layer with base := layer.base.complete } env
      hsound
    exact ⟨.single (.finish hopen hasks hdone), hsound'⟩
  · intro hsound
    have hopen : layer.base.isOpen = true := by simpa [CryptoLayer.log] using hguard
    obtain ⟨hasks, hsound'⟩ := @onPreTxReady_asks cfg { layer with base := layer.base.complete } env
      hsound
    exact ⟨.single (.complete hopen hasks (Bool.eq_false_iff.mpr hdone)), hsound'⟩

theorem onLowerRxReady_leads :
    Leads cfg mayFail layer [] layer.onLowerRxReady.1 layer.onLowerRxReady.2 := by
  unfold Layer.onLowerRxReady
  split_ifs
  · exact .move (.push _ _ [] rfl)
  · exact .refl layer []

theorem onTimer_leads (env : Env) (timer : Timer) :
    Leads cfg mayFail layer [] (layer.onTimer cfg env timer) [] := by
  unfold Layer.onTimer
  dsimp only
  have hfired : Leads cfg mayFail layer [] { layer with initiator := { layer.initiator with
      timers := layer.initiator.timers.filter (fun other => other.id ≠ timer.id) } } [] :=
    .keep rfl rfl rfl
  split
  · exact hfired
  · rename_i config hrole
    split
    · split
      · exact hfired.trans (.forget nofun)
      · exact hfired.trans (.forget nofun)
      · exact hfired
    · refine (hfired.trans ?_).trans (onHandshakeRequired_leads hrole env env.now)
      split
      · exact .forget nofun
      · exact .refl _ _
    · exact hfired.trans (onHandshakeRequired_leads hrole env env.now)

theorem startRxFromUpper_leads :
    Leads cfg mayFail layer k { layer with base := layer.base.startRxFromUpper.1 }
      (layer.base.startRxFromUpper.2 ++ k) := by
  unfold CryptoLayer.startRxFromUpper
  by_cases hflag : layer.base.upperIsProcessingRxData = true
  · have hdiscard : Leads cfg mayFail layer k { layer with base := { layer.base with
        payloadData := [], upperIsProcessingRxData := false } } k := .move (.discard _ k hflag)
    simp only [hflag, if_true, List.isEmpty_nil]
    exact hdiscard.trans (.move (.push _ _ k rfl))
  · have hfirst : layer.base.upperIsProcessingRxData = false := by simpa using hflag
    simp only [hfirst, Bool.false_eq_true, if_false]
    split_ifs with hempty
    · exact .move (.push _ _ k rfl)
    · exact .move (.read _ k hfirst (by simpa using hempty))

theorem startTxFromUpper_leads (data : Bytes) :
    Leads cfg mayFail layer k { layer with base := (layer.base.startTxFromUpper data).1 }
      ((layer.base.startTxFromUpper data).2 ++ k) := by
  unfold CryptoLayer.startTxFromUpper
  split_ifs with hready
  · exact .move (.submit _ k data hready)
  · exact .refl layer k

theorem runTask_leads {env : Env} {task : Task} {result : Layer × List Task}
    (hdata : ∀ e, task = .checkTransmit → layer.base.canTransmitSessionData = true →
      (layer.base.active.formatSessionData cfg.ctx env.now layer.base.txState.remainder).result =
        .error e → mayFail .data)
    (hanswer : ∀ message messages msg, task = .tryReadFromLower → layer.base.canRead →
      layer.base.lowerRx = message :: messages → SessionData.read message = .ok msg →
        layer.AnswerFails cfg env msg → mayFail .answer)
    (hrun : layer.runTask cfg env task = some result) :
    Leads cfg mayFail layer (task :: k) result.1 (result.2 ++ k) := by
  have hpop (hinert : task.inert = true) : Leads cfg mayFail layer (task :: k) layer k :=
    .move (.pop _ _ k hinert)
  cases Layer.ran_of_runTask hrun with
  | tryReadFromLower =>
      exact (hpop rfl).trans (tryReadFromLower_leads env
        (fun message messages msg => hanswer message messages msg rfl))
  | checkTransmit => exact (hpop rfl).trans (checkTransmit_leads env (fun e => hdata e rfl))
  | noPayload => exact hpop rfl
  | @authPayload payload hne =>
      have hplace : Leads cfg mayFail layer (.authPayload payload :: k)
          { layer with base := layer.base.placePayload payload } k :=
        .move (.place _ _ k hne)
      exact hplace.trans notifyRxReady_leads
  | enterIdle => exact (hpop rfl).trans (.forget nofun)
  | afterClose => exact .move (.afterClose _ _ k)

end Functions

/-! ## Steps and runs -/

namespace Machine

/-- The formatting errors that a step runs into. -/
def Fails (cfg : Config) (machine : Machine) (label : Label) : Fault → Prop
  | .data => ∃ env stack e, label = .run env ∧ machine.stack = .checkTransmit :: stack ∧
      machine.layer.base.canTransmitSessionData = true ∧
      (machine.layer.base.active.formatSessionData cfg.ctx env.now
        machine.layer.base.txState.remainder).result = .error e
  | .answer => ∃ env stack message messages msg, label = .run env ∧
      machine.stack = .tryReadFromLower :: stack ∧ machine.layer.base.canRead ∧
      machine.layer.base.lowerRx = message :: messages ∧ SessionData.read message = .ok msg ∧
      machine.layer.AnswerFails cfg env msg

/-- **A step is a sequence of moves.** -/
theorem step_moves {cfg : Config} {machine machine' : Machine} {label : Label}
    (hsound : Sound cfg machine.layer) (hstep : machine.step cfg label = some machine') :
    Moves cfg (machine.Fails cfg label) machine.snapshot machine'.snapshot ∧
      Sound cfg machine'.layer := by
  suffices h : Leads cfg (machine.Fails cfg label) machine.layer machine.stack machine'.layer
      machine'.stack from h hsound
  cases steps_of_step hstep with
  | receive => exact .move (.receive _ _ _ _)
  | lowerOpen layer ready env => exact onLowerOpen_leads env ready
  | lowerClose layer ready => exact onLowerClose_leads ready
  | lowerTxReady layer env => exact onLowerTxReady_leads env
  | lowerRxReady => exact onLowerRxReady_leads
  | timer env => exact onTimer_leads env _
  | startRx => exact startRxFromUpper_leads
  | startTx layer data => exact startTxFromUpper_leads data
  | ret => exact .move (.pop _ _ _ rfl)
  | @run layer task result stack env hrun =>
      refine runTask_leads ?_ ?_ hrun
      · rintro e rfl hready herror
        exact ⟨env, stack, e, rfl, rfl, hready, herror⟩
      · rintro message messages msg rfl hread hrx hmsg hfails
        exact ⟨env, stack, message, messages, msg, rfl, rfl, hread, hrx, hmsg, hfails⟩

theorem create_sound (cfg : Config) : Sound cfg create.layer :=
  nofun

/-- **What no move of a step breaks, no run breaks.**  The steps of the run may be
restricted by a condition, which then restricts the moves. -/
theorem run_invariant {cfg : Config} {P : Snapshot → Prop} {condition : Machine → Label → Prop}
    (hmove : ∀ machine label, P (snapshot machine) → condition machine label →
      ∀ s s', Move cfg (machine.Fails cfg label) s s' → P s → P s')
    {labels : List Label} {machine : Machine} (hrun : create.run cfg labels = some machine)
    (halong : Runs.Along (step cfg) condition create labels) (hstart : P create.snapshot) :
    P machine.snapshot := by
  have hboth : Sound cfg machine.layer ∧ P machine.snapshot := by
    refine Runs.run_invariant (fun machine => Sound cfg machine.layer ∧ P machine.snapshot) ?_ hrun
      halong ⟨create_sound cfg, hstart⟩
    intro machine label next hinv hcondition hstep
    obtain ⟨hsound, hP⟩ := hinv
    obtain ⟨hmoves, hsound'⟩ := step_moves hsound hstep
    refine ⟨hsound', ?_⟩
    exact moves_invariant (hmove machine label hP hcondition) hmoves hP
  exact hboth.2

/-- The same for all runs. -/
theorem run_invariant_of_move {cfg : Config} {P : Snapshot → Prop}
    (hmove : ∀ mayFail s s', Move cfg mayFail s s' → P s → P s')
    {labels : List Label} {machine : Machine} (hrun : create.run cfg labels = some machine)
    (hstart : P create.snapshot) : P machine.snapshot := by
  have halong : Runs.Along (step cfg) (fun _ _ => True) create labels :=
    Runs.along_of_forall (fun _ _ => trivial) create labels
  exact run_invariant (fun _ _ _ _ => hmove _) hrun halong hstart

end Machine

end Ssp21
