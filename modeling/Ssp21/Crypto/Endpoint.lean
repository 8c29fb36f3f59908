import Ssp21.Crypto.Duplex

/-!
# A party as its peer depends on it

`Endpoint` is what is left of a machine when timers, counters, the clock and the state of the
lower layer are taken away: the handshake, the two sessions, the messages that wait to be read,
what has been sent, and the way of a received payload to the upper layer.

* `Act` is one thing that a party does, with what it sends by it.  Messages are taken as in time,
  so that a message is refused for a reason that is in the sessions.
* `Machine.step_acts`: a step of a machine is a sequence of acts.
-/

namespace Ssp21

open Wire

/-! ## Sessions without a clock -/

/-- What the two ends of a session settle once and for all. -/
structure SessionTerms where
  keys : SessionKeys
  algorithms : SessionAlgorithms
  parameters : SessionParam

namespace Session

def terms (session : Session) : SessionTerms :=
  ⟨session.keys, session.algorithms, session.parameters⟩

/-- A message that belongs to a session, as far as its terms say: the tag is right, the message
does not outlive the session, and its nonce is within the limit. -/
structure Opens (ctx : SessionContext) (terms : SessionTerms) (msg : SessionData)
    (payload : Bytes) :
    Prop where
  authentic : SessionMode.read ctx.backend terms.algorithms.sessionMode terms.keys.rxKey msg
    ctx.payloadBufferLength = .ok payload
  inSession : milliseconds msg.metadata.validUntilMs ≤ terms.parameters.maxSessionTime
  belowMax : msg.metadata.nonce ≤ terms.parameters.maxNonce

/-- What it takes for a message to pass all checks that do not look at the clock. -/
structure Admits (ctx : SessionContext) (verifyNonce : UInt16 → UInt16 → Bool) (session : Session)
    (msg : SessionData) (payload : Bytes) : Prop where
  valid : session.valid = true
  opens : Opens ctx session.terms msg payload
  nonce : verifyNonce session.rxNonce msg.metadata.nonce = true

/-- The session has started, and the time to live of the message has not passed. -/
def InTime (session : Session) (msg : SessionData) (now : Time) : Prop :=
  session.parameters.sessionStart ≤ now ∧
    now - session.parameters.sessionStart ≤ milliseconds msg.metadata.validUntilMs

section Checks

variable {ctx : SessionContext} {verifyNonce : UInt16 → UInt16 → Bool} {session : Session}
variable {msg : SessionData} {now : Time} {payload : Bytes}

theorem Admits.accepts (hadmits : Admits ctx verifyNonce session msg payload)
    (htime : session.InTime msg now) : Accepts ctx verifyNonce session msg now payload where
  valid := hadmits.valid
  authentic := hadmits.opens.authentic
  started := htime.1
  inSession := htime.2.trans hadmits.opens.inSession
  inTtl := htime.2
  belowMax := hadmits.opens.belowMax
  nonce := hadmits.nonce

/-- A message that is refused in time does not pass the checks. -/
theorem not_admits_of_refused {e : CryptoError} {session' : Session}
    {stats stats' : SessionStatistics}
    (hrefused : validateWithNonceFunc ctx verifyNonce session stats msg now =
      (.error e, session', stats'))
    (htime : session.valid = true →
      (SessionMode.read ctx.backend session.algorithms.sessionMode session.keys.rxKey msg
        ctx.payloadBufferLength).isOk = true → session.InTime msg now) :
    ¬ Admits ctx verifyNonce session msg payload := by
  intro hadmits
  have hread : (SessionMode.read ctx.backend session.algorithms.sessionMode session.keys.rxKey msg
      ctx.payloadBufferLength).isOk = true := by
    rw [show SessionMode.read ctx.backend session.algorithms.sessionMode session.keys.rxKey msg
      ctx.payloadBufferLength = .ok payload from hadmits.opens.authentic]
    rfl
  have hok := validateWithNonceFunc_of_accepts
    (hadmits.accepts (htime hadmits.valid hread)) stats
  rw [hrefused] at hok
  cases hok

end Checks

end Session

/-! ## Endpoints -/

def Task.payload : Task → Option Bytes
  | .authPayload payload => some payload
  | _ => none

/-- The payloads of auth messages that are still to be placed. -/
def owed (tasks : List Task) : Bytes :=
  (tasks.filterMap Task.payload).flatten

theorem owed_cons (task : Task) (k : List Task) :
    owed (task :: k) = task.payload.getD [] ++ owed k := by
  cases h : task.payload <;> simp [owed, h]

theorem owed_append (tasks k : List Task) : owed (tasks ++ k) = owed tasks ++ owed k := by
  simp [owed, List.filterMap_append]

/-- Callbacks owe nothing. -/
theorem owed_of_upper {tasks : List Task}
    (htasks : ∀ task ∈ tasks, ∃ callback, task = .upper callback) : owed tasks = [] := by
  rw [owed, List.filterMap_eq_nil_iff.mpr, List.flatten_nil]
  intro task hmem
  obtain ⟨callback, rfl⟩ := htasks task hmem
  rfl

/-- The initiator waits for a message. -/
def HandshakeState.waits : HandshakeState → Bool
  | .waitForBeginReply | .waitForAuthReply => true
  | _ => false

structure Endpoint where
  state : HandshakeState
  handshake : InitiatorHandshake
  /-- how many times the state is still to be left for the idle one -/
  entering : Nat
  active : Session
  pending : Session
  /-- received messages that are not read yet, and accepted user data -/
  rx : List Bytes
  received : Bytes
  sent : List Transmission
  /-- the payload for the upper layer, whether it has been returned, what was returned so far,
  and the payload that is still to be placed -/
  payload : Bytes
  lent : Bool
  given : Bytes
  owed : Bytes

/-- The endpoint of a layer that has the tasks `k` to do and the messages `rx` to read. -/
def Layer.endpoint (layer : Layer) (k : List Task) (rx : List Bytes) : Endpoint where
  state := layer.initiator.handshakeState
  handshake := layer.initiator.handshake
  entering := k.count .enterIdle
  active := layer.base.active
  pending := layer.base.pending
  rx := rx
  received := (received layer.base.trace).flatten
  sent := transmissions layer.base.trace
  payload := layer.base.payloadData
  lent := layer.base.upperIsProcessingRxData
  given := (reads layer.base.trace).flatten
  owed := owed k

def Machine.endpoint (machine : Machine) : Endpoint :=
  machine.layer.endpoint machine.stack machine.layer.base.lowerRx

/-! ## Acts -/

namespace Endpoint

/-- A message that is dropped is no session message that could be accepted. -/
def Ignores (cfg : Config) (e : Endpoint) (message : Bytes) : Prop :=
  ∀ msg payload, SessionData.read message = .ok msg →
    (msg.metadata.nonce ≠ 0 →
      ¬ e.active.Admits cfg.ctx e.active.algorithms.verifyNonce.verify msg payload) ∧
    (msg.metadata.nonce = 0 → cfg.role.isResponder = true ∨ e.state = .waitForAuthReply →
      ¬ e.pending.Admits cfg.ctx SessionNonceMode.equalToZero msg payload)

/-- The initiator has sent an auth message, and keeps to itself until it is answered. -/
def awaits (e : Endpoint) : Bool :=
  e.state = .waitForAuthReply && e.pending.valid

/-- One act of a party, with the frames that it sends.  The keys of a quantum key distribution
come from `store`. -/
inductive Act (cfg : Config) (store : UInt64 → Option Bytes) :
    Endpoint → List Transmission → Endpoint → Prop
  /-- the initiator between two handshakes, and the start of one -/
  | turn {e : Endpoint} {config : InitiatorConfig} (state : HandshakeState)
      (handshake : InitiatorHandshake) (hrole : cfg.role = .initiator config)
      (hfrom : e.state.waits = false) (hto : state.waits = false) :
      Act cfg store e [] { e with state := state, handshake := handshake }
  | ask {e : Endpoint} {config : InitiatorConfig} {random : Random} {keyRecord : Option KeyRecord}
      {init : InitiatorHandshake.InitResult} {started : InitiatorHandshake} {written : Bytes}
      {now : Time} (hrole : cfg.role = .initiator config) (hfrom : e.state.waits = false)
      (hkeys : ∀ record ∈ keyRecord, ∀ key ∈ record.key, store record.id = some key)
      (hinit : e.handshake.initializeNewHandshake cfg.ctx.backend config.mode random keyRecord =
        (some init, started))
      (hrequested : Requested cfg.ctx config init written) :
      Act cfg store e [⟨cfg.ctx.frameWriter.frame written, written, .request⟩]
        { e with
          state := .waitForBeginReply
          handshake := started.finalizeRequestTx cfg.ctx.backend config.mode written now
          sent := e.sent ++ [⟨cfg.ctx.frameWriter.frame written, written, .request⟩] }
  /-- messages that lead to nothing -/
  | skip {e : Endpoint} {message : Bytes} {rest : List Bytes} (hrx : e.rx = message :: rest)
      (hignores : e.Ignores cfg message) : Act cfg store e [] { e with rx := rest }
  | fail {e : Endpoint} {config : InitiatorConfig} {message : Bytes} {rest : List Bytes}
      (handshake : InitiatorHandshake) (pending : Session) (hrole : cfg.role = .initiator config)
      (hrx : e.rx = message :: rest) (hstate : e.state.waits = true) (hforeign : Foreign message) :
      Act cfg store e []
        { e with rx := rest, state := .waitForRetry, handshake := handshake, pending := pending }
  | refuse {e : Endpoint} {config : InitiatorConfig} {message : Bytes} {rest : List Bytes}
      {msg : SessionData} (hrole : cfg.role = .initiator config) (hrx : e.rx = message :: rest)
      (hstate : e.state = .waitForAuthReply) (hread : SessionData.read message = .ok msg)
      (hnonce : msg.metadata.nonce = 0)
      (hnot : ∀ payload, ¬ e.pending.Admits cfg.ctx SessionNonceMode.equalToZero msg payload) :
      Act cfg store e [] { e with rx := rest, state := .waitForRetry }
  /-- the initiator's side of a handshake -/
  | offer {e : Endpoint} {config : InitiatorConfig} {message : Bytes} {rest : List Bytes}
      {msg : ReplyHandshakeBegin} {ikm : List Bytes} {session : Session} {now later : Time}
      {cleartext left : Bytes} {formatted : Session.Formatted} (handshake : InitiatorHandshake)
      (hrole : cfg.role = .initiator config)
      (hrx : e.rx = message :: rest) (hstate : e.state = .waitForBeginReply)
      (hread : ReplyHandshakeBegin.read message = .ok msg)
      (hmaterial : e.handshake.material cfg.ctx.backend config.mode msg = some ikm)
      (hsession : session = e.handshake.derived cfg.ctx.backend config.mode message ikm
        config.sessionLimits now)
      (hkeys : session.keys.valid = true)
      (hformats : session.Formats cfg.ctx later cleartext left formatted) :
      Act cfg store e [CryptoLayer.sessionTransmission session formatted]
        { e with
          rx := rest
          state := .waitForAuthReply
          handshake := handshake
          pending := { session with txNonce := session.txNonce + 1 }
          sent := e.sent ++ [CryptoLayer.sessionTransmission session formatted] }
  | activate {e : Endpoint} {config : InitiatorConfig} {message : Bytes} {rest : List Bytes}
      {msg : SessionData} {now : Time} {payload : Bytes} (hrole : cfg.role = .initiator config)
      (hrx : e.rx = message :: rest) (hstate : e.state = .waitForAuthReply)
      (hread : SessionData.read message = .ok msg) (hnonce : msg.metadata.nonce = 0)
      (haccepts : e.pending.Accepts cfg.ctx SessionNonceMode.equalToZero msg now payload)
      (hempty : e.payload = []) (howed : e.owed = []) :
      Act cfg store e []
        { e with
          rx := rest
          entering := e.entering + 1
          active := { e.pending with rxNonce := msg.metadata.nonce }
          pending := e.active.reset
          received := e.received ++ payload
          owed := payload }
  | enterIdle {e : Endpoint} {n : Nat} (hentering : e.entering = n + 1) :
      Act cfg store e [] { e with state := .idle, entering := n }
  /-- the responder's side of a handshake -/
  | reply {e : Endpoint} {mode : ResponderMode} {message : Bytes} {rest : List Bytes}
      {msg : RequestHandshakeBegin} {now : Time} {random : Random}
      {findKey : UInt64 → Option Bytes} {algorithms : Algorithms.Common} {ikm : List Bytes}
      {result : FrameWriter.WriteResult} {session : Session} {initialized : Bool}
      (hrole : cfg.role = .responder mode) (hrx : e.rx = message :: rest)
      (hread : RequestHandshakeBegin.read message = .ok msg)
      (hlookup : ∀ id, ∀ secret ∈ findKey id, store id = some secret)
      (hreplies : ResponderMode.Replies cfg.ctx.backend mode cfg.ctx.frameWriter msg message now
        random findKey e.pending algorithms ikm result session initialized) :
      Act cfg store e [⟨result.frame, result.written, .reply⟩]
        { e with
          rx := rest
          pending := session
          sent := e.sent ++ [⟨result.frame, result.written, .reply⟩] }
  | error {e : Endpoint} {mode : ResponderMode} {message : Bytes} {rest : List Bytes}
      {error : HandshakeError} {written : Bytes} (hrole : cfg.role = .responder mode)
      (hrx : e.rx = message :: rest)
      (hcause : ∀ msg, SessionData.read message = .ok msg →
        msg.metadata.nonce = 0 ∧ e.pending.valid = false)
      (hwritten : (ReplyHandshakeError.mk Version.get error).write cfg.ctx.frameWriter.room =
        .ok written) :
      Act cfg store e [⟨cfg.ctx.frameWriter.frame written, written, .handshakeError error⟩]
        { e with
          rx := rest
          sent := e.sent ++
            [⟨cfg.ctx.frameWriter.frame written, written, .handshakeError error⟩] }
  | answer {e : Endpoint} {mode : ResponderMode} {message : Bytes} {rest : List Bytes}
      {msg : SessionData} {session : Session} {now later : Time} {payload cleartext left : Bytes}
      {formatted : Session.Formatted} (hrole : cfg.role = .responder mode)
      (hrx : e.rx = message :: rest) (hread : SessionData.read message = .ok msg)
      (hnonce : msg.metadata.nonce = 0)
      (haccepts : e.pending.Accepts cfg.ctx SessionNonceMode.equalToZero msg now payload)
      (hempty : e.payload = []) (howed : e.owed = []) (hunsent : e.pending.txNonce = 0)
      (hsession : session = { e.pending with rxNonce := msg.metadata.nonce })
      (hformats : session.Formats cfg.ctx later cleartext left formatted)
      (hdata : formatted.userData ≠ [] → e.active.valid = true) :
      Act cfg store e [CryptoLayer.sessionTransmission session formatted]
        { e with
          rx := rest
          active := { session with txNonce := session.txNonce + 1 }
          pending := e.active.reset
          received := e.received ++ payload
          sent := e.sent ++ [CryptoLayer.sessionTransmission session formatted]
          owed := payload }
  /-- user data -/
  | accept {e : Endpoint} {message : Bytes} {rest : List Bytes} {msg : SessionData} {now : Time}
      {payload : Bytes} (hrx : e.rx = message :: rest)
      (hread : SessionData.read message = .ok msg) (hnonce : msg.metadata.nonce ≠ 0)
      (haccepts : e.active.Accepts cfg.ctx e.active.algorithms.verifyNonce.verify msg now payload)
      (hempty : e.payload = []) (howed : e.owed = []) :
      Act cfg store e []
        { e with
          rx := rest
          active := { e.active with rxNonce := msg.metadata.nonce }
          received := e.received ++ payload
          payload := payload }
  | emit {e : Endpoint} {now : Time} {cleartext left : Bytes} {formatted : Session.Formatted}
      (hnonce : e.active.txNonce < e.active.parameters.maxNonce)
      (hformats : e.active.Formats cfg.ctx now cleartext left formatted)
      (hwithheld : e.awaits = false) :
      Act cfg store e [CryptoLayer.sessionTransmission e.active formatted]
        { e with
          active := { e.active with txNonce := e.active.txNonce + 1 }
          sent := e.sent ++ [CryptoLayer.sessionTransmission e.active formatted] }
  /-- the way of a payload to the upper layer -/
  | place {e : Endpoint} (howed : e.owed ≠ []) :
      Act cfg store e [] { e with payload := e.owed, owed := [] }
  | read {e : Endpoint} (hfirst : e.lent = false) (hpayload : e.payload ≠ []) :
      Act cfg store e [] { e with lent := true, given := e.given ++ e.payload }
  | discard {e : Endpoint} (hlent : e.lent = true) :
      Act cfg store e [] { e with payload := [], lent := false }

/-- A sequence of acts, with all that it sends. -/
inductive Acts (cfg : Config) (store : UInt64 → Option Bytes) (e : Endpoint) :
    List Transmission → Endpoint → Prop
  | refl : Acts cfg store e [] e
  | tail {new new' : List Transmission} {e' e'' : Endpoint} (hacts : Acts cfg store e new e')
      (hlast : Act cfg store e' new' e'') : Acts cfg store e (new ++ new') e''

variable {cfg : Config} {store : UInt64 → Option Bytes} {e e' e'' : Endpoint}
  {new new' : List Transmission}

theorem Act.sent_eq (hact : Act cfg store e new e') : e'.sent = e.sent ++ new := by
  cases hact <;> simp

theorem Acts.sent_eq (hacts : Acts cfg store e new e') : e'.sent = e.sent ++ new := by
  induction hacts with
  | refl => simp
  | tail _ hlast ih => rw [hlast.sent_eq, ih, List.append_assoc]

theorem Acts.trans (hfirst : Acts cfg store e new e') (hsecond : Acts cfg store e' new' e'') :
    Acts cfg store e (new ++ new') e'' := by
  induction hsecond with
  | refl => simpa using hfirst
  | tail _ hlast ih =>
      rw [← List.append_assoc]
      exact ih.tail hlast

theorem Acts.single (hact : Act cfg store e new e') : Acts cfg store e new e' := by
  simpa using Acts.refl.tail hact

end Endpoint

/-! ## Functions as sequences of acts -/

/-- A change of the layer, its tasks and its messages is a sequence of acts. -/
def Does (cfg : Config) (store : UInt64 → Option Bytes) (layer : Layer) (k : List Task)
    (rx : List Bytes) (layer' : Layer) (k' : List Task) (rx' : List Bytes) : Prop :=
  ∃ new, Endpoint.Acts cfg store (layer.endpoint k rx) new (layer'.endpoint k' rx')

namespace Does

open Endpoint (Act Acts)

variable {cfg : Config} {store : UInt64 → Option Bytes} {layer layer' layer'' : Layer}
  {k k' k'' : List Task} {rx rx' rx'' : List Bytes}

theorem of_eq (heq : layer'.endpoint k' rx' = layer.endpoint k rx) :
    Does cfg store layer k rx layer' k' rx' :=
  ⟨[], heq ▸ .refl⟩

theorem of_act {new : List Transmission} {e : Endpoint}
    (hact : Act cfg store (layer.endpoint k rx) new e) (heq : layer'.endpoint k' rx' = e) :
    Does cfg store layer k rx layer' k' rx' :=
  ⟨new, heq ▸ .single hact⟩

theorem trans (hfirst : Does cfg store layer k rx layer' k' rx')
    (hsecond : Does cfg store layer' k' rx' layer'' k'' rx'') :
    Does cfg store layer k rx layer'' k'' rx'' := by
  obtain ⟨new, hacts⟩ := hfirst
  obtain ⟨new', hacts'⟩ := hsecond
  exact ⟨new ++ new', hacts.trans hacts'⟩

end Does

/-! ### The history in an endpoint -/

attribute [simp] Observation.transmission Observation.receipt Observation.reading

namespace CryptoLayer

/-- A change of the base class that an endpoint does not show. -/
structure SameView (base base' : CryptoLayer) : Prop where
  active : base'.active = base.active
  pending : base'.pending = base.pending
  payloadData : base'.payloadData = base.payloadData
  processing : base'.upperIsProcessingRxData = base.upperIsProcessingRxData
  sent : transmissions base'.trace = transmissions base.trace
  received : received base'.trace = received base.trace
  given : reads base'.trace = reads base.trace

namespace SameView

theorem refl (base : CryptoLayer) : SameView base base :=
  ⟨rfl, rfl, rfl, rfl, rfl, rfl, rfl⟩

theorem trans {base base' base'' : CryptoLayer} (h : SameView base base')
    (h' : SameView base' base'') : SameView base base'' :=
  ⟨h'.active.trans h.active, h'.pending.trans h.pending, h'.payloadData.trans h.payloadData,
    h'.processing.trans h.processing, h'.sent.trans h.sent, h'.received.trans h.received,
    h'.given.trans h.given⟩

theorem log (base : CryptoLayer) (o : Observation) (hsent : o.transmission = none)
    (hreceived : o.receipt = none) (hgiven : o.reading = none) : SameView base (base.log o) := by
  refine ⟨rfl, rfl, rfl, rfl, ?_, ?_, ?_⟩
  · simp only [CryptoLayer.log, Ssp21.transmissions, List.filterMap_append,
      List.filterMap_cons_none hsent, List.filterMap_nil, List.append_nil]
  · simp only [CryptoLayer.log, Ssp21.received, List.filterMap_append,
      List.filterMap_cons_none hreceived, List.filterMap_nil, List.append_nil]
  · simp only [CryptoLayer.log, Ssp21.reads, List.filterMap_append,
      List.filterMap_cons_none hgiven, List.filterMap_nil, List.append_nil]

theorem openUpper (base : CryptoLayer) : SameView base base.openUpper.1 := by
  unfold CryptoLayer.openUpper
  split_ifs
  · exact .refl base
  · have hopened : SameView base { base with upperOpen := true } :=
      ⟨rfl, rfl, rfl, rfl, rfl, rfl, rfl⟩
    exact hopened.trans (.log _ .opened rfl rfl rfl)

theorem notifyRxReady (base : CryptoLayer) : SameView base base.notifyRxReady.1 := by
  unfold CryptoLayer.notifyRxReady
  split_ifs
  · exact .log base .rxReady rfl rfl rfl
  · exact .refl base

theorem notifyTxReady (base : CryptoLayer) : SameView base base.notifyTxReady.1 := by
  unfold CryptoLayer.notifyTxReady
  split_ifs
  · exact .log base .txReady rfl rfl rfl
  · exact .refl base

theorem logVerified (ctx : SessionContext) (session : Session) (msg : SessionData)
    (base : CryptoLayer) : SameView base (base.logVerified ctx session msg) := by
  unfold CryptoLayer.logVerified
  split
  · exact .log base (.verified _ msg) rfl rfl rfl
  · exact .refl base

/-- A message that the session in a slot refuses is only checked and counted. -/
theorem refused (ctx : SessionContext) (slot : Slot) (msg : SessionData) (base : CryptoLayer)
    (stats : SessionStatistics) :
    SameView base { (base.logVerified ctx (base.session slot) msg).setSession slot
      (base.session slot) with statistics := stats } := by
  have h := SameView.logVerified ctx (base.session slot) msg base
  cases slot with
  | active => exact ⟨rfl, h.pending, h.payloadData, h.processing, h.sent, h.received, h.given⟩
  | pending => exact ⟨h.active, rfl, h.payloadData, h.processing, h.sent, h.received, h.given⟩

theorem endpoint_eq {base base' : CryptoLayer} (h : SameView base base')
    (initiator : InitiatorState) {k k' : List Task}
    (hcount : k'.count .enterIdle = k.count .enterIdle)
    (howed : owed k' = owed k) (rx : List Bytes) :
    Layer.endpoint ⟨base', initiator⟩ k' rx = Layer.endpoint ⟨base, initiator⟩ k rx := by
  simp only [Layer.endpoint, h.active, h.pending, h.payloadData, h.processing, h.sent, h.received,
    h.given, hcount, howed]

end SameView

end CryptoLayer

namespace Layer

variable {cfg : Config} {store : UInt64 → Option Bytes} {config : InitiatorConfig} {layer : Layer}
  {k : List Task} {rx : List Bytes}

theorem onHandshakeRequired_does (hrole : cfg.role = .initiator config) {env : Env}
    (henv : env.KeysFrom store) (now : Time) :
    Does cfg store layer k rx (layer.onHandshakeRequired cfg.ctx config env now) k rx := by
  unfold onHandshakeRequired
  split
  · rename_i hidle
    have hwaits : (layer.endpoint k rx).state.waits = false := by
      simp only [endpoint, hidle, HandshakeState.waits]
    split_ifs with hready
    · exact .of_eq rfl
    · have hready' : layer.base.lowerTxReady = true := by simpa using hready
      split
      · rename_i handshake _
        exact .of_act (.turn .waitForRetry handshake hrole hwaits rfl) rfl
      · rename_i init started hinit
        split
        · refine .of_act (.turn .badConfiguration started hrole hwaits
            rfl) ?_
          simp [endpoint, CryptoLayer.log, transmissions, received, reads]
        · rename_i result hwrite
          obtain ⟨hwritten, hframe⟩ := FrameWriter.write_ok hwrite
          have hlog : (layer.base.log (.drew (freshValue init config.mode))).lowerTxReady = true :=
            hready'
          simp only [CryptoLayer.lowerStartTx_ready hlog, hframe]
          refine .of_act (@Endpoint.Act.ask cfg store _ config env.random env.keyRecord init started
            result.written now hrole hwaits henv.record hinit hwritten) ?_
          simp [endpoint, CryptoLayer.log, transmissions, received, reads, List.filterMap_cons,
            CryptoLayer.sent, InitiatorState.startResponseTimer]
  · exact .of_eq rfl

theorem onSessionNonceChange_does {env : Env} (henv : env.KeysFrom store) :
    Does cfg store layer k rx (layer.onSessionNonceChange cfg env) k rx := by
  unfold onSessionNonceChange
  split
  · exact .of_eq rfl
  · rename_i config hrole
    split_ifs
    · have hcancel : Does cfg store layer k rx
          { layer with initiator := layer.initiator.cancelSessionTimeoutTimer } k rx := .of_eq rfl
      exact hcancel.trans (onHandshakeRequired_does hrole henv env.later)
    · exact .of_eq rfl

theorem onPreTxReady_does {env : Env} (henv : env.KeysFrom store) :
    Does cfg store layer k rx (layer.onPreTxReady cfg env) k rx := by
  unfold onPreTxReady
  split
  · rename_i config hrole
    split_ifs
    · exact onHandshakeRequired_does hrole henv env.now
    · exact .of_eq rfl
  · exact .of_eq rfl

/-! ### Messages -/

variable {env : Env} {message : Bytes}

theorem skip_does (hignores : (layer.endpoint k (message :: rx)).Ignores cfg message) :
    Does cfg store layer k (message :: rx) layer k rx :=
  .of_act (.skip rfl hignores) rfl

/-- A message that is no session message can be dropped. -/
theorem skip_foreign (hforeign : Foreign message) :
    Does cfg store layer k (message :: rx) layer k rx :=
  skip_does (fun msg _ hread => absurd hread (hforeign msg))

theorem replyWithHandshakeError_does {mode : ResponderMode} (hrole : cfg.role = .responder mode)
    (hready : layer.base.lowerTxReady = true)
    (hcause : ∀ msg, SessionData.read message = .ok msg →
      msg.metadata.nonce = 0 ∧ layer.base.pending.valid = false) (error : HandshakeError) :
    Does cfg store layer k (message :: rx) (layer.replyWithHandshakeError cfg.ctx error) k rx := by
  unfold replyWithHandshakeError
  split
  · refine skip_does ?_
    intro msg payload hread
    obtain ⟨hnonce, hinvalid⟩ := hcause msg hread
    refine ⟨fun hne => absurd hnonce hne, fun _ _ hadmits => ?_⟩
    have hvalid : layer.base.pending.valid = true := hadmits.valid
    rw [hinvalid] at hvalid
    cases hvalid
  · rename_i result hwrite
    obtain ⟨hwritten, hframe⟩ := FrameWriter.write_ok hwrite
    rw [CryptoLayer.lowerStartTx_ready hready, hframe]
    refine .of_act (.error hrole rfl hcause hwritten) ?_
    simp [endpoint, CryptoLayer.log, transmissions, received, reads, CryptoLayer.sent]

theorem onReplyMessage_does (hrole : cfg.role = .initiator config)
    (hready : layer.base.lowerTxReady = true) {msg : ReplyHandshakeBegin}
    (hmsg : ReplyHandshakeBegin.read message = .ok msg) :
    Does cfg store layer k (message :: rx) (layer.onReplyMessage cfg.ctx config env msg message) k
      rx := by
  have hforeign := foreign_of_reply hmsg
  unfold onReplyMessage
  by_cases hstate : layer.initiator.handshakeState = .waitForBeginReply
  · have hwaits : (layer.endpoint k (message :: rx)).state.waits = true := by
      simp only [endpoint, hstate, HandshakeState.waits]
    rw [if_neg (not_not.mpr hstate)]
    rcases InitiatorHandshake.initializeSession_cases cfg.ctx.backend config.mode
      layer.initiator.handshake msg message config.sessionLimits env.now layer.base.pending
      layer.base.statistics with
      ⟨ikm, handshake', stats', hmaterial, htime, hkeys, heq⟩ | ⟨handshake', heq⟩
    · simp only [InitiatorState.cancelResponseAndRetryTimer, heq, hmaterial, Option.getD_some,
        Bool.not_true, Bool.false_eq_true, if_false]
      generalize hderived : CryptoLayer.log _ _ = derived
      have hpending : derived.pending =
        layer.initiator.handshake.derived cfg.ctx.backend config.mode
          message ikm config.sessionLimits env.now := by
        rw [← hderived]
        rfl
      have hready' : derived.lowerTxReady = true := by
        rw [← hderived]
        exact hready
      -- the session has been derived; if its auth message cannot be formatted, the handshake fails
      rcases CryptoLayer.transmitSessionAuth_cases cfg.ctx hready' .pending env.later with
        ⟨rest, formatted, hnonce, hformats, hsend⟩ | ⟨e, -, hsend⟩
      · rw [hsend]
        simp only [CryptoLayer.session] at hformats
        rw [hpending] at hformats
        refine .of_act (.offer handshake' hrole rfl hstate hmsg hmaterial rfl hkeys hformats) ?_
        simp [endpoint, CryptoLayer.log, transmissions, received, reads, List.filterMap_cons,
          CryptoLayer.sentSession, CryptoLayer.sent, CryptoLayer.session, CryptoLayer.setSession,
          InitiatorState.startResponseTimer, ← hderived]
      · rw [hsend]
        refine .of_act (.fail handshake' derived.pending hrole rfl hwaits hforeign) ?_
        simp [endpoint, CryptoLayer.log, transmissions, received, reads, InitiatorState.retryLater,
          InitiatorState.startRetryTimer, ← hderived]
    · simp only [InitiatorState.cancelResponseAndRetryTimer, heq, Bool.not_false, if_true]
      exact .of_act (.fail handshake' layer.base.pending hrole rfl hwaits hforeign) rfl
  · rw [if_pos hstate]
    exact skip_foreign hforeign

theorem onErrorMessage_does (hrole : cfg.role = .initiator config)
    (hforeign : Foreign message) :
    Does cfg store layer k (message :: rx) (layer.onErrorMessage config env) k rx := by
  have hfail (hwaits : layer.initiator.handshakeState.waits = true) :
      Does cfg store layer k (message :: rx) { layer with initiator :=
        layer.initiator.cancelResponseAndRetryTimer.retryLater config.params env.later } k rx :=
    .of_act (.fail layer.initiator.handshake layer.base.pending hrole rfl hwaits hforeign) rfl
  unfold onErrorMessage
  split
  · rename_i hstate
    exact hfail (by rw [hstate]; rfl)
  · rename_i hstate
    exact hfail (by rw [hstate]; rfl)
  · exact skip_foreign hforeign

theorem onRequest_does {mode : ResponderMode} (hrole : cfg.role = .responder mode)
    (hready : layer.base.lowerTxReady = true) (henv : env.KeysFrom store)
    {msg : RequestHandshakeBegin} (hmsg : RequestHandshakeBegin.read message = .ok msg) :
    Does cfg store layer k (message :: rx) (layer.onRequest cfg.ctx mode env msg message) k rx := by
  have hforeign := foreign_of_request hmsg
  unfold onRequest
  split_ifs
  · exact replyWithHandshakeError_does hrole hready (fun msg hread => absurd hread (hforeign msg)) _
  · rcases ResponderMode.process_settles cfg.ctx.backend mode cfg.ctx.frameWriter msg
      message env.now
      env.random env.findKey layer.base.pending layer.base.statistics with
      ⟨algorithms, ikm, result, session', stats', lookup, initialized, hreplies, heq⟩ |
      ⟨e, lookup, heq⟩
    · simp only [heq]
      refine .of_act (.reply hrole rfl hmsg henv.lookup hreplies) ?_
      cases initialized with
      | true =>
          rw [if_pos rfl, CryptoLayer.lowerStartTx_ready (by exact hready)]
          simp [endpoint, CryptoLayer.log, transmissions, received, reads, List.filterMap_cons,
            CryptoLayer.sent]
      | false =>
          rw [if_neg (by simp), CryptoLayer.lowerStartTx_ready (by exact hready)]
          simp [endpoint, CryptoLayer.log, transmissions, received, reads, List.filterMap_cons,
            CryptoLayer.sent]
    · simp only [heq]
      have hcounted : Does cfg store layer k (message :: rx) { layer with base :=
          { layer.base with pending := layer.base.pending, statistics := layer.base.statistics } } k
          (message :: rx) := .of_eq rfl
      exact hcounted.trans (replyWithHandshakeError_does hrole hready
        (fun msg hread => absurd hread (hforeign msg)) e)

/-! ### Messages of a session -/

/-- A session message is refused, and belongs to no session that could accept it. -/
theorem ignores_of_read {msg : SessionData} (hmsg : SessionData.read message = .ok msg)
    (hdata : msg.metadata.nonce ≠ 0 → ∀ payload,
      ¬ layer.base.active.Admits cfg.ctx layer.base.active.algorithms.verifyNonce.verify
        msg payload)
    (hauth : msg.metadata.nonce = 0 →
      cfg.role.isResponder = true ∨ layer.initiator.handshakeState = .waitForAuthReply →
      ∀ payload, ¬ layer.base.pending.Admits cfg.ctx SessionNonceMode.equalToZero msg payload) :
    (layer.endpoint k rx).Ignores cfg message := by
  intro msg' payload hread
  rw [hmsg] at hread
  cases hread
  exact ⟨fun hne => hdata hne payload, fun hzero hreads => hauth hzero hreads payload⟩

/-- Callbacks show in no endpoint. -/
theorem endpoint_eq_of_upper {base base' : CryptoLayer} (hview : base.SameView base')
    (initiator : InitiatorState) {tasks : List Task}
    (htasks : ∀ task ∈ tasks, ∃ callback, task = .upper callback) (k : List Task)
    (rx : List Bytes) :
    endpoint ⟨base', initiator⟩ (tasks ++ k) rx = endpoint ⟨base, initiator⟩ k rx := by
  have hcount : tasks.count .enterIdle = 0 := by
    rw [List.count_eq_zero]
    intro hmem
    obtain ⟨callback, ⟨⟩⟩ := htasks _ hmem
  have howed := owed_of_upper htasks
  refine hview.endpoint_eq initiator ?_ ?_ rx
  · rw [List.count_append, hcount, Nat.zero_add]
  · rw [owed_append, howed, List.nil_append]

theorem openUpper_endpoint (base : CryptoLayer) (initiator : InitiatorState) (k : List Task)
    (rx : List Bytes) :
    endpoint ⟨base.openUpper.1, initiator⟩ (base.openUpper.2 ++ k) rx =
      endpoint ⟨base, initiator⟩ k rx :=
  endpoint_eq_of_upper (.openUpper base) initiator
    (fun _ hmem => ⟨_, CryptoLayer.openUpper_snd hmem⟩) k rx

theorem onAuthMessage_does (hrole : cfg.role = .initiator config)
    (hempty : layer.base.payloadData = [])
    (howed : owed k = []) {msg : SessionData} (hmsg : SessionData.read message = .ok msg)
    (hnonce : msg.metadata.nonce = 0)
    (htime : layer.base.pending.valid = true →
      (SessionMode.read cfg.ctx.backend layer.base.pending.algorithms.sessionMode
        layer.base.pending.keys.rxKey msg cfg.ctx.payloadBufferLength).isOk = true →
      layer.base.pending.InTime msg env.now) :
    Does cfg store layer k (message :: rx) (layer.onAuthMessage cfg.ctx config env msg).1
      ((layer.onAuthMessage cfg.ctx config env msg).2 ++ k) rx := by
  unfold onAuthMessage
  split_ifs with hstate
  · refine skip_does (ignores_of_read hmsg (fun hne => absurd hnonce hne) ?_)
    rintro - (hresponder | hwait)
    · rw [hrole] at hresponder
      cases hresponder
    · exact absurd hwait hstate
  · rcases Session.validateSessionAuth_cases cfg.ctx layer.base.pending
      (layer.base.logVerified cfg.ctx layer.base.pending msg).statistics msg env.now with
      ⟨payload, stats', haccepts, heq⟩ | ⟨e, stats', heq⟩
    · simp only [heq]
      refine .of_act (.activate hrole rfl (not_not.mp hstate) hmsg hnonce haccepts hempty howed) ?_
      rw [logVerified_accepts haccepts, List.append_assoc, openUpper_endpoint]
      simp [endpoint, CryptoLayer.log, transmissions, received, reads, List.filterMap_cons,
        CryptoLayer.activatePending, owed_cons, Task.payload, howed,
        InitiatorState.startSessionTimer, InitiatorState.cancelResponseAndRetryTimer]
    · simp only [heq]
      refine .of_act (.refuse hrole rfl (not_not.mp hstate) hmsg hnonce
        (fun payload => Session.not_admits_of_refused heq htime)) ?_
      have hview := CryptoLayer.SameView.refused cfg.ctx .pending msg layer.base stats'
      exact (hview.endpoint_eq _ rfl rfl rx).trans rfl

theorem onAuthSession_does {mode : ResponderMode} (hrole : cfg.role = .responder mode)
    (hread : layer.base.canRead) (howed : owed k = [])
    {msg : SessionData} (hmsg : SessionData.read message = .ok msg)
    (hnonce : msg.metadata.nonce = 0)
    (htime : layer.base.pending.valid = true →
      (SessionMode.read cfg.ctx.backend layer.base.pending.algorithms.sessionMode
        layer.base.pending.keys.rxKey msg cfg.ctx.payloadBufferLength).isOk = true →
      layer.base.pending.InTime msg env.now)
    (hanswers : ∀ payload,
      Session.Accepts cfg.ctx SessionNonceMode.equalToZero layer.base.pending msg env.now payload →
      layer.base.pending.CanFormat cfg.ctx env.later layer.base.txState.remainder)
    (hunsent : layer.base.pending.valid = true → layer.base.pending.txNonce = 0)
    (hopen : layer.base.txState.remainder ≠ [] → layer.base.active.valid = true) :
    Does cfg store layer k (message :: rx) (layer.onAuthSession cfg.ctx env msg).1
      ((layer.onAuthSession cfg.ctx env msg).2 ++ k) rx := by
  unfold onAuthSession
  split_ifs with hvalid
  · refine replyWithHandshakeError_does hrole hread.1 ?_ _
    intro msg' hread'
    rw [hmsg] at hread'
    cases hread'
    exact ⟨hnonce, by simpa using hvalid⟩
  · rcases Session.validateSessionAuth_cases cfg.ctx layer.base.pending
      (layer.base.logVerified cfg.ctx layer.base.pending msg).statistics msg env.now with
      ⟨payload, stats', haccepts, heq⟩ | ⟨e, stats', heq⟩
    · simp only [heq]
      rw [logVerified_accepts haccepts]
      generalize hactivated : CryptoLayer.activatePending _ = activated
      have hready : activated.lowerTxReady = true := by
        rw [← hactivated]
        exact hread.1
      have hactive : activated.active =
          { layer.base.pending with rxNonce := msg.metadata.nonce } := by
        rw [← hactivated]
        rfl
      have hremainder : activated.txState.remainder = layer.base.txState.remainder := by
        rw [← hactivated]
        rfl
      rcases CryptoLayer.transmitSessionAuth_cases cfg.ctx hready .active env.later with
        ⟨rest, formatted, htx, hformats, hsend⟩ | ⟨e, herror, hsend⟩
      · rw [hsend]
        simp only [CryptoLayer.session, hactive, hremainder] at htx hformats
        -- the answer takes along what remains, which was submitted under the session before
        have hdata : formatted.userData ≠ [] → layer.base.active.valid = true := by
          intro hne
          refine hopen (fun hnil => hne ?_)
          have hsplit := hformats.writes.split
          rw [hnil] at hsplit
          exact (List.append_eq_nil_iff.mp hsplit.symm).1
        refine .of_act (.answer hrole rfl hmsg hnonce haccepts hread.2 howed htx rfl hformats hdata)
          ?_
        rw [List.append_assoc, openUpper_endpoint]
        simp [endpoint, CryptoLayer.log, transmissions, received, reads, List.filterMap_cons,
          CryptoLayer.sentSession, CryptoLayer.sent, CryptoLayer.session, CryptoLayer.setSession,
          ← hactivated, CryptoLayer.activatePending, owed_cons, Task.payload, howed]
      · -- the responder would move on without an answer
        obtain ⟨formatted, hok⟩ := Session.formatSessionAuth_ok haccepts.valid
          (hunsent haccepts.valid) (hanswers payload haccepts)
        simp only [CryptoLayer.session, hactive, hremainder, Session.formatSessionAuth_rxNonce, hok]
          at herror
        cases herror
    · simp only [heq]
      have hignores := @ignores_of_read cfg layer k (message :: rx) message msg hmsg
        (fun hne => absurd hnonce hne) (fun _ _ payload => Session.not_admits_of_refused heq htime)
      refine .of_act (.skip rfl hignores) ?_
      have hview := CryptoLayer.SameView.refused cfg.ctx .pending msg layer.base stats'
      exact (hview.endpoint_eq _ rfl rfl rx).trans rfl

theorem notifyRxReady_snd {base : CryptoLayer} {task : Task} (hmem : task ∈ base.notifyRxReady.2) :
    task = .upper .onLowerRxReady := by
  unfold CryptoLayer.notifyRxReady at hmem
  split_ifs at hmem
  · exact List.mem_singleton.mp hmem
  · cases hmem

theorem notifyRxReady_endpoint (base : CryptoLayer) (initiator : InitiatorState) (k : List Task)
    (rx : List Bytes) :
    endpoint ⟨base.notifyRxReady.1, initiator⟩ (base.notifyRxReady.2 ++ k) rx =
      endpoint ⟨base, initiator⟩ k rx :=
  endpoint_eq_of_upper (.notifyRxReady base) initiator (fun _ hmem => ⟨_, notifyRxReady_snd hmem⟩) k
    rx

theorem onSessionData_does (hempty : layer.base.payloadData = []) (howed : owed k = [])
    (henv : env.KeysFrom store) {msg : SessionData} (hmsg : SessionData.read message = .ok msg)
    (hnonce : msg.metadata.nonce ≠ 0)
    (htime : layer.base.active.valid = true →
      (SessionMode.read cfg.ctx.backend layer.base.active.algorithms.sessionMode
        layer.base.active.keys.rxKey msg cfg.ctx.payloadBufferLength).isOk = true →
      layer.base.active.InTime msg env.now) :
    Does cfg store layer k (message :: rx) (layer.onSessionData cfg env msg).1
      ((layer.onSessionData cfg env msg).2 ++ k) rx := by
  unfold onSessionData
  rcases Session.validateWithNonceFunc_cases cfg.ctx
    layer.base.active.algorithms.verifyNonce.verify layer.base.active
    (layer.base.logVerified cfg.ctx layer.base.active msg).statistics msg env.now with
    ⟨payload, stats', haccepts, heq⟩ | ⟨e, stats', heq⟩
  · by_cases hpayload : payload = []
    · -- reported as an error, but the nonce has moved on
      subst hpayload
      simp only [Session.validateSessionData, heq, if_true]
      rw [logVerified_accepts haccepts]
      refine .of_act (.accept rfl hmsg hnonce haccepts hempty howed) ?_
      simp [endpoint, CryptoLayer.log, transmissions, received, reads, hempty]
    · simp only [Session.validateSessionData, heq, hpayload, if_false]
      rw [logVerified_accepts haccepts]
      generalize hplaced : CryptoLayer.placePayload _ payload = placed
      have haccept : Does cfg store layer k (message :: rx) { layer with base := placed } k rx := by
        refine .of_act (.accept rfl hmsg hnonce haccepts hempty howed) ?_
        simp [endpoint, CryptoLayer.log, transmissions, received, reads, List.filterMap_cons,
          ← hplaced, CryptoLayer.placePayload]
      exact (haccept.trans (onSessionNonceChange_does henv)).trans
        (.of_eq (notifyRxReady_endpoint _ _ k rx))
  · simp only [Session.validateSessionData, heq]
    have hignores := @ignores_of_read cfg layer k (message :: rx) message msg hmsg
      (fun _ payload => Session.not_admits_of_refused heq htime) (fun hzero => absurd hzero hnonce)
    refine .of_act (.skip rfl hignores) ?_
    have hview := CryptoLayer.SameView.refused cfg.ctx .active msg layer.base stats'
    exact (hview.endpoint_eq _ rfl rfl rx).trans rfl

/-- What the processing of a message is given: the layer can read, nothing is still to be placed,
and the keys of the environment come from the store.  A message with a right tag is in time, an
auth message can be answered, and data that is left belongs to an open session. -/
structure Receives (cfg : Config) (store : UInt64 → Option Bytes) (layer : Layer) (k : List Task)
    (env : Env) (message : Bytes) : Prop where
  canRead : layer.base.canRead
  owed : owed k = []
  keys : env.KeysFrom store
  inTime : ∀ msg, SessionData.read message = .ok msg →
    let session := layer.base.session (if msg.metadata.nonce = 0 then .pending else .active)
    session.valid = true → (SessionMode.read cfg.ctx.backend session.algorithms.sessionMode
      session.keys.rxKey msg cfg.ctx.payloadBufferLength).isOk = true → session.InTime msg env.now
  answers : ∀ msg payload, SessionData.read message = .ok msg → cfg.role.isResponder = true →
    msg.metadata.nonce = 0 →
    Session.Accepts cfg.ctx SessionNonceMode.equalToZero layer.base.pending msg env.now payload →
    layer.base.pending.CanFormat cfg.ctx env.later layer.base.txState.remainder
  unsent : cfg.role.isResponder = true → layer.base.pending.valid = true →
    layer.base.pending.txNonce = 0
  opened : layer.base.txState.remainder ≠ [] → layer.base.active.valid = true

theorem onSessionMessage_does (h : Receives cfg store layer k env message) {msg : SessionData}
    (hmsg : SessionData.read message = .ok msg) :
    Does cfg store layer k (message :: rx) (layer.onSessionMessage cfg env msg).1
      ((layer.onSessionMessage cfg env msg).2 ++ k) rx := by
  have htime := h.inTime msg hmsg
  unfold onSessionMessage
  split_ifs with hnonce
  · simp only [hnonce, if_true, CryptoLayer.session] at htime
    split
    · rename_i config hrole
      exact onAuthMessage_does hrole h.canRead.2 h.owed hmsg hnonce htime
    · rename_i mode hrole
      exact onAuthSession_does hrole h.canRead h.owed hmsg hnonce htime
        (fun payload => h.answers msg payload hmsg (by rw [hrole]; rfl) hnonce)
        (h.unsent (by rw [hrole]; rfl)) h.opened
  · simp only [hnonce, if_false, CryptoLayer.session] at htime
    exact onSessionData_does h.canRead.2 h.owed h.keys hmsg hnonce htime

theorem process_does (h : Receives cfg store layer k env message) :
    Does cfg store layer k (message :: rx) (layer.process cfg env message).1
      ((layer.process cfg env message).2 ++ k) rx := by
  cases message with
  | nil => exact skip_foreign foreign_nil
  | cons byte bytes =>
      unfold process
      dsimp only
      split
      · rename_i config hfunction hrole
        have hforeign : Foreign (byte :: bytes) :=
          foreign_of_fromType (by rw [hfunction]; nofun)
        split
        · exact skip_foreign hforeign
        · rename_i msg hmsg
          exact onReplyMessage_does hrole h.canRead.1 hmsg
      · rename_i config hfunction hrole
        have hforeign : Foreign (byte :: bytes) :=
          foreign_of_fromType (by rw [hfunction]; nofun)
        split
        · exact skip_foreign hforeign
        · exact onErrorMessage_does hrole hforeign
      · rename_i mode hfunction hrole
        split
        · refine replyWithHandshakeError_does hrole h.canRead.1 ?_ _
          intro msg hread
          exact absurd hread (foreign_of_fromType (by rw [hfunction]; nofun) msg)
        · rename_i msg hmsg
          exact onRequest_does hrole h.canRead.1 h.keys hmsg
      · split
        · rename_i e herror
          refine skip_foreign ?_
          intro msg hread
          rw [herror] at hread
          cases hread
        · rename_i msg hmsg
          exact onSessionMessage_does h hmsg
      · rename_i hother
        refine skip_foreign (foreign_of_fromType ?_)
        intro hfunction
        cases hrole : cfg.role <;> simp_all

/-! ### Transmission and the other events -/

theorem checkTransmit_does (hcoupled : layer.base.upperOpen = layer.base.active.valid)
    (henv : env.KeysFrom store) (hupper : .closed ∉ (layer.checkTransmit cfg env).1.base.trace)
    (hwithholds : (layer.endpoint k rx).awaits = true → layer.base.canTransmitSessionData = false) :
    Does cfg store layer k rx (layer.checkTransmit cfg env).1
      ((layer.checkTransmit cfg env).2 ++ k) rx := by
  unfold checkTransmit at hupper ⊢
  split_ifs with hguard
  · exact .of_eq rfl
  · have hcan : layer.base.canTransmitSessionData = true := by simpa using hguard
    obtain ⟨hvalid, hready⟩ := CryptoLayer.ready_of_canTransmit hcan
    rw [if_neg hguard] at hupper
    rcases Session.formatSessionData_cases cfg.ctx layer.base.active env.now
      layer.base.txState.remainder with ⟨rest, formatted, hnonce, hformats, heq⟩ | ⟨rest, e, heq⟩
    · simp only [heq]
      rw [CryptoLayer.lowerStartTx_ready (by exact hready)]
      have hwithheld : (layer.endpoint k rx).awaits = false := by
        by_contra hawaits
        rw [hwithholds (by simpa using hawaits)] at hcan
        cases hcan
      have hemit : Does cfg store layer k rx
          { layer with base := layer.base.sentSession .active rest formatted } k rx := by
        refine .of_act (.emit hnonce hformats hwithheld) ?_
        simp [endpoint, CryptoLayer.log, transmissions, received, reads, CryptoLayer.sentSession,
          CryptoLayer.sent, CryptoLayer.session, CryptoLayer.setSession]
      exact hemit.trans (onSessionNonceChange_does henv)
    · -- the upper layer would be closed
      simp only [heq, CryptoLayer.closeUpper_fst] at hupper
      have hopen : layer.base.upperOpen = true := hcoupled.trans hvalid
      simp [CryptoLayer.log, hopen] at hupper

end Layer

end Ssp21
