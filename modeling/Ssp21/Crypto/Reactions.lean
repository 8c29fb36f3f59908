import Ssp21.Crypto.Receiving
import Ssp21.Crypto.Timers

/-!
# What a step does to the timers

The state in which a timer makes sense is kept apart from the timers and their handles.

* `Control` is the part of a machine that timers depend on.  `entering` counts the
  accepted auth messages whose callbacks have not returned: the state is left only
  behind them.
* `Reacts`: what a step can do to the control (`step_reacts`).  It may read an answer while
  an accepted auth message is still being handled.
-/

namespace Ssp21

open Wire

/-- The outcomes of `on_handshake_required`. -/
inductive Required (config : InitiatorConfig) (state : InitiatorState) : InitiatorState → Prop
  | deferred : Required config state { state with handshakeRequired := true }
  | retried (hidle : state.handshakeState = .idle) (handshake : InitiatorHandshake) (now : Time) :
      Required config state ({ state with handshake := handshake }.retryLater config.params now)
  | failed (hidle : state.handshakeState = .idle) (handshake : InitiatorHandshake) :
      Required config state
        { state with handshake := handshake, handshakeState := .badConfiguration }
  | requested (hidle : state.handshakeState = .idle) (handshake : InitiatorHandshake)
      (requestData : Bytes) (now : Time) :
      Required config state ({ state with
        handshake := handshake
        requestData := requestData
        handshakeState := .waitForBeginReply }.startResponseTimer config.params now)

/-- What timers depend on: the state of the initiator, whether the layer is open and its
sessions are valid, and how many accepted auth messages are still being handled. -/
structure Control where
  initiator : InitiatorState
  isOpen : Bool
  active : Bool
  pending : Bool
  entering : Nat

/-- What a step can do to the control.  `nested` says whether an answer may be read while
an accepted auth message is being handled. -/
inductive Reacts (config : InitiatorConfig) (nested : Prop) : Control → Control → Prop
  | rest (c : Control) {active : Bool} (hactive : active = true → c.active = true) :
      Reacts config nested c { c with active := active }
  /-- the events that call for a handshake -/
  | nonceChange {c : Control} {state : InitiatorState} (hactive : c.active = true)
      (hrequired : Required config c.initiator.cancelSessionTimeoutTimer state) :
      Reacts config nested c { c with initiator := state }
  | opened {c : Control} {state : InitiatorState} (hclosed : c.isOpen = false)
      (hentering : c.entering = 0) (hrequired : Required config c.initiator state) :
      Reacts config nested c { c with initiator := state, isOpen := true }
  | preTxReady {c : Control} {state : InitiatorState} (hentering : c.entering = 0)
      (hdue : c.initiator.handshakeRequired = true)
      (hrequired : Required config c.initiator state) :
      Reacts config nested c { c with initiator := state }
  | sessionTimeout {c : Control} {state : InitiatorState} {timer : Timer}
      (hentering : c.entering = 0) (hmem : timer ∈ c.initiator.timers)
      (hkind : timer.kind = .session)
      (hrequired : Required config (c.initiator.fired timer) state) :
      Reacts config nested c { c with initiator := state }
  | retryTimeout {c : Control} {state : InitiatorState} {timer : Timer}
      (hentering : c.entering = 0) (hmem : timer ∈ c.initiator.timers)
      (hkind : timer.kind = .retry) (hwait : c.initiator.handshakeState = .waitForRetry)
      (hrequired : Required config { c.initiator.fired timer with handshakeState := .idle } state) :
      Reacts config nested c { c with initiator := state }
  | strayRetryTimeout {c : Control} {state : InitiatorState} {timer : Timer}
      (hentering : c.entering = 0) (hmem : timer ∈ c.initiator.timers)
      (hkind : timer.kind = .retry) (hwait : c.initiator.handshakeState ≠ .waitForRetry)
      (hrequired : Required config (c.initiator.fired timer) state) :
      Reacts config nested c { c with initiator := state }
  /-- the answers to a handshake, and their absence -/
  | responseTimeout {c : Control} {timer : Timer} (now : Time) (hentering : c.entering = 0)
      (hmem : timer ∈ c.initiator.timers) (hkind : timer.kind = .response)
      (hwait : c.initiator.handshakeState = .waitForBeginReply ∨
        c.initiator.handshakeState = .waitForAuthReply) :
      Reacts config nested c
        { c with initiator := (c.initiator.fired timer).retryLater config.params now }
  | strayResponseTimeout {c : Control} {timer : Timer} (hentering : c.entering = 0)
      (hmem : timer ∈ c.initiator.timers) (hkind : timer.kind = .response)
      (hwait : c.initiator.handshakeState ≠ .waitForBeginReply ∧
        c.initiator.handshakeState ≠ .waitForAuthReply) :
      Reacts config nested c { c with initiator := c.initiator.fired timer }
  | beginFailed {c : Control} (handshake : InitiatorHandshake) (pending : Bool) (now : Time)
      (hwait : c.initiator.handshakeState = .waitForBeginReply) :
      Reacts config nested c { c with
        initiator := { c.initiator.cancelResponseAndRetryTimer with
          handshake := handshake }.retryLater
          config.params now
        pending := pending }
  | begun {c : Control} (handshake : InitiatorHandshake) (pending : Bool) (now : Time)
      (hwait : c.initiator.handshakeState = .waitForBeginReply) :
      Reacts config nested c { c with
        initiator := { InitiatorState.startResponseTimer
          { c.initiator.cancelResponseAndRetryTimer with handshake := handshake } config.params now
            with handshakeState := .waitForAuthReply }
        pending := pending }
  | authFailed {c : Control} (now : Time)
      (hwait : c.initiator.handshakeState = .waitForAuthReply) (hnested : c.entering ≠ 0 → nested) :
      Reacts config nested c { c with
        initiator := c.initiator.cancelResponseAndRetryTimer.retryLater config.params now }
  | accepted {c : Control} (due : Time) (hwait : c.initiator.handshakeState = .waitForAuthReply)
      (hpending : c.pending = true) :
      Reacts config nested c { c with
        initiator := InitiatorState.startSessionTimer
          { c.initiator.cancelResponseAndRetryTimer with handshakeRequired := false } due
        active := true
        pending := false
        entering := c.entering + 1 }
  | entered {c : Control} {entering : Nat} (hentering : c.entering = entering + 1) :
      Reacts config nested c { c with
        initiator := { c.initiator with handshakeState := .idle }
        entering := entering }
  | closed {c : Control} (hopen : c.isOpen = true) (hentering : c.entering = 0) :
      Reacts config nested c
        ⟨c.initiator.resetStateOnClose, false, false, false, 0⟩

/-- The base class keeps what timers depend on. -/
structure CryptoLayer.SameFlags (base base' : CryptoLayer) : Prop where
  isOpen : base'.isOpen = base.isOpen
  active : base'.active.valid = base.active.valid
  pending : base'.pending.valid = base.pending.valid

namespace Layer

open CryptoLayer (SameFlags)

def control (layer : Layer) (entering : Nat) : Control :=
  ⟨layer.initiator, layer.base.isOpen, layer.base.active.valid, layer.base.pending.valid, entering⟩

theorem control_eq {base : CryptoLayer} {layer : Layer} (hflags : SameFlags base layer.base)
    (initiator : InitiatorState) (entering : Nat) :
    layer.control entering =
      { (⟨base, initiator⟩ : Layer).control entering with initiator := layer.initiator } := by
  simp only [control, hflags.isOpen, hflags.active, hflags.pending]

section Initiator

variable {cfg : Config} {config : InitiatorConfig} {nested : Prop} {layer : Layer} {entering : Nat}
  {base : CryptoLayer} {initiator : InitiatorState}

theorem onHandshakeRequired_required (ctx : SessionContext) (env : Env) (now : Time) :
    Required config initiator (onHandshakeRequired ctx config env now ⟨base, initiator⟩).initiator ∧
      SameFlags base (onHandshakeRequired ctx config env now ⟨base, initiator⟩).base := by
  unfold onHandshakeRequired
  split
  · rename_i hidle
    split_ifs
    · exact ⟨.deferred, rfl, rfl, rfl⟩
    · split
      · exact ⟨.retried hidle _ _, rfl, rfl, rfl⟩
      · dsimp only
        split
        · exact ⟨.failed hidle _, rfl, rfl, rfl⟩
        · refine ⟨.requested hidle _ _ _, ?_⟩
          dsimp only
          unfold CryptoLayer.lowerStartTx
          split_ifs <;> exact ⟨rfl, rfl, rfl⟩
  · exact ⟨.deferred, rfl, rfl, rfl⟩

/-- A nonce that has moved, in a valid session. -/
theorem onSessionNonceChange_reacts (hrole : cfg.role = .initiator config) (env : Env)
    (hvalid : base.active.valid = true) :
    Reacts config nested ((⟨base, initiator⟩ : Layer).control entering)
      ((onSessionNonceChange cfg env ⟨base, initiator⟩).control entering) := by
  unfold onSessionNonceChange
  rw [hrole]
  dsimp only
  split_ifs
  · obtain ⟨hrequired, hflags⟩ := @onHandshakeRequired_required config base
      initiator.cancelSessionTimeoutTimer cfg.ctx env env.later
    rw [control_eq hflags initiator]
    exact .nonceChange hvalid hrequired
  · exact .rest _ id

theorem onReplyMessage_reacts (ctx : SessionContext) (hready : layer.base.lowerTxReady = true)
    (env : Env) (msg : ReplyHandshakeBegin) (rawData : Bytes) :
    Reacts config nested (layer.control entering)
      ((layer.onReplyMessage ctx config env msg rawData).control entering) := by
  unfold onReplyMessage
  by_cases hwait : layer.initiator.handshakeState = .waitForBeginReply
  · rw [if_neg (not_not.mpr hwait)]
    rcases InitiatorHandshake.initializeSession_cases ctx.backend config.mode
      layer.initiator.handshake msg rawData config.sessionLimits env.now layer.base.pending
      layer.base.statistics with
      ⟨ikm, handshake', stats', -, -, -, heq⟩ | ⟨handshake', heq⟩
    · simp only [InitiatorState.cancelResponseAndRetryTimer, heq, Bool.not_true, Bool.false_eq_true,
        if_false]
      generalize InitiatorHandshake.derived _ _ _ _ _ _ _ = session
      generalize Observation.initialized _ = initialized
      -- the first message of the session changes no flag but that of the pending one
      have hsent := CryptoLayer.Confined.transmitSessionAuth ctx (show (CryptoLayer.log { layer.base
        with pending := session, statistics := stats' } initialized).lowerTxReady =
          true from hready)
        .pending env.later
      have hflags {base : CryptoLayer} (hbase : (CryptoLayer.transmitSessionAuth ctx
          (CryptoLayer.log { layer.base with pending := session, statistics := stats' } initialized)
          .pending env.later).2 = base) (initiator : InitiatorState) :
          (⟨base, initiator⟩ : Layer).control entering = { layer.control entering with
            initiator := initiator
            pending := base.pending.valid } := by
        rw [hbase] at hsent
        obtain ⟨nonce, hactive⟩ := hsent.untouched.active
        simp only [control, hsent.isOpen, hactive]
        rfl
      split
      · rename_i base hbase
        rw [hflags (congrArg Prod.snd hbase)]
        exact .beginFailed handshake' base.pending.valid env.later hwait
      · rename_i base hbase
        rw [hflags (congrArg Prod.snd hbase)]
        exact .begun handshake' base.pending.valid env.later hwait
    · simp only [InitiatorState.cancelResponseAndRetryTimer, heq, Bool.not_false, if_true]
      exact .beginFailed handshake' layer.base.pending.valid env.later hwait
  · rw [if_pos hwait]
    exact .rest _ id

theorem onErrorMessage_reacts (env : Env) (hnested : entering ≠ 0 → nested) :
    Reacts config nested (layer.control entering)
      ((layer.onErrorMessage config env).control entering) := by
  unfold onErrorMessage
  split
  · rename_i hwait
    exact .beginFailed layer.initiator.handshake layer.base.pending.valid env.later hwait
  · rename_i hwait
    exact .authFailed env.later hwait hnested
  · exact .rest _ id

theorem count_accepted (base : CryptoLayer) (payload : Bytes) :
    (base.openUpper.2 ++ [Task.authPayload payload, .enterIdle]).count .enterIdle = 1 := by
  have hnone : base.openUpper.2.count .enterIdle = 0 := by
    rw [List.count_eq_zero]
    intro hmem
    cases CryptoLayer.openUpper_snd hmem
  rw [List.count_append, hnone]
  simp

theorem onAuthMessage_reacts (ctx : SessionContext) (env : Env) (msg : SessionData)
    (hnested : entering ≠ 0 → nested) :
    Reacts config nested (layer.control entering)
      ((layer.onAuthMessage ctx config env msg).1.control
        (entering + (layer.onAuthMessage ctx config env msg).2.count .enterIdle)) := by
  unfold onAuthMessage
  split_ifs with hwait
  · exact .rest _ id
  · have hwait' := not_not.mp hwait
    obtain ⟨trace, htrace⟩ := logVerified_eq ctx layer.base.pending msg layer.base
    rcases Session.validateSessionAuth_cases ctx layer.base.pending
      (layer.base.logVerified ctx layer.base.pending msg).statistics msg env.now with
      ⟨payload, stats', haccepts, heq⟩ | ⟨e, stats', heq⟩
    · simp only [heq]
      rw [count_accepted, htrace, CryptoLayer.openUpper_fst]
      have hresult := @Reacts.accepted config nested (layer.control entering)
        (layer.base.pending.parameters.sessionStart +
          milliseconds config.params.sessionTimeRenegotiationTriggerMs) hwait' haccepts.valid
      simpa only [control, CryptoLayer.activatePending, CryptoLayer.log, Session.reset,
        haccepts.valid] using hresult
    · simp only [heq]
      rw [htrace]
      exact .authFailed env.later hwait' hnested

theorem notifyRxReady_flags (base : CryptoLayer) :
    SameFlags base base.notifyRxReady.1 ∧ base.notifyRxReady.2.count .enterIdle = 0 := by
  unfold CryptoLayer.notifyRxReady
  split_ifs
  · exact ⟨⟨rfl, rfl, rfl⟩, by simp⟩
  · exact ⟨⟨rfl, rfl, rfl⟩, rfl⟩

theorem onSessionData_reacts (hrole : cfg.role = .initiator config) (env : Env)
    (msg : SessionData) :
    Reacts config nested (layer.control entering)
      ((layer.onSessionData cfg env msg).1.control
        (entering + (layer.onSessionData cfg env msg).2.count .enterIdle)) := by
  unfold onSessionData
  obtain ⟨trace, htrace⟩ := logVerified_eq cfg.ctx layer.base.active msg layer.base
  rcases Session.validateSessionData_cases cfg.ctx layer.base.active
    (layer.base.logVerified cfg.ctx layer.base.active msg).statistics msg env.now with
    ⟨payload, stats', -, haccepts, heq⟩ | ⟨stats', -, heq⟩ | ⟨e, stats', heq⟩
  · simp only [heq]
    rw [htrace]
    generalize hplaced : CryptoLayer.placePayload _ payload = placed
    have hflags : SameFlags layer.base placed := by
      rw [← hplaced]
      exact ⟨rfl, rfl, rfl⟩
    obtain ⟨hnotified, hcount⟩ := notifyRxReady_flags
      (onSessionNonceChange cfg env ⟨placed, layer.initiator⟩).base
    have hchange := @onSessionNonceChange_reacts cfg config nested entering placed layer.initiator
      hrole env (hflags.active.trans haccepts.valid)
    rw [control_eq hflags layer.initiator] at hchange
    have hsame : (⟨(onSessionNonceChange cfg env ⟨placed, layer.initiator⟩).base.notifyRxReady.1,
        (onSessionNonceChange cfg env ⟨placed, layer.initiator⟩).initiator⟩ :
          Layer).control entering =
          (onSessionNonceChange cfg env ⟨placed, layer.initiator⟩).control entering :=
      control_eq hnotified _ entering
    rw [hcount, Nat.add_zero, hsame]
    exact hchange
  · simp only [heq]
    rw [htrace]
    exact .rest _ id
  · simp only [heq]
    rw [htrace]
    exact .rest _ id

end Initiator

end Layer

/-- An initiator takes the message for an answer to its own auth message: an error, or a
session message with the first nonce. -/
def isAnswer (message : Bytes) : Bool :=
  match message with
  | [] => false
  | rawFunction :: _ =>
      match Function.spec.fromType rawFunction with
      | some .replyHandshakeError => (ReplyHandshakeError.read message).toOption.isSome
      | some .sessionData =>
          (SessionData.read message).toOption.any (fun msg => msg.metadata.nonce = 0)
      | _ => false

namespace Layer

section Initiator

variable {cfg : Config} {config : InitiatorConfig} {nested : Prop} {layer : Layer} {entering : Nat}
  {base : CryptoLayer} {initiator : InitiatorState}

theorem process_reacts (hrole : cfg.role = .initiator config)
    (hready : layer.base.lowerTxReady = true) (env : Env) (message : Bytes)
    (hnested : isAnswer message = true → entering ≠ 0 → nested) :
    Reacts config nested (layer.control entering)
      ((layer.process cfg env message).1.control
        (entering + (layer.process cfg env message).2.count .enterIdle)) := by
  have hrest : Reacts config nested (layer.control entering) (layer.control entering) :=
    .rest _ id
  unfold process
  cases message with
  | nil => exact hrest
  | cons rawFunction rest =>
      dsimp only
      simp only [isAnswer] at hnested
      rw [hrole]
      rcases hfunction : Function.spec.fromType rawFunction with _ | function
      · exact hrest
      rw [hfunction] at hnested
      cases function with
      | requestHandshakeBegin => exact hrest
      | replyHandshakeBegin =>
          dsimp only
          cases ReplyHandshakeBegin.read (rawFunction :: rest) with
          | error e => exact hrest
          | ok msg =>
              dsimp only
              exact onReplyMessage_reacts cfg.ctx hready env msg _
      | replyHandshakeError =>
          dsimp only
          cases hmsg : ReplyHandshakeError.read (rawFunction :: rest) with
          | error e => exact hrest
          | ok msg =>
              dsimp only
              exact onErrorMessage_reacts env (hnested (by rw [hmsg]; rfl))
      | sessionData =>
          dsimp only
          cases hmsg : SessionData.read (rawFunction :: rest) with
          | error e => exact hrest
          | ok msg =>
              dsimp only
              unfold onSessionMessage
              split_ifs with hnonce
              · rw [hrole]
                refine onAuthMessage_reacts cfg.ctx env msg (hnested ?_)
                simp [hmsg, Except.toOption, hnonce]
              · exact onSessionData_reacts hrole env msg

theorem tryReadFromLower_reacts (hrole : cfg.role = .initiator config) (env : Env)
    (hnested : layer.base.canRead → ∀ message ∈ layer.base.lowerRx.head?, isAnswer message = true →
      entering ≠ 0 → nested) :
    Reacts config nested (layer.control entering)
      ((layer.tryReadFromLower cfg env).1.control
        (entering + (layer.tryReadFromLower cfg env).2.count .enterIdle)) := by
  unfold tryReadFromLower
  split_ifs with hguard
  · exact .rest _ id
  · have hread := CryptoLayer.canRead_of_guard hguard
    split
    · exact .rest _ id
    · rename_i message messages hrx
      split_ifs
      · exact .rest _ id
      · have hprocess := @process_reacts cfg config nested
          { layer with base := { layer.base with lowerRx := messages } } entering hrole hread.1 env
          message (hnested hread message (by rw [hrx]; rfl))
        rw [List.count_append]
        exact hprocess

theorem checkTransmit_reacts (hrole : cfg.role = .initiator config) (env : Env) :
    Reacts config nested (layer.control entering)
      ((layer.checkTransmit cfg env).1.control
        (entering + (layer.checkTransmit cfg env).2.count .enterIdle)) := by
  unfold checkTransmit
  split_ifs with hguard
  · exact .rest _ id
  · obtain ⟨hvalid, hready⟩ := CryptoLayer.ready_of_canTransmit (by simpa using hguard)
    rcases Session.formatSessionData_cases cfg.ctx layer.base.active env.now
      layer.base.txState.remainder with ⟨rest, formatted, -, -, heq⟩ | ⟨rest, e, heq⟩
    · simp only [heq]
      rw [CryptoLayer.lowerStartTx_ready (by exact hready)]
      exact @onSessionNonceChange_reacts cfg config nested entering
        (layer.base.sentSession .active rest formatted) layer.initiator hrole env hvalid
    · simp only [heq]
      have hcount (base : CryptoLayer) : base.closeUpper.2.count .enterIdle = 0 := by
        rw [List.count_eq_zero]
        intro hmem
        cases CryptoLayer.closeUpper_snd hmem
      rw [hcount, CryptoLayer.closeUpper_fst]
      exact .rest (layer.control entering) (by rintro ⟨⟩)

theorem onLowerOpen_reacts (hrole : cfg.role = .initiator config) (env : Env) (ready : Bool) :
    Reacts config nested (layer.control 0) ((layer.onLowerOpen cfg env ready).control 0) := by
  unfold onLowerOpen
  split_ifs with hopen
  · exact .rest _ id
  · rw [hrole]
    obtain ⟨hrequired, hflags⟩ := @onHandshakeRequired_required config
      { layer.base with isOpen := true, lowerTxReady := ready } layer.initiator cfg.ctx env env.now
    dsimp only
    rw [control_eq hflags layer.initiator]
    exact .opened (Bool.eq_false_iff.mpr hopen) rfl hrequired

theorem onLowerClose_reacts (hrole : cfg.role = .initiator config) (ready : Bool) :
    Reacts config nested (layer.control 0) ((layer.onLowerClose cfg ready).1.control
      ((layer.onLowerClose cfg ready).2.count .enterIdle)) := by
  unfold onLowerClose
  split_ifs with hguard
  · exact .rest _ id
  · rw [hrole]
    dsimp only
    have hnone : ∀ base : CryptoLayer,
        (base.closeUpper.2 ++ [Task.afterClose]).count .enterIdle = 0 := by
      intro base
      rw [List.count_eq_zero]
      intro hmem
      rcases List.mem_append.mp hmem with hmem | hmem
      · cases CryptoLayer.closeUpper_snd hmem
      · cases List.mem_singleton.mp hmem
    rw [hnone, CryptoLayer.closeUpper_fst]
    have hopen : layer.base.isOpen = true := by simpa using hguard
    exact .closed (c := layer.control 0) hopen rfl

theorem onLowerTxReady_reacts (hrole : cfg.role = .initiator config) (env : Env) :
    Reacts config nested (layer.control 0) ((layer.onLowerTxReady cfg env).1.control
      ((layer.onLowerTxReady cfg env).2.count .enterIdle)) := by
  have hpre : Reacts config nested (layer.control 0)
      ((onPreTxReady cfg env { layer with base := layer.base.complete }).control 0) := by
    unfold onPreTxReady
    rw [hrole]
    dsimp only
    split_ifs with hdue
    · obtain ⟨hrequired, hflags⟩ := @onHandshakeRequired_required config layer.base.complete
        layer.initiator cfg.ctx env env.now
      rw [control_eq hflags layer.initiator]
      exact .preTxReady rfl hdue hrequired
    · exact .rest _ id
  unfold onLowerTxReady
  dsimp only
  split_ifs
  · exact .rest _ id
  · unfold CryptoLayer.notifyTxReady
    split_ifs
    · exact hpre
    · exact hpre
  · exact hpre

theorem onTimer_reacts (hrole : cfg.role = .initiator config) (env : Env) {timer : Timer}
    (hmem : timer ∈ layer.initiator.timers) :
    Reacts config nested (layer.control 0) ((layer.onTimer cfg env timer).control 0) := by
  have hrequires (state : InitiatorState) := @onHandshakeRequired_required config layer.base state
    cfg.ctx env env.now
  unfold onTimer
  rw [hrole]
  dsimp only
  cases hkind : timer.kind with
  | response =>
      dsimp only
      split
      · rename_i hwait
        exact .responseTimeout env.now rfl hmem hkind (Or.inl hwait)
      · rename_i hwait
        exact .responseTimeout env.now rfl hmem hkind (Or.inr hwait)
      · rename_i hbegin hauth
        exact .strayResponseTimeout rfl hmem hkind ⟨hbegin, hauth⟩
  | retry =>
      dsimp only
      split
      · rename_i hwait
        obtain ⟨hrequired, hflags⟩ := hrequires
          { layer.initiator.fired timer with handshakeState := .idle }
        have heq := control_eq hflags layer.initiator 0
        refine heq ▸ ?_
        exact .retryTimeout rfl hmem hkind hwait hrequired
      · rename_i hwait
        obtain ⟨hrequired, hflags⟩ := hrequires (layer.initiator.fired timer)
        refine control_eq hflags layer.initiator 0 ▸ ?_
        exact .strayRetryTimeout rfl hmem hkind hwait hrequired
  | session =>
      obtain ⟨hrequired, hflags⟩ := hrequires (layer.initiator.fired timer)
      refine control_eq hflags layer.initiator 0 ▸ ?_
      exact .sessionTimeout rfl hmem hkind hrequired

end Initiator

end Layer

namespace Machine

def control (machine : Machine) : Control :=
  machine.layer.control (machine.stack.count .enterIdle)

/-- The step reads an answer while an accepted auth message is being handled. -/
def ReadsNestedAnswer (machine : Machine) : Label → Prop
  | .run _ => machine.stack.head? = some .tryReadFromLower ∧ .enterIdle ∈ machine.stack ∧
      machine.layer.base.canRead ∧ machine.layer.base.lowerRx.head?.any isAnswer = true
  | _ => False

instance (machine : Machine) (label : Label) : Decidable (machine.ReadsNestedAnswer label) :=
  match label with
  | .run _ => inferInstanceAs (Decidable (_ ∧ _ ∧ _ ∧ _))
  | .receive _ | .lowerOpen _ _ | .lowerClose _ | .lowerTxReady _ | .lowerRxReady | .timer _ _
  | .startRx | .startTx _ | .ret => isFalse nofun

theorem step_reacts {cfg : Config} {config : InitiatorConfig} {machine machine' : Machine}
    {label : Label} (hrole : cfg.role = .initiator config)
    (hstep : machine.step cfg label = some machine') :
    Reacts config (machine.ReadsNestedAnswer label) machine.control machine'.control := by
  cases steps_of_step hstep with
  | receive => exact .rest _ id
  | lowerOpen layer ready env => exact Layer.onLowerOpen_reacts hrole env ready
  | lowerClose layer ready => exact Layer.onLowerClose_reacts hrole ready
  | lowerTxReady layer env => exact Layer.onLowerTxReady_reacts hrole env
  | lowerRxReady layer =>
      unfold Layer.onLowerRxReady
      split_ifs <;> exact .rest _ id
  | timer env hfind => exact Layer.onTimer_reacts hrole env (List.mem_of_find?_eq_some hfind)
  | @startRx layer stack hcall =>
      unfold CryptoLayer.startRxFromUpper
      dsimp only
      split_ifs <;> exact .rest _ id
  | @startTx layer stack data hcall =>
      unfold CryptoLayer.startTxFromUpper
      split_ifs <;> exact .rest _ id
  | ret => exact .rest _ id
  | @run layer task result stack env hrun =>
      have hcount : (⟨result.1, result.2 ++ stack⟩ : Machine).control =
          result.1.control (stack.count .enterIdle + result.2.count .enterIdle) := by
        rw [control, List.count_append, Nat.add_comm]
      rw [hcount]
      cases Layer.ran_of_runTask hrun with
      | tryReadFromLower =>
          refine Layer.tryReadFromLower_reacts hrole env ?_
          intro hread message hhead hanswer hentering
          refine ⟨rfl, ?_, hread, ?_⟩
          · exact List.mem_cons_of_mem _ (List.count_pos_iff.mp (Nat.pos_of_ne_zero hentering))
          · rw [Option.mem_def.mp hhead]
            exact hanswer
      | checkTransmit => exact Layer.checkTransmit_reacts hrole env
      | noPayload => exact .rest _ id
      | @authPayload payload hne =>
          obtain ⟨hflags, hnone⟩ := Layer.notifyRxReady_flags (layer.base.placePayload payload)
          have hsame : (⟨(layer.base.placePayload payload).notifyRxReady.1, layer.initiator⟩ :
              Layer).control (stack.count .enterIdle) =
                layer.control (stack.count .enterIdle) := by
            simp only [Layer.control, hflags.isOpen, hflags.active, hflags.pending]
            rfl
          rw [hnone, Nat.add_zero, hsame]
          exact .rest _ id
      | enterIdle => exact .entered (by simp [control, Layer.control])
      | afterClose => exact .rest _ id

end Machine

end Ssp21
