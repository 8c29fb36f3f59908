import Ssp21.Crypto.Moves

/-!
# The frame buffer

A frame writer writes into one buffer, and the frame that it returns is a slice of
this buffer.  The lower layer borrows the slice from `start_tx_from_upper` until it
is ready again.  Nothing in the types keeps a second frame from being written in
between; that is up to the order of the calls.

* `Use` is a call of `write` or of `start_tx_from_upper`, or a report of the lower
  layer.  `Use.step` is the protocol of the buffer: both calls need a lower layer
  that is ready.
* The functions named `…Uses` list the uses of the functions of the layer, in their
  order.
* `Follows`: the uses follow the protocol, and lead to what the lower layer answers
  to `is_tx_ready` afterwards.  Every call of `start_tx_from_upper` that the functions
  have logged is among them, behind the write of its frame.  It is proved for each
  function, for a step and for a run.
-/

namespace Ssp21

open Wire

/-- What happens to the frame buffer. -/
inductive Use
  /-- the lower layer says whether it is ready -/
  | report (ready : Bool)
  /-- `frame_writer->write` -/
  | write
  /-- `lower->start_tx_from_upper` -/
  | start
  deriving DecidableEq, Repr

namespace Use

/-- Whether the lower layer is ready, along the uses.  A call needs that it is. -/
def step : Bool → Use → Option Bool
  | _, .report ready => some ready
  | ready, .write => if ready then some true else none
  | ready, .start => if ready then some false else none

/-- The number of frames that the lower layer has not finished with. -/
def frames (inFlight : Nat) : Use → Nat
  | .report true => 0
  | .report false => inFlight
  | .write => inFlight
  | .start => inFlight + 1

def inFlight (uses : List Use) : Nat :=
  uses.foldl frames 0

/-- A lower layer that is ready has no frame in flight, and one that is not has at most
one. -/
def Settled (ready : Bool) (inFlight : Nat) : Prop :=
  inFlight ≤ 1 ∧ (ready = true → inFlight = 0)

theorem settled_step {ready ready' : Bool} {inFlight : Nat} {use : Use}
    (hsettled : Settled ready inFlight) (hstep : step ready use = some ready') :
    Settled ready' (frames inFlight use) := by
  obtain ⟨hle, hzero⟩ := hsettled
  cases use with
  | report ready'' =>
      cases hstep
      cases ready' with
      | true => exact ⟨Nat.zero_le 1, fun _ => rfl⟩
      | false => exact ⟨hle, nofun⟩
  | write =>
      obtain ⟨hready, ⟨⟩⟩ := Option.ite_none_right_eq_some.mp hstep
      exact ⟨hle, fun _ => hzero hready⟩
  | start =>
      obtain ⟨hready, ⟨⟩⟩ := Option.ite_none_right_eq_some.mp hstep
      refine ⟨?_, nofun⟩
      have := hzero hready
      simp only [frames]
      omega

theorem settled_run {uses : List Use} {ready ready' : Bool} {inFlight : Nat}
    (hsettled : Settled ready inFlight) (hrun : Runs.run step ready uses = some ready') :
    Settled ready' (uses.foldl frames inFlight) := by
  induction uses generalizing ready inFlight with
  | nil =>
      cases hrun
      exact hsettled
  | cons use uses ih =>
      obtain ⟨next, hstep, hrest⟩ := Runs.run_cons hrun
      exact ih (settled_step hsettled hstep) hrest

/-- A call that follows the protocol is made while the lower layer is ready. -/
theorem ready_of_call {ready ready' : Bool} {use : Use} (hcall : use = .write ∨ use = .start)
    (hstep : step ready use = some ready') : ready = true := by
  rcases hcall with rfl | rfl
  · exact (Option.ite_none_right_eq_some.mp hstep).1
  · exact (Option.ite_none_right_eq_some.mp hstep).1

/-- Every frame is written right before it is handed to the lower layer. -/
def paired : List Use → Bool
  | [] => true
  | .write :: .start :: uses => paired uses
  | .start :: _ => false
  | _ :: uses => paired uses

theorem paired_append {uses uses' : List Use} (hpaired : paired uses = true)
    (hpaired' : paired uses' = true) : paired (uses ++ uses') = true := by
  fun_induction paired uses with
  | case1 => exact hpaired'
  | case2 uses ih => exact ih hpaired
  | case3 => cases hpaired
  | case4 use uses hpair hstart ih =>
      have hrest := ih hpaired
      cases use with
      | report ready => exact hrest
      | start => exact absurd rfl hstart
      | write =>
          -- what stands behind the write is no start
          rw [List.cons_append]
          cases huses : uses ++ uses' with
          | nil => rfl
          | cons next more =>
              rw [huses] at hrest
              cases next with
              | start => cases hrest
              | write => exact hrest
              | report ready => exact hrest

end Use

/-- The lower layer is handed a frame, which it takes or refuses. -/
def Observation.handsOver : Observation → Bool
  | .transmit _ | .refused _ => true
  | _ => false

namespace CryptoLayer

/-- How often the lower layer has been handed a frame. -/
def started (base : CryptoLayer) : Nat := base.trace.countP Observation.handsOver

theorem started_log (base : CryptoLayer) (o : Observation) :
    (base.log o).started = base.started + if o.handsOver then 1 else 0 := by
  simp [started, log, List.countP_append, List.countP_cons]

theorem started_sent (base : CryptoLayer) (transmission : Transmission) :
    (base.sent transmission).started = base.started + 1 :=
  started_log _ _

end CryptoLayer

namespace Layer

/-- A message that cannot be formatted counts as written, although some of the checks
come before the writer. -/
def formatUses {ε α : Type} : Except ε α → List Use
  | .error _ => [.write]
  | .ok _ => [.write, .start]

def onHandshakeRequiredUses (ctx : SessionContext) (config : InitiatorConfig) (env : Env)
    (layer : Layer) : List Use :=
  match layer.initiator.handshakeState with
  | .idle =>
      if !layer.base.lowerTxReady then []
      else
        match layer.initiator.handshake.initializeNewHandshake ctx.backend config.mode env.random
            env.keyRecord with
        | (none, _) => []
        | (some init, _) =>
            formatUses (ctx.frameWriter.write
              (InitiatorHandshake.request config.mode config.sessionLimits init).write)
  | _ => []

def onSessionNonceChangeUses (cfg : Config) (env : Env) (layer : Layer) : List Use :=
  match cfg.role with
  | .responder _ => []
  | .initiator config =>
      if max layer.base.active.txNonce layer.base.active.rxNonce ≥
          config.params.nonceRenegotiationTriggerValue then
        onHandshakeRequiredUses cfg.ctx config env
          { layer with initiator := layer.initiator.cancelSessionTimeoutTimer }
      else []

def transmitSessionAuthUses (ctx : SessionContext) (base : CryptoLayer) (slot : Slot) (now : Time) :
    List Use :=
  formatUses ((base.session slot).formatSessionAuth ctx now base.txState.remainder).result

def onReplyMessageUses (ctx : SessionContext) (config : InitiatorConfig) (env : Env) (layer : Layer)
    (msg : ReplyHandshakeBegin) (rawData : Bytes) : List Use :=
  if layer.initiator.handshakeState ≠ .waitForBeginReply then []
  else
    let outcome := InitiatorHandshake.initializeSession ctx.backend config.mode
      layer.initiator.handshake msg rawData config.sessionLimits env.now layer.base.pending
      layer.base.statistics
    if !outcome.success then []
    else
      transmitSessionAuthUses ctx
        { layer.base with pending := outcome.session, statistics := outcome.stats }
        .pending env.later

def replyWithHandshakeErrorUses (ctx : SessionContext) (error : HandshakeError) : List Use :=
  formatUses (ctx.frameWriter.write (ReplyHandshakeError.mk Version.get error).write)

/-- A reply that is refused may have been written before. -/
def onRequestUses (ctx : SessionContext) (mode : ResponderMode) (env : Env) (layer : Layer)
    (msg : RequestHandshakeBegin) (rawMsg : Bytes) : List Use :=
  if msg.version.majorVersion ≠ Version.get.majorVersion then
    replyWithHandshakeErrorUses ctx .unsupportedVersion
  else
    match (mode.process ctx.backend ctx.frameWriter msg rawMsg env.now env.random env.findKey
        layer.base.pending layer.base.statistics).result with
    | .error e => .write :: replyWithHandshakeErrorUses ctx e
    | .ok _ => [.write, .start]

def onAuthSessionUses (ctx : SessionContext) (env : Env) (layer : Layer) (msg : SessionData) :
    List Use :=
  if !layer.base.pending.valid then replyWithHandshakeErrorUses ctx .noPriorHandshakeBegin
  else
    match layer.base.pending.validateSessionAuth ctx layer.base.statistics msg env.now with
    | (.error _, _, _) => []
    | (.ok _, pending, _) =>
        transmitSessionAuthUses ctx { layer.base with active := pending } .active env.later

def onSessionDataUses (cfg : Config) (env : Env) (layer : Layer) (msg : SessionData) : List Use :=
  match layer.base.active.validateSessionData cfg.ctx layer.base.statistics msg env.now with
  | (.error _, _, _) => []
  | (.ok _, active, _) =>
      onSessionNonceChangeUses cfg env { layer with base := { layer.base with active := active } }

def processUses (cfg : Config) (env : Env) (layer : Layer) (message : Bytes) : List Use :=
  match message with
  | [] => []
  | rawFunction :: _ =>
      match Function.spec.fromType rawFunction, cfg.role with
      | some .replyHandshakeBegin, .initiator config =>
          match ReplyHandshakeBegin.read message with
          | .error _ => []
          | .ok msg => onReplyMessageUses cfg.ctx config env layer msg message
      | some .requestHandshakeBegin, .responder mode =>
          match RequestHandshakeBegin.read message with
          | .error _ => replyWithHandshakeErrorUses cfg.ctx .badMessageFormat
          | .ok msg => onRequestUses cfg.ctx mode env layer msg message
      | some .sessionData, role =>
          match SessionData.read message with
          | .error _ => []
          | .ok msg =>
              if msg.metadata.nonce = 0 then
                match role with
                | .initiator _ => []
                | .responder _ => onAuthSessionUses cfg.ctx env layer msg
              else onSessionDataUses cfg env layer msg
      | _, _ => []

def tryReadFromLowerUses (cfg : Config) (env : Env) (layer : Layer) : List Use :=
  if !layer.base.lowerTxReady || !layer.base.payloadData.isEmpty then []
  else
    match layer.base.lowerRx with
    | [] => []
    | message :: _ => processUses cfg env layer message

def checkTransmitUses (cfg : Config) (env : Env) (layer : Layer) : List Use :=
  if !layer.base.canTransmitSessionData then []
  else
    let outcome := layer.base.active.formatSessionData cfg.ctx env.now layer.base.txState.remainder
    match outcome.result with
    | .error _ => [.write]
    | .ok _ =>
        .write :: .start :: onSessionNonceChangeUses cfg env { layer with base := { layer.base with
          active := outcome.session, lowerTxReady := false } }

def onPreTxReadyUses (cfg : Config) (env : Env) (layer : Layer) : List Use :=
  match cfg.role with
  | .initiator config =>
      if layer.initiator.handshakeRequired then onHandshakeRequiredUses cfg.ctx config env layer
      else []
  | .responder _ => []

def onTimerUses (cfg : Config) (env : Env) (layer : Layer) (timer : Timer) : List Use :=
  let layer := { layer with initiator := { layer.initiator with
    timers := layer.initiator.timers.filter (fun other => other.id ≠ timer.id) } }
  match cfg.role with
  | .responder _ => []
  | .initiator config =>
      match timer.kind with
      | .response => []
      | .retry =>
          let layer :=
            match layer.initiator.handshakeState with
            | .waitForRetry =>
                { layer with initiator := { layer.initiator with handshakeState := .idle } }
            | _ => layer
          onHandshakeRequiredUses cfg.ctx config env layer
      | .session => onHandshakeRequiredUses cfg.ctx config env layer

def runTaskUses (cfg : Config) (env : Env) (layer : Layer) : Task → List Use
  | .tryReadFromLower => tryReadFromLowerUses cfg env layer
  | .checkTransmit => checkTransmitUses cfg env layer
  | _ => []

end Layer

namespace Machine

/-- The uses of a step.  The lower layer reports when it opens or closes the layer, and
when it has finished with a frame. -/
def uses (cfg : Config) (machine : Machine) : Label → List Use
  | .lowerOpen ready env =>
      if machine.layer.base.isOpen then []
      else
        .report ready ::
          match cfg.role with
          | .initiator config =>
              Layer.onHandshakeRequiredUses cfg.ctx config env { machine.layer with
                base := { machine.layer.base with lowerTxReady := ready } }
          | .responder _ => []
  | .lowerClose ready => if machine.layer.base.isOpen then [.report ready] else []
  | .lowerTxReady env =>
      .report true ::
        if machine.layer.base.isOpen then
          Layer.onPreTxReadyUses cfg env { machine.layer with
            base := { machine.layer.base with lowerTxReady := true } }
        else []
  | .timer id env =>
      match machine.layer.initiator.timers.find? (fun timer => timer.id = id) with
      | none => []
      | some timer => machine.layer.onTimerUses cfg env timer
  | .run env =>
      match machine.stack with
      | [] => []
      | task :: _ => machine.layer.runTaskUses cfg env task
  | _ => []

/-- The uses of a run. -/
def usesAlong (cfg : Config) (machine : Machine) : List Label → List Use
  | [] => []
  | label :: labels =>
      machine.uses cfg label ++
        match machine.step cfg label with
        | none => []
        | some next => usesAlong cfg next labels

end Machine

/-! ## The protocol is followed -/

/-- The uses follow the protocol, and lead from one answer of the lower layer to the
next.  They are in step with the frames that the layer has handed down. -/
def Follows (base : CryptoLayer) (uses : List Use) (base' : CryptoLayer) : Prop :=
  Runs.run Use.step base.lowerTxReady uses = some base'.lowerTxReady ∧
    base'.started = base.started + uses.count .start ∧ Use.paired uses = true

namespace Follows

variable {base base' base'' : CryptoLayer} {uses uses' : List Use}

theorem nil (hsame : base'.lowerTxReady = base.lowerTxReady)
    (hsilent : base'.started = base.started) : Follows base [] base' :=
  ⟨by simp [Runs.run, hsame], hsilent, rfl⟩

theorem append (h : Follows base uses base') (h' : Follows base' uses' base'') :
    Follows base (uses ++ uses') base'' := by
  obtain ⟨hprotocol, hstarts, hpaired⟩ := h
  obtain ⟨hprotocol', hstarts', hpaired'⟩ := h'
  refine ⟨Runs.run_append hprotocol hprotocol', ?_, Use.paired_append hpaired hpaired'⟩
  rw [hstarts', hstarts, List.count_append, Nat.add_assoc]

theorem write (hready : base.lowerTxReady = true) (hsame : base'.lowerTxReady = true)
    (hsilent : base'.started = base.started) : Follows base [.write] base' :=
  ⟨by simp [Runs.run, Use.step, hready, hsame], hsilent, rfl⟩

theorem send (hready : base.lowerTxReady = true) (hbusy : base'.lowerTxReady = false)
    (hstarted : base'.started = base.started + 1) : Follows base [.write, .start] base' :=
  ⟨by simp [Runs.run, Use.step, hready, hbusy], hstarted, rfl⟩

theorem report {ready : Bool} (hready : base'.lowerTxReady = ready)
    (hsilent : base'.started = base.started) : Follows base [.report ready] base' :=
  ⟨by simp [Runs.run, Use.step, hready], hsilent, rfl⟩

/-- Changes that the lower layer does not see, behind the uses and before them. -/
theorem keep (h : Follows base uses base') (h' : Follows base' [] base'') :
    Follows base uses base'' := by
  simpa using h.append h'

theorem after (h : Follows base [] base') (h' : Follows base' uses base'') :
    Follows base uses base'' :=
  h.append h'

theorem log {o : Observation} (hready : base'.lowerTxReady = base.lowerTxReady)
    (htrace : base'.trace = base.trace) (hsilent : o.handsOver = false) :
    Follows base [] (base'.log o) := by
  refine .nil hready ?_
  rw [CryptoLayer.started_log, hsilent, CryptoLayer.started, htrace]
  rfl

theorem activatePending (base : CryptoLayer) : Follows base [] base.activatePending :=
  .log rfl rfl rfl

theorem placePayload (base : CryptoLayer) (payload : Bytes) :
    Follows base [] (base.placePayload payload) :=
  .log rfl rfl rfl

theorem openUpper (base : CryptoLayer) : Follows base [] base.openUpper.1 := by
  unfold CryptoLayer.openUpper
  split_ifs
  · exact .nil rfl rfl
  · exact .log rfl rfl rfl

theorem closeUpper (base : CryptoLayer) : Follows base [] base.closeUpper.1 := by
  unfold CryptoLayer.closeUpper
  split_ifs
  · exact .log rfl rfl rfl
  · exact .nil rfl rfl

theorem notifyRxReady (base : CryptoLayer) : Follows base [] base.notifyRxReady.1 := by
  unfold CryptoLayer.notifyRxReady
  split_ifs
  · exact .log rfl rfl rfl
  · exact .nil rfl rfl

theorem notifyTxReady (base : CryptoLayer) : Follows base [] base.notifyTxReady.1 := by
  unfold CryptoLayer.notifyTxReady
  split_ifs
  · exact .log rfl rfl rfl
  · exact .nil rfl rfl

theorem logVerified (ctx : SessionContext) (session : Session) (msg : SessionData)
    (base : CryptoLayer) : Follows base [] (base.logVerified ctx session msg) := by
  unfold CryptoLayer.logVerified
  split
  · exact .log rfl rfl rfl
  · exact .nil rfl rfl

end Follows

namespace Layer

variable {cfg : Config} {ctx : SessionContext} {config : InitiatorConfig}

theorem onHandshakeRequired_follows {base : CryptoLayer} {initiator : InitiatorState} (env : Env)
    (now : Time) :
    Follows base (onHandshakeRequiredUses ctx config env ⟨base, initiator⟩)
      (onHandshakeRequired ctx config env now ⟨base, initiator⟩).base := by
  unfold onHandshakeRequired onHandshakeRequiredUses
  cases hstate : initiator.handshakeState with
  | idle =>
      dsimp only
      by_cases hready : base.lowerTxReady = true
      · rw [if_neg (by simp [hready]), if_neg (by simp [hready])]
        rcases hinit : initiator.handshake.initializeNewHandshake ctx.backend config.mode env.random
          env.keyRecord with ⟨init, handshake⟩
        cases init with
        | none => exact .nil rfl rfl
        | some init =>
            dsimp only
            cases hwrite : ctx.frameWriter.write
              (InitiatorHandshake.request config.mode config.sessionLimits init).write with
            | error e => exact (Follows.write hready hready rfl).keep (.log rfl rfl rfl)
            | ok result =>
                dsimp only
                rw [CryptoLayer.lowerStartTx_ready (by exact hready)]
                exact (Follows.log rfl rfl rfl).after
                  (.send (by exact hready) rfl (CryptoLayer.started_sent _ _))
      · rw [if_pos (by simpa using hready), if_pos (by simpa using hready)]
        exact .nil rfl rfl
  | _ => exact .nil rfl rfl

theorem onSessionNonceChange_follows (env : Env) (layer : Layer) :
    Follows layer.base (layer.onSessionNonceChangeUses cfg env)
      (layer.onSessionNonceChange cfg env).base := by
  unfold onSessionNonceChange onSessionNonceChangeUses
  cases cfg.role with
  | responder mode => exact .nil rfl rfl
  | initiator config =>
      dsimp only
      split_ifs
      · exact onHandshakeRequired_follows env env.later
      · exact .nil rfl rfl

theorem transmitSessionAuth_follows (ctx : SessionContext) {base : CryptoLayer}
    (hready : base.lowerTxReady = true) (slot : Slot) (now : Time) :
    Follows base (transmitSessionAuthUses ctx base slot now)
      (base.transmitSessionAuth ctx slot now).2 := by
  unfold transmitSessionAuthUses
  rcases CryptoLayer.transmitSessionAuth_cases ctx hready slot now with
    ⟨rest, formatted, hnonce, hformats, heq⟩ | ⟨e, herror, heq⟩
  · cases hresult : ((base.session slot).formatSessionAuth ctx now
      base.txState.remainder).result with
    | error e =>
        simp only [CryptoLayer.transmitSessionAuth, hresult] at heq
        cases heq
    | ok result =>
        rw [heq]
        refine .send hready rfl ((CryptoLayer.started_sent _ _).trans ?_)
        cases slot <;> rfl
  · rw [heq, herror]
    exact (Follows.write hready hready rfl).keep (.log rfl rfl rfl)

theorem replyWithHandshakeError_follows {layer : Layer} (hready : layer.base.lowerTxReady = true)
    (error : HandshakeError) :
    Follows layer.base (replyWithHandshakeErrorUses ctx error)
      (layer.replyWithHandshakeError ctx error).base := by
  unfold replyWithHandshakeError replyWithHandshakeErrorUses
  cases ctx.frameWriter.write (ReplyHandshakeError.mk Version.get error).write with
  | error e => exact .write hready hready rfl
  | ok result =>
      dsimp only
      rw [CryptoLayer.lowerStartTx_ready hready]
      exact .send hready rfl (CryptoLayer.started_sent _ _)

theorem onReplyMessage_follows {layer : Layer} (hready : layer.base.lowerTxReady = true)
    (env : Env) (msg : ReplyHandshakeBegin) (rawData : Bytes) :
    Follows layer.base (layer.onReplyMessageUses ctx config env msg rawData)
      (layer.onReplyMessage ctx config env msg rawData).base := by
  unfold onReplyMessage onReplyMessageUses
  split_ifs with hstate
  · exact .nil rfl rfl
  · simp only [InitiatorState.cancelResponseAndRetryTimer]
    rcases InitiatorHandshake.initializeSession_cases ctx.backend config.mode
      layer.initiator.handshake msg rawData config.sessionLimits env.now layer.base.pending
      layer.base.statistics with
      ⟨ikm, handshake', stats', -, -, -, heq⟩ | ⟨handshake', heq⟩
    · simp only [heq, Bool.not_true, Bool.false_eq_true, if_false]
      generalize InitiatorHandshake.derived _ _ _ _ _ _ _ = session
      generalize hinitialized : Observation.initialized _ = initialized
      generalize hderived : CryptoLayer.log _ initialized = derived
      have hlogged : Follows layer.base [] derived := by
        rw [← hderived, ← hinitialized]
        exact .log rfl rfl rfl
      have hready' : derived.lowerTxReady = true := by
        rw [← hderived]
        exact hready
      have huses : transmitSessionAuthUses ctx
        { layer.base with pending := session, statistics := stats' }
          .pending env.later = transmitSessionAuthUses ctx derived .pending env.later := by
        rw [← hderived]
        rfl
      have hsent := hlogged.after (transmitSessionAuth_follows ctx hready' .pending env.later)
      rw [huses]
      split
      · rename_i base hbase
        rw [hbase] at hsent
        exact hsent
      · rename_i base hbase
        rw [hbase] at hsent
        exact hsent
    · simp only [heq, Bool.not_false, if_true]
      exact .nil rfl rfl

theorem onRequest_follows {layer : Layer} (hready : layer.base.lowerTxReady = true)
    (mode : ResponderMode) (env : Env) (msg : RequestHandshakeBegin) (rawMsg : Bytes) :
    Follows layer.base (layer.onRequestUses ctx mode env msg rawMsg)
      (layer.onRequest ctx mode env msg rawMsg).base := by
  unfold onRequest onRequestUses
  split_ifs with hversion
  · exact replyWithHandshakeError_follows hready _
  · dsimp only
    generalize ResponderMode.process _ _ _ _ _ _ _ _ _ _ = outcome
    cases outcome.result with
    | error e =>
        -- the error is written over the reply, before anything is transmitted
        have hwritten : Follows layer.base [.write] layer.base := .write hready hready rfl
        exact hwritten.append (@replyWithHandshakeError_follows ctx
          { layer with base := { layer.base
          with pending := outcome.session, statistics := outcome.stats } } hready e)
    | ok result =>
        dsimp only
        split_ifs
        · rw [CryptoLayer.lowerStartTx_ready (by exact hready)]
          exact ((Follows.log rfl rfl rfl).keep (.log rfl rfl rfl)).after
            (.send (by exact hready) rfl (CryptoLayer.started_sent _ _))
        · rw [CryptoLayer.lowerStartTx_ready (by exact hready)]
          exact (Follows.log rfl rfl rfl).after
            (.send (by exact hready) rfl (CryptoLayer.started_sent _ _))

theorem onAuthMessage_follows {layer : Layer} (env : Env) (msg : SessionData) :
    Follows layer.base [] (layer.onAuthMessage ctx config env msg).1.base := by
  have hverified := Follows.logVerified ctx layer.base.pending msg layer.base
  unfold onAuthMessage
  split_ifs
  · exact .nil rfl rfl
  · dsimp only
    generalize layer.base.logVerified ctx layer.base.pending msg = verified at hverified ⊢
    split
    · exact hverified
    · refine .keep (.keep ?_ (.activatePending _)) (.openUpper _)
      exact hverified.keep (.log rfl rfl rfl)

theorem onAuthSession_follows {layer : Layer} (hready : layer.base.lowerTxReady = true) (env : Env)
    (msg : SessionData) :
    Follows layer.base (layer.onAuthSessionUses ctx env msg)
      (layer.onAuthSession ctx env msg).1.base := by
  unfold onAuthSession onAuthSessionUses
  obtain ⟨trace, htrace⟩ := logVerified_eq ctx layer.base.pending msg layer.base
  have hverified := Follows.logVerified ctx layer.base.pending msg layer.base
  dsimp only
  rw [htrace] at hverified ⊢
  split_ifs
  · exact replyWithHandshakeError_follows hready _
  · dsimp only
    rcases layer.base.pending.validateSessionAuth ctx layer.base.statistics msg env.now with
      ⟨result, pending, stats⟩
    cases result with
    | error e => exact hverified
    | ok payload =>
        dsimp only
        generalize hactivated : CryptoLayer.activatePending _ = activated
        have huses : transmitSessionAuthUses ctx { layer.base with active := pending } .active
            env.later = transmitSessionAuthUses ctx activated .active env.later := by
          rw [← hactivated]
          rfl
        have hsilent : Follows layer.base [] activated := by
          rw [← hactivated]
          refine .keep ?_ (.activatePending _)
          exact hverified.keep (.log rfl rfl rfl)
        have hready' : activated.lowerTxReady = true := by
          rw [← hactivated]
          exact hready
        have hsent := hsilent.after (transmitSessionAuth_follows ctx hready' .active env.later)
        rw [huses]
        split
        · rename_i base hbase
          rw [hbase] at hsent
          exact hsent
        · rename_i base hbase
          rw [hbase] at hsent
          exact hsent.keep (.openUpper base)

theorem onSessionData_follows {layer : Layer} (env : Env) (msg : SessionData) :
    Follows layer.base (layer.onSessionDataUses cfg env msg)
      (layer.onSessionData cfg env msg).1.base := by
  unfold onSessionData onSessionDataUses
  obtain ⟨trace, htrace⟩ := logVerified_eq cfg.ctx layer.base.active msg layer.base
  have hverified := Follows.logVerified cfg.ctx layer.base.active msg layer.base
  dsimp only
  rw [htrace] at hverified ⊢
  dsimp only
  rcases layer.base.active.validateSessionData cfg.ctx layer.base.statistics msg env.now with
    ⟨result, active, stats⟩
  cases result with
  | error e => exact hverified
  | ok payload =>
      dsimp only
      generalize hplaced : CryptoLayer.placePayload _ payload = placed
      have huses : onSessionNonceChangeUses cfg env { layer with base := { layer.base with
          active := active } } =
            onSessionNonceChangeUses cfg env { layer with base := placed } := by
        rw [← hplaced]
        rfl
      have hsilent : Follows layer.base [] placed := by
        rw [← hplaced]
        refine .keep ?_ (.placePayload _ payload)
        exact hverified.keep (.log rfl rfl rfl)
      rw [huses]
      exact (hsilent.after (onSessionNonceChange_follows env { layer with base := placed })).keep
        (.notifyRxReady _)

theorem process_follows {layer : Layer} (hready : layer.base.lowerTxReady = true) (env : Env)
    (message : Bytes) :
    Follows layer.base (layer.processUses cfg env message)
      (layer.process cfg env message).1.base := by
  unfold process processUses
  cases message with
  | nil => exact .nil rfl rfl
  | cons rawFunction rest =>
      dsimp only
      generalize hmessage : rawFunction :: rest = message
      rcases hfunction : Function.spec.fromType rawFunction with _ | function
      · exact .nil rfl rfl
      cases function with
      | requestHandshakeBegin =>
          cases hrole : cfg.role with
          | initiator config => exact .nil rfl rfl
          | responder mode =>
              dsimp only
              cases RequestHandshakeBegin.read message with
              | error e => exact replyWithHandshakeError_follows hready _
              | ok msg => exact onRequest_follows hready mode env msg message
      | replyHandshakeBegin =>
          cases hrole : cfg.role with
          | initiator config =>
              dsimp only
              cases ReplyHandshakeBegin.read message with
              | error e => exact .nil rfl rfl
              | ok msg => exact onReplyMessage_follows hready env msg message
          | responder mode => exact .nil rfl rfl
      | replyHandshakeError =>
          cases hrole : cfg.role with
          | initiator config =>
              dsimp only
              cases ReplyHandshakeError.read message with
              | error e => exact .nil rfl rfl
              | ok msg =>
                  dsimp only
                  unfold onErrorMessage
                  split <;> exact .nil rfl rfl
          | responder mode => exact .nil rfl rfl
      | sessionData =>
          dsimp only
          cases SessionData.read message with
          | error e => exact .nil rfl rfl
          | ok msg =>
              dsimp only
              unfold onSessionMessage
              split_ifs with hnonce
              · cases hrole : cfg.role with
                | initiator config => exact onAuthMessage_follows env msg
                | responder mode => exact onAuthSession_follows hready env msg
              · exact onSessionData_follows env msg

theorem tryReadFromLower_follows {layer : Layer} (env : Env) :
    Follows layer.base (layer.tryReadFromLowerUses cfg env)
      (layer.tryReadFromLower cfg env).1.base := by
  unfold tryReadFromLower tryReadFromLowerUses
  split_ifs with hguard
  · exact .nil rfl rfl
  · have hready := (CryptoLayer.canRead_of_guard hguard).1
    cases layer.base.lowerRx with
    | nil => exact .nil rfl rfl
    | cons message messages =>
        dsimp only
        split_ifs with hempty
        · rw [List.isEmpty_iff.mp hempty]
          exact .nil rfl rfl
        · exact @process_follows cfg { layer with base := { layer.base with lowerRx := messages } }
            hready env message

theorem checkTransmit_follows {layer : Layer} (env : Env) :
    Follows layer.base (layer.checkTransmitUses cfg env) (layer.checkTransmit cfg env).1.base := by
  unfold checkTransmit checkTransmitUses
  split_ifs with hguard
  · exact .nil rfl rfl
  · have hready := (CryptoLayer.ready_of_canTransmit (by simpa using hguard)).2
    dsimp only
    generalize layer.base.active.formatSessionData cfg.ctx env.now layer.base.txState.remainder =
      outcome
    cases outcome.result with
    | error e =>
        refine .keep (.keep (.write hready hready rfl) ?_) (.closeUpper _)
        exact .log rfl rfl rfl
    | ok formatted =>
        dsimp only
        rw [CryptoLayer.lowerStartTx_ready (by exact hready)]
        -- a renegotiation behind the frame has to wait
        have hsent : Follows layer.base [.write, .start] (CryptoLayer.sent { layer.base with
            active := outcome.session
            txState := layer.base.txState.beginTransmit outcome.remainder }
              (CryptoLayer.sessionTransmission layer.base.active formatted)) :=
                .send hready rfl (CryptoLayer.started_sent _ _)
        exact hsent.append (onSessionNonceChange_follows env { layer with base := _ })

theorem onTimer_follows {layer : Layer} (env : Env) (timer : Timer) :
    Follows layer.base (layer.onTimerUses cfg env timer) (layer.onTimer cfg env timer).base := by
  unfold onTimer onTimerUses
  cases cfg.role with
  | responder mode => exact .nil rfl rfl
  | initiator config =>
      cases timer.kind with
      | response =>
          dsimp only
          split <;> exact .nil rfl rfl
      | retry =>
          cases hstate : layer.initiator.handshakeState with
          | waitForRetry =>
              simp only [hstate]
              exact onHandshakeRequired_follows env env.now
          | _ =>
              simp only [hstate]
              exact onHandshakeRequired_follows env env.now
      | session => exact onHandshakeRequired_follows env env.now

theorem onPreTxReady_follows (env : Env) (layer : Layer) :
    Follows layer.base (layer.onPreTxReadyUses cfg env) (layer.onPreTxReady cfg env).base := by
  unfold onPreTxReady onPreTxReadyUses
  cases cfg.role with
  | responder mode => exact .nil rfl rfl
  | initiator config =>
      dsimp only
      split_ifs
      · exact onHandshakeRequired_follows env env.now
      · exact .nil rfl rfl

end Layer

namespace Machine

theorem step_follows {cfg : Config} {machine machine' : Machine} {label : Label}
    (hstep : machine.step cfg label = some machine') :
    Follows machine.layer.base (machine.uses cfg label) machine'.layer.base := by
  cases steps_of_step hstep with
  | receive => exact .nil rfl rfl
  | lowerOpen layer ready env =>
      unfold uses Layer.onLowerOpen
      dsimp only
      split_ifs with hopen
      · exact .nil rfl rfl
      · have hreport : Follows layer.base [.report ready]
            { layer.base with isOpen := true, lowerTxReady := ready } := .report rfl rfl
        cases cfg.role with
        | responder mode => exact hreport
        | initiator config =>
            exact hreport.append (Layer.onHandshakeRequired_follows env env.now)
  | lowerClose layer ready =>
      unfold uses Layer.onLowerClose
      dsimp only
      by_cases hopen : layer.base.isOpen = true
      · rw [if_pos hopen, if_neg (by simp [hopen])]
        have hclosed : Follows layer.base [.report ready] (layer.base.closeFromLower ready) :=
          .report rfl rfl
        exact hclosed.keep (.closeUpper _)
      · rw [if_neg hopen, if_pos (by simpa using hopen)]
        exact .nil rfl rfl
  | lowerTxReady layer env =>
      unfold uses Layer.onLowerTxReady
      dsimp only
      have hready : Follows layer.base [.report true] { layer.base with lowerTxReady := true } :=
        .report rfl rfl
      by_cases hopen : layer.base.isOpen = true
      · rw [if_pos hopen, if_neg (by simpa [CryptoLayer.log] using hopen)]
        have hreport : Follows layer.base [.report true] layer.base.complete :=
          hready.keep (.log rfl rfl rfl)
        have hpre := hreport.append
          (@Layer.onPreTxReady_follows cfg env { layer with base := layer.base.complete })
        split_ifs
        · exact hpre.keep (.notifyTxReady _)
        · exact hpre
      · rw [if_neg hopen, if_pos (by simpa [CryptoLayer.log] using hopen)]
        exact hready.keep (.log rfl rfl rfl)
  | lowerRxReady layer =>
      unfold Layer.onLowerRxReady
      split_ifs <;> exact .nil rfl rfl
  | timer env hfind hdue =>
      simp only [uses, hfind]
      exact Layer.onTimer_follows env _
  | startRx layer hcall =>
      unfold CryptoLayer.startRxFromUpper
      dsimp only
      split_ifs
      · exact .nil rfl rfl
      · exact .log rfl rfl rfl
      · exact .nil rfl rfl
      · exact .log rfl rfl rfl
  | startTx layer data hcall =>
      unfold CryptoLayer.startTxFromUpper
      split_ifs
      · exact .log rfl rfl rfl
      · exact .nil rfl rfl
  | ret => exact .nil rfl rfl
  | @run layer task result stack env hrun =>
      cases Layer.ran_of_runTask hrun with
      | tryReadFromLower => exact Layer.tryReadFromLower_follows env
      | checkTransmit => exact Layer.checkTransmit_follows env
      | noPayload => exact .nil rfl rfl
      | @authPayload payload hne => exact .keep (.placePayload _ payload) (.notifyRxReady _)
      | enterIdle => exact .nil rfl rfl
      | afterClose => exact .nil rfl rfl

theorem run_follows {cfg : Config} {labels : List Label} {machine machine' : Machine}
    (hrun : machine.run cfg labels = some machine') :
    Follows machine.layer.base (machine.usesAlong cfg labels) machine'.layer.base := by
  induction labels generalizing machine with
  | nil =>
      cases hrun
      exact .nil rfl rfl
  | cons label labels ih =>
      obtain ⟨next, hstep, hrest⟩ := Runs.run_cons hrun
      simp only [usesAlong, hstep]
      exact (step_follows hstep).append (ih hrest)

/-- **The frame buffer is lent to one frame at a time.**  In every run, the writer and the
lower layer's `start_tx_from_upper` are only called while the lower layer is ready, no
frame is in flight then, and at most one ever is.  The calls are those of the run: each
frame that was handed to the lower layer is a call of `start_tx_from_upper`, right behind
the write of this frame. -/
theorem frame_buffer_loans (cfg : Config) {labels : List Label} {machine : Machine}
    (hrun : create.run cfg labels = some machine) :
    let uses := create.usesAlong cfg labels
    Runs.run Use.step false uses = some machine.layer.base.lowerTxReady ∧ Use.inFlight uses ≤ 1 ∧
      (∀ before use after, uses = before ++ use :: after → use = .write ∨ use = .start →
        Runs.run Use.step false before = some true ∧ Use.inFlight before = 0) ∧
      machine.layer.base.trace.countP Observation.handsOver = uses.count .start ∧
      Use.paired uses = true := by
  obtain ⟨hprotocol, hstarts, hpaired⟩ := run_follows hrun
  have hfollows : Runs.run Use.step false (create.usesAlong cfg labels) =
      some machine.layer.base.lowerTxReady := hprotocol
  have hstart : Use.Settled false 0 := ⟨Nat.zero_le 1, nofun⟩
  refine ⟨hfollows, (Use.settled_run hstart hfollows).1, ?_,
    hstarts.trans (Nat.zero_add _), hpaired⟩
  intro before use after heq hcall
  rw [heq] at hfollows
  obtain ⟨ready, hbefore, hrest⟩ := Runs.run_of_append hfollows
  obtain ⟨next, hstep, -⟩ := Runs.run_cons hrest
  obtain rfl : ready = true := Use.ready_of_call hcall hstep
  exact ⟨hbefore, (Use.settled_run hstart hbefore).2 rfl⟩

/-- The responder of the sample handshake writes and sends its reply and its auth
message. -/
theorem frame_buffer_loans_sample :
    create.usesAlong (Sample.responder 1000) (Sample.opening ⟨100, 60000⟩) =
        [.report true, .write, .start, .report true, .write, .start] ∧
      Use.inFlight (create.usesAlong (Sample.responder 1000) (Sample.opening ⟨100, 60000⟩)) ≤ 1 :=
  ⟨by decide +kernel, (frame_buffer_loans (Sample.responder 1000)
    (show create.run (Sample.responder 1000) (Sample.opening ⟨100, 60000⟩) =
      some (Sample.reached (Sample.responder 1000) (Sample.opening ⟨100, 60000⟩)) by
        decide +kernel)).2.1⟩

end Machine

end Ssp21
