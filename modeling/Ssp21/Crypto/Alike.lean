import Ssp21.Crypto.StaleData

/-!
# Layers that cannot be told apart

Two layers are `Alike` if they differ only in stale data and in the names of their timers.

* Every function of the layer keeps them alike, and leaves the same to do.
* `step_alike`: alike machines take the same steps, and stay alike.
* `run_alike`, `run_alike_back`: so do whole runs, in both directions.
-/

namespace Ssp21

open Wire

/-! ## The functions of the layer -/

namespace Layer

structure Alike (cfg : Config) (past : List Observation) (shift : Nat)
    (old new : Layer) : Prop where
  base : CryptoLayer.Alike past old.base new.base
  initiator : InitiatorState.Alike cfg shift old.initiator new.initiator

/-- Two results that differ in stale data only, and leave the same to do. -/
def AlikeTasks (cfg : Config) (past : List Observation) (shift : Nat)
    (old new : Layer × List Task) :
    Prop :=
  Alike cfg past shift old.1 new.1 ∧ old.2 = new.2

/-- What the expiry of a timer does, when the timer itself is gone. -/
def expires (cfg : Config) (env : Env) (kind : TimerKind) (layer : Layer) : Layer :=
  match cfg.role with
  | .responder _ => layer
  | .initiator config =>
      match kind with
      | .response =>
          match layer.initiator.handshakeState with
          | .waitForBeginReply | .waitForAuthReply =>
              { layer with initiator := layer.initiator.retryLater config.params env.now }
          | _ => layer
      | .retry =>
          onHandshakeRequired cfg.ctx config env env.now
            (match layer.initiator.handshakeState with
              | .waitForRetry =>
                  { layer with initiator := { layer.initiator with handshakeState := .idle } }
              | _ => layer)
      | .session => onHandshakeRequired cfg.ctx config env env.now layer

theorem onTimer_eq (cfg : Config) (env : Env) (layer : Layer) (timer : Timer) :
    layer.onTimer cfg env timer =
      expires cfg env timer.kind { layer with initiator := layer.initiator.fired timer } :=
  rfl

namespace Alike

variable {cfg : Config} {config : InitiatorConfig} {past : List Observation} {shift : Nat}
  {old new : Layer}

theorem onHandshakeRequired (h : Alike cfg past shift old new)
    (hrole : cfg.role = .initiator config)
    (env : Env) (now : Time) :
    Alike cfg past shift (old.onHandshakeRequired cfg.ctx config env now)
      (new.onHandshakeRequired cfg.ctx config env now) := by
  have hdeferred : Alike cfg past shift
      { old with initiator := { old.initiator with handshakeRequired := true } }
      { new with initiator := { new.initiator with handshakeRequired := true } } :=
    ⟨h.base, h.initiator.require⟩
  unfold Layer.onHandshakeRequired
  rw [h.initiator.handshakeState]
  cases hstate : new.initiator.handshakeState with
  | idle =>
      dsimp only
      rw [h.base.lowerTxReady]
      by_cases hready : (!new.base.lowerTxReady) = true
      · rw [if_pos hready, if_pos hready]
        exact hdeferred
      · rw [if_neg hready, if_neg hready]
        obtain ⟨hdrawn, hagree⟩ :=
          InitiatorHandshake.initializeNewHandshake_interchangeable cfg.ctx.backend
          config.mode old.initiator.handshake new.initiator.handshake env.random env.keyRecord
        generalize old.initiator.handshake.initializeNewHandshake cfg.ctx.backend config.mode
          env.random env.keyRecord = draw at hdrawn hagree ⊢
        generalize new.initiator.handshake.initializeNewHandshake cfg.ctx.backend config.mode
          env.random env.keyRecord = draw' at hdrawn hagree ⊢
        obtain ⟨drawn, handshake⟩ := draw
        obtain ⟨drawn', handshake'⟩ := draw'
        obtain rfl : drawn = drawn' := hdrawn
        cases drawn with
        | none =>
            refine ⟨h.base, .retryLater ?_ (by exact h.initiator.handshakeRequired) _ _⟩
            exact { h.initiator.toSameTimers with }
        | some init =>
            dsimp only
            cases cfg.ctx.frameWriter.write
              (InitiatorHandshake.request config.mode config.sessionLimits init).write with
            | error e =>
                refine ⟨h.base.log _, .of_timers ?_ rfl h.initiator.handshakeRequired (by simp)⟩
                exact { h.initiator.toSameTimers with }
            | ok result =>
                refine ⟨((h.base.log _).lowerStartTx _).2,
                  ⟨.startResponseTimer ?_ _ _, rfl, h.initiator.handshakeRequired, ?_⟩⟩
                · exact { h.initiator.toSameTimers with }
                · intro config' hrole' _
                  rw [hrole] at hrole'
                  cases hrole'
                  exact ⟨hagree _ _ rfl, rfl⟩
  | waitForBeginReply => exact hdeferred
  | waitForAuthReply => exact hdeferred
  | waitForRetry => exact hdeferred
  | badConfiguration => exact hdeferred

/-- The nonces of a valid active session decide in the same way. -/
theorem onSessionNonceChange (h : Alike cfg past shift old new)
    (hsame : old.base.active = new.base.active) (env : Env) :
    Alike cfg past shift (old.onSessionNonceChange cfg env) (new.onSessionNonceChange cfg env) := by
  unfold Layer.onSessionNonceChange
  rw [hsame]
  split
  · exact h
  · rename_i config hrole
    split_ifs
    · have hcancelled : Alike cfg past shift
          { old with initiator := old.initiator.cancelSessionTimeoutTimer }
          { new with initiator := new.initiator.cancelSessionTimeoutTimer } :=
        ⟨h.base, h.initiator.cancelSessionTimeoutTimer⟩
      exact hcancelled.onHandshakeRequired hrole env _
    · exact h

theorem onReplyMessage (h : Alike cfg past shift old new) (hrole : cfg.role = .initiator config)
    (env : Env) (msg : ReplyHandshakeBegin) (rawData : Bytes) :
    Alike cfg past shift (old.onReplyMessage cfg.ctx config env msg rawData)
      (new.onReplyMessage cfg.ctx config env msg rawData) := by
  unfold Layer.onReplyMessage
  rw [h.initiator.handshakeState]
  split_ifs with hstate
  · exact h
  · obtain ⟨hagree, hdata⟩ := h.initiator.waits config hrole (not_not.mp hstate)
    have hmaterial := hagree.material msg
    have houtcome := hagree.initializeSession h.base.pending msg rawData
      config.sessionLimits env.now
      old.base.statistics new.base.statistics
    have hcancelled := h.initiator.toSameTimers.cancelResponseAndRetryTimer
    dsimp only [InitiatorState.cancelResponseAndRetryTimer] at hcancelled ⊢
    rw [hmaterial, hdata]
    generalize InitiatorHandshake.initializeSession _ _ old.initiator.handshake _ _ _ _ _ _ =
      outcome at houtcome ⊢
    generalize InitiatorHandshake.initializeSession _ _ new.initiator.handshake _ _ _ _ _ _ =
      outcome' at houtcome ⊢
    obtain ⟨hsuccess, hsession, hsame⟩ := houtcome
    rw [hsuccess]
    have hsettled := h.base.settle hsession outcome.stats outcome'.stats
    split_ifs with hok
    · refine ⟨hsettled, .retryLater ?_ (by exact h.initiator.handshakeRequired) _ _⟩
      exact { hcancelled with }
    · have hsession' := hsame (by simpa using hok)
      rw [hsession'] at hsettled ⊢
      have hsent := (hsettled.log (.initialized ⟨new.initiator.requestData, rawData,
        (InitiatorHandshake.material cfg.ctx.backend config.mode new.initiator.handshake msg).getD
          [],
        outcome'.session⟩)).transmitSessionAuth cfg.ctx .pending env.later
      generalize CryptoLayer.transmitSessionAuth _ _ _ _ = sent at hsent ⊢
      generalize CryptoLayer.transmitSessionAuth _ _ _ _ = sent' at hsent ⊢
      obtain ⟨success, base⟩ := sent
      obtain ⟨success', base'⟩ := sent'
      obtain ⟨rfl, hbase⟩ : success = success' ∧ CryptoLayer.Alike past base base' := hsent
      cases success with
      | false =>
          refine ⟨hbase, .retryLater ?_ (by exact h.initiator.handshakeRequired) _ _⟩
          exact { hcancelled with }
      | true =>
          have hstarted : InitiatorState.SameTimers shift
              (InitiatorState.startResponseTimer { old.initiator.cancelResponseAndRetryTimer with
                handshake := outcome.handshake } config.params env.later)
              (InitiatorState.startResponseTimer { new.initiator.cancelResponseAndRetryTimer with
                handshake := outcome'.handshake } config.params env.later) := by
            refine .startResponseTimer ?_ _ _
            exact { hcancelled with }
          refine ⟨hbase, .of_timers ?_ rfl h.initiator.handshakeRequired (by simp)⟩
          exact { hstarted with }

/-- A change that is made only while an answer is awaited. -/
theorem whenWaiting (h : Alike cfg past shift old new) {old' new' : Layer}
    (hchanged : Alike cfg past shift old' new') :
    Alike cfg past shift
      (match old.initiator.handshakeState with
        | .waitForBeginReply | .waitForAuthReply => old'
        | _ => old)
      (match new.initiator.handshakeState with
        | .waitForBeginReply | .waitForAuthReply => new'
        | _ => new) := by
  rw [h.initiator.handshakeState]
  cases new.initiator.handshakeState with
  | waitForBeginReply => exact hchanged
  | waitForAuthReply => exact hchanged
  | idle => exact h
  | waitForRetry => exact h
  | badConfiguration => exact h

theorem onErrorMessage (h : Alike cfg past shift old new) (env : Env) :
    Alike cfg past shift (old.onErrorMessage config env) (new.onErrorMessage config env) := by
  have hretried : Alike cfg past shift
      { old with initiator :=
          old.initiator.cancelResponseAndRetryTimer.retryLater config.params env.later }
      { new with initiator :=
          new.initiator.cancelResponseAndRetryTimer.retryLater config.params env.later } :=
    ⟨h.base, .retryLater h.initiator.toSameTimers.cancelResponseAndRetryTimer
      h.initiator.handshakeRequired _ _⟩
  unfold Layer.onErrorMessage
  exact h.whenWaiting hretried

theorem onAuthMessage (h : Alike cfg past shift old new) (env : Env) (msg : SessionData) :
    AlikeTasks cfg past shift (old.onAuthMessage cfg.ctx config env msg)
      (new.onAuthMessage cfg.ctx config env msg) := by
  unfold Layer.onAuthMessage
  rw [h.initiator.handshakeState]
  split_ifs with hstate
  · exact ⟨h, rfl⟩
  · have hcancelled := h.initiator.toSameTimers.cancelResponseAndRetryTimer
    have hlogged := h.base.logVerified h.base.pending cfg.ctx msg
    obtain ⟨result, session, session', next, next', heq, heq', hsession, hok⟩ :=
      h.base.pending.validateSessionAuth cfg.ctx
        (old.base.logVerified cfg.ctx old.base.pending msg).statistics
        (new.base.logVerified cfg.ctx new.base.pending msg).statistics msg env.now
    simp only [heq, heq']
    cases result with
    | error e =>
        exact ⟨⟨hlogged.settle hsession _ _,
          .retryLater hcancelled h.initiator.handshakeRequired _ _⟩,
          rfl⟩
    | ok payload =>
        obtain ⟨hsame, rfl⟩ := hok payload rfl
        rw [hsame] at hlogged ⊢
        have hopened := (((hlogged.settle (.refl session) next next').log (.accepted
          new.base.pending.keys.rxKey msg payload)).activatePending rfl).openUpper
        have hstarted : InitiatorState.SameTimers shift
            (InitiatorState.startSessionTimer { old.initiator.cancelResponseAndRetryTimer with
              handshakeRequired := false } (session.parameters.sessionStart +
                milliseconds config.params.sessionTimeRenegotiationTriggerMs))
            (InitiatorState.startSessionTimer { new.initiator.cancelResponseAndRetryTimer with
              handshakeRequired := false } (session.parameters.sessionStart +
                milliseconds config.params.sessionTimeRenegotiationTriggerMs)) := by
          refine .startSessionTimer ?_ _
          exact { hcancelled with }
        refine ⟨⟨hopened.1, .of_timers hstarted h.initiator.handshakeState rfl ?_⟩, ?_⟩
        · intro hwait
          have hwait' : new.initiator.handshakeState = .waitForBeginReply := hwait
          rw [not_not.mp hstate] at hwait'
          cases hwait'
        · show _ ++ _ = _ ++ _
          rw [hopened.2]

theorem replyWithHandshakeError (h : Alike cfg past shift old new) (ctx : SessionContext)
    (error : HandshakeError) :
    Alike cfg past shift (old.replyWithHandshakeError ctx error)
      (new.replyWithHandshakeError ctx error) := by
  unfold Layer.replyWithHandshakeError
  split
  · exact h
  · exact ⟨(h.base.lowerStartTx _).2, h.initiator⟩

theorem onRequest (h : Alike cfg past shift old new) (mode : ResponderMode) (env : Env)
    (msg : RequestHandshakeBegin) (rawMsg : Bytes) :
    Alike cfg past shift (old.onRequest cfg.ctx mode env msg rawMsg)
      (new.onRequest cfg.ctx mode env msg rawMsg) := by
  unfold Layer.onRequest
  split_ifs
  · exact h.replyWithHandshakeError _ _
  · have houtcome := ResponderMode.process_alike h.base.pending cfg.ctx.backend mode
      cfg.ctx.frameWriter msg rawMsg env.now env.random env.findKey old.base.statistics
      new.base.statistics
    dsimp only
    generalize ResponderMode.process _ _ _ _ _ _ _ _ old.base.pending _ = outcome at houtcome ⊢
    generalize ResponderMode.process _ _ _ _ _ _ _ _ new.base.pending _ = outcome' at houtcome ⊢
    obtain ⟨hresult, hinitialized, hsession, hsame⟩ := houtcome
    have hsettled := h.base.settle hsession outcome.stats outcome'.stats
    rw [hresult, hinitialized]
    cases outcome'.result with
    | error e =>
        have hfailed : Alike cfg past shift
            { old with base := { old.base with
              pending := outcome.session, statistics := outcome.stats } }
            { new with base := { new.base with
              pending := outcome'.session, statistics := outcome'.stats } } :=
          ⟨hsettled, h.initiator⟩
        exact hfailed.replyWithHandshakeError _ _
    | ok result =>
        dsimp only
        split_ifs with hinit
        · rw [hsame hinit] at hsettled ⊢
          exact ⟨(((hsettled.log _).log _).lowerStartTx _).2, h.initiator⟩
        · exact ⟨((hsettled.log _).lowerStartTx _).2, h.initiator⟩

theorem onAuthSession (h : Alike cfg past shift old new) (env : Env) (msg : SessionData) :
    AlikeTasks cfg past shift (old.onAuthSession cfg.ctx env msg)
      (new.onAuthSession cfg.ctx env msg) := by
  unfold Layer.onAuthSession
  rw [h.base.pending.valid_eq]
  split_ifs
  · exact ⟨h.replyWithHandshakeError _ _, rfl⟩
  · have hlogged := h.base.logVerified h.base.pending cfg.ctx msg
    obtain ⟨result, session, session', next, next', heq, heq', hsession, hok⟩ :=
      h.base.pending.validateSessionAuth cfg.ctx
        (old.base.logVerified cfg.ctx old.base.pending msg).statistics
        (new.base.logVerified cfg.ctx new.base.pending msg).statistics msg env.now
    simp only [heq, heq']
    cases result with
    | error e => exact ⟨⟨hlogged.settle hsession _ _, h.initiator⟩, rfl⟩
    | ok payload =>
        obtain ⟨hsame, rfl⟩ := hok payload rfl
        rw [hsame] at hlogged ⊢
        have hsent := (((hlogged.settle (.refl session) next next').log (.accepted
          new.base.pending.keys.rxKey msg payload)).activatePending rfl).transmitSessionAuth cfg.ctx
            .active env.later
        dsimp only
        generalize CryptoLayer.transmitSessionAuth _ _ _ _ = sent at hsent ⊢
        generalize CryptoLayer.transmitSessionAuth _ _ _ _ = sent' at hsent ⊢
        obtain ⟨success, base⟩ := sent
        obtain ⟨success', base'⟩ := sent'
        obtain ⟨rfl, hbase⟩ : success = success' ∧ CryptoLayer.Alike past base base' := hsent
        cases success with
        | false => exact ⟨⟨hbase, h.initiator⟩, rfl⟩
        | true =>
            refine ⟨⟨hbase.openUpper.1, h.initiator⟩, ?_⟩
            show _ ++ _ = _ ++ _
            rw [hbase.openUpper.2]

theorem onSessionData (h : Alike cfg past shift old new) (env : Env) (msg : SessionData) :
    AlikeTasks cfg past shift (old.onSessionData cfg env msg) (new.onSessionData cfg env msg) := by
  unfold Layer.onSessionData
  have hlogged := h.base.logVerified h.base.active cfg.ctx msg
  obtain ⟨result, session, session', next, next', heq, heq', hsession, hok⟩ :=
    h.base.active.validateSessionData cfg.ctx
      (old.base.logVerified cfg.ctx old.base.active msg).statistics
      (new.base.logVerified cfg.ctx new.base.active msg).statistics msg env.now
  simp only [heq, heq']
  cases result with
  | error e => exact ⟨⟨hlogged.settleActive hsession _ _, h.initiator⟩, rfl⟩
  | ok payload =>
      obtain ⟨hsame, rfl⟩ := hok payload rfl
      rw [hsame] at hlogged ⊢
      have hplaced := ((hlogged.settleActive (.refl session) next next').log (.accepted
        new.base.active.keys.rxKey msg payload)).placePayload payload
      have hchanged := @Alike.onSessionNonceChange cfg past shift ⟨_, old.initiator⟩
        ⟨_, new.initiator⟩ ⟨hplaced, h.initiator⟩ rfl env
      exact ⟨⟨hchanged.base.notifyRxReady.1, hchanged.initiator⟩, hchanged.base.notifyRxReady.2⟩

theorem onSessionMessage (h : Alike cfg past shift old new) (env : Env) (msg : SessionData) :
    AlikeTasks cfg past shift (old.onSessionMessage cfg env msg)
      (new.onSessionMessage cfg env msg) := by
  unfold Layer.onSessionMessage
  split_ifs
  · split
    · exact h.onAuthMessage env msg
    · exact h.onAuthSession env msg
  · exact h.onSessionData env msg

theorem process (h : Alike cfg past shift old new) (env : Env) (message : Bytes) :
    AlikeTasks cfg past shift (old.process cfg env message) (new.process cfg env message) := by
  unfold Layer.process
  split
  · exact ⟨h, rfl⟩
  · split
    · rename_i config _ hrole
      split
      · exact ⟨h, rfl⟩
      · exact ⟨h.onReplyMessage hrole env _ _, rfl⟩
    · split
      · exact ⟨h, rfl⟩
      · exact ⟨h.onErrorMessage env, rfl⟩
    · split
      · exact ⟨h.replyWithHandshakeError _ _, rfl⟩
      · exact ⟨h.onRequest _ env _ _, rfl⟩
    · split
      · exact ⟨h, rfl⟩
      · exact h.onSessionMessage env _
    · exact ⟨h, rfl⟩

theorem tryReadFromLower (h : Alike cfg past shift old new) (env : Env) :
    AlikeTasks cfg past shift (old.tryReadFromLower cfg env) (new.tryReadFromLower cfg env) := by
  unfold Layer.tryReadFromLower
  rw [h.base.lowerTxReady, h.base.payloadData, h.base.lowerRx]
  split_ifs
  · exact ⟨h, rfl⟩
  · split
    · exact ⟨h, rfl⟩
    · rename_i message messages _
      have hpopped : Alike cfg past shift
          { old with base := { old.base with lowerRx := messages } }
          { new with base := { new.base with lowerRx := messages } } :=
        ⟨h.base.received messages, h.initiator⟩
      split_ifs
      · exact ⟨hpopped, rfl⟩
      · obtain ⟨hprocessed, htasks⟩ := hpopped.process env message
        refine ⟨hprocessed, ?_⟩
        show _ ++ _ = _ ++ _
        rw [htasks]

theorem checkTransmit (h : Alike cfg past shift old new) (env : Env) :
    AlikeTasks cfg past shift (old.checkTransmit cfg env) (new.checkTransmit cfg env) := by
  have hready : old.base.canTransmitSessionData = new.base.canTransmitSessionData := by
    simp only [CryptoLayer.canTransmitSessionData, h.base.active.valid_eq, h.base.lowerTxReady,
      h.base.txState]
  unfold Layer.checkTransmit
  rw [hready]
  split_ifs with hguard
  · exact ⟨h, rfl⟩
  · -- only a valid session transmits
    have hcan : new.base.canTransmitSessionData = true := by simpa using hguard
    have hsame := h.base.active.eq_of_valid (CryptoLayer.ready_of_canTransmit hcan).1
    dsimp only
    rw [hsame, h.base.txState]
    generalize new.base.active.formatSessionData _ _ _ = outcome
    cases outcome.result with
    | error e =>
        have hclosed := ((h.base.log .dataFormatFailed).settleActive
          (.reset new.base.active new.base.active) old.base.statistics
            new.base.statistics).closeUpper
        exact ⟨⟨hclosed.1, h.initiator⟩, hclosed.2⟩
    | ok formatted =>
        have hsent := (((h.base.settleActive (.refl outcome.session) old.base.statistics
          new.base.statistics).transmitted (new.base.txState.beginTransmit
            outcome.remainder)).lowerStartTx (CryptoLayer.sessionTransmission new.base.active
              formatted)).2
        refine ⟨@Alike.onSessionNonceChange cfg past shift ⟨_, old.initiator⟩ ⟨_, new.initiator⟩
          ⟨hsent, h.initiator⟩ ?_ env, rfl⟩
        dsimp only
        rw [CryptoLayer.lowerStartTx_active, CryptoLayer.lowerStartTx_active]

theorem onLowerOpen (h : Alike cfg past shift old new) (env : Env) (ready : Bool) :
    Alike cfg past shift (old.onLowerOpen cfg env ready) (new.onLowerOpen cfg env ready) := by
  unfold Layer.onLowerOpen
  have hopened : Alike cfg past shift
      { old with base := { old.base with isOpen := true, lowerTxReady := ready } }
      { new with base := { new.base with isOpen := true, lowerTxReady := ready } } :=
    ⟨h.base.answered true ready, h.initiator⟩
  rw [h.base.isOpen]
  split_ifs
  · exact h
  · dsimp only
    split
    · rename_i config hrole
      exact hopened.onHandshakeRequired hrole env _
    · exact hopened

theorem onLowerClose (h : Alike cfg past shift old new) (ready : Bool) :
    AlikeTasks cfg past shift (old.onLowerClose cfg ready) (new.onLowerClose cfg ready) := by
  unfold Layer.onLowerClose
  rw [h.base.isOpen]
  split_ifs
  · exact ⟨h, rfl⟩
  · have hclosed := (((h.base.answered false ready).resetBoth).holding []).closeUpper
    refine ⟨⟨hclosed.1, ?_⟩, congrArg (· ++ _) hclosed.2⟩
    cases cfg.role with
    | initiator config => exact h.initiator.resetStateOnClose
    | responder mode => exact h.initiator

theorem onPreTxReady (h : Alike cfg past shift old new) (env : Env) :
    Alike cfg past shift (old.onPreTxReady cfg env) (new.onPreTxReady cfg env) := by
  unfold Layer.onPreTxReady
  rw [h.initiator.handshakeRequired]
  split
  · rename_i config hrole
    split_ifs
    · exact h.onHandshakeRequired hrole env _
    · exact h
  · exact h

theorem onLowerTxReady (h : Alike cfg past shift old new) (env : Env) :
    AlikeTasks cfg past shift (old.onLowerTxReady cfg env) (new.onLowerTxReady cfg env) := by
  have hcompleted : CryptoLayer.Alike past
      ({ old.base with lowerTxReady := true }.log .completed)
      ({ new.base with lowerTxReady := true }.log .completed) := by
    refine CryptoLayer.Alike.log ?_ _
    exact { h.base with lowerTxReady := rfl }
  unfold Layer.onLowerTxReady
  generalize ({ old.base with lowerTxReady := true }.log .completed : CryptoLayer) =
    base at hcompleted ⊢
  generalize ({ new.base with lowerTxReady := true }.log .completed : CryptoLayer) =
    base' at hcompleted ⊢
  dsimp only
  by_cases hopen : (!base'.isOpen) = true
  · rw [if_pos (by rw [hcompleted.isOpen]; exact hopen), if_pos hopen]
    exact ⟨⟨hcompleted, h.initiator⟩, rfl⟩
  · rw [if_neg (by rw [hcompleted.isOpen]; exact hopen), if_neg hopen, hcompleted.txState]
    have hpre : Alike cfg past shift
        (Layer.onPreTxReady cfg env { old with base := { base with
          txState := base'.txState.onTxComplete.2 } })
        (Layer.onPreTxReady cfg env { new with base := { base' with
          txState := base'.txState.onTxComplete.2 } }) := by
      refine Alike.onPreTxReady ?_ env
      exact ⟨hcompleted.transmitted _, h.initiator⟩
    split_ifs
    · exact ⟨⟨hpre.base.notifyTxReady.1, hpre.initiator⟩,
        congrArg (· ++ _) hpre.base.notifyTxReady.2⟩
    · exact ⟨hpre, rfl⟩

theorem onLowerRxReady (h : Alike cfg past shift old new) :
    AlikeTasks cfg past shift old.onLowerRxReady new.onLowerRxReady := by
  unfold Layer.onLowerRxReady
  rw [h.base.isOpen]
  split_ifs
  · exact ⟨h, rfl⟩
  · exact ⟨h, rfl⟩

/-- What a timer does that has been removed. -/
theorem expires (h : Alike cfg past shift old new) (env : Env) (kind : TimerKind) :
    Alike cfg past shift (old.expires cfg env kind) (new.expires cfg env kind) := by
  unfold Layer.expires
  split
  · exact h
  · rename_i config hrole
    cases kind with
    | response =>
        have hretried : Alike cfg past shift
            { old with initiator := old.initiator.retryLater config.params env.now }
            { new with initiator := new.initiator.retryLater config.params env.now } :=
          ⟨h.base, .retryLater h.initiator.toSameTimers h.initiator.handshakeRequired _ _⟩
        exact h.whenWaiting hretried
    | retry =>
        have hidle : Alike cfg past shift
            { old with initiator := { old.initiator with handshakeState := .idle } }
            { new with initiator := { new.initiator with handshakeState := .idle } } := by
          refine ⟨h.base, .of_timers ?_ rfl h.initiator.handshakeRequired (by simp)⟩
          exact { h.initiator.toSameTimers with }
        dsimp only
        refine Alike.onHandshakeRequired ?_ hrole env env.now
        rw [h.initiator.handshakeState]
        cases new.initiator.handshakeState with
        | waitForRetry => exact hidle
        | waitForBeginReply => exact h
        | waitForAuthReply => exact h
        | idle => exact h
        | badConfiguration => exact h
    | session => exact h.onHandshakeRequired hrole env env.now

theorem onTimer (h : Alike cfg past shift old new) (env : Env) (timer : Timer) :
    Alike cfg past shift (old.onTimer cfg env (timer.rename shift))
      (new.onTimer cfg env timer) := by
  have hfired : InitiatorState.Alike cfg shift (old.initiator.fired (timer.rename shift))
      (new.initiator.fired timer) :=
    { h.initiator with timers := h.initiator.toSameTimers.fired timer }
  rw [onTimer_eq, onTimer_eq]
  refine Alike.expires ?_ env timer.kind
  exact ⟨h.base, hfired⟩

theorem runTask (h : Alike cfg past shift old new) (env : Env) (task : Task) :
    Option.Rel (AlikeTasks cfg past shift) (old.runTask cfg env task)
      (new.runTask cfg env task) := by
  cases task with
  | upper callback => exact .none
  | tryReadFromLower => exact .some (h.tryReadFromLower env)
  | checkTransmit => exact .some (h.checkTransmit env)
  | authPayload payload =>
      simp only [Layer.runTask]
      split_ifs
      · exact .some ⟨h, rfl⟩
      · obtain ⟨hbase, htasks⟩ := (h.base.placePayload payload).notifyRxReady
        exact .some ⟨⟨hbase, h.initiator⟩, htasks⟩
  | enterIdle =>
      refine .some ⟨⟨h.base, .of_timers ?_ rfl h.initiator.handshakeRequired (by simp)⟩, rfl⟩
      exact { h.initiator.toSameTimers with }
  | afterClose =>
      refine .some ⟨⟨?_, h.initiator⟩, rfl⟩
      exact { h.base with upperIsProcessingRxData := rfl, txState := rfl }

end Alike

end Layer

/-! ## Steps and runs -/

/-- A label under other names of timers. -/
def Label.rename (shift : Nat) : Label → Label
  | .timer id env => .timer (id + shift) env
  | label => label

namespace Machine

/-- Two machines that differ in stale data and in the names of timers only. -/
def Alike (cfg : Config) (past : List Observation) (shift : Nat) (old new : Machine) : Prop :=
  Layer.Alike cfg past shift old.layer new.layer ∧ old.stack = new.stack

variable {cfg : Config} {past : List Observation} {shift : Nat} {old new : Machine}

theorem push_alike {result result' : Layer × List Task}
    (h : Layer.AlikeTasks cfg past shift result result') (stack : List Task) :
    Alike cfg past shift (push result stack) (push result' stack) :=
  ⟨h.1, congrArg (· ++ stack) h.2⟩

/-- **Alike machines take the same steps**, and stay alike. -/
theorem step_alike (h : Alike cfg past shift old new) (label : Label) :
    Option.Rel (Alike cfg past shift) (old.step cfg (label.rename shift)) (new.step cfg label) := by
  obtain ⟨layer, stack⟩ := old
  obtain ⟨layer', stack'⟩ := new
  obtain ⟨h, rfl⟩ : Layer.Alike cfg past shift layer layer' ∧ stack = stack' := h
  cases label with
  | receive message =>
      refine .some ⟨⟨?_, h.initiator⟩, rfl⟩
      dsimp only
      rw [h.base.lowerRx]
      exact h.base.received _
  | lowerOpen ready env =>
      simp only [Label.rename, step]
      split_ifs
      · exact .some ⟨h.onLowerOpen env ready, rfl⟩
      · exact .none
  | lowerClose ready =>
      simp only [Label.rename, step]
      split_ifs
      · exact .some (push_alike (h.onLowerClose ready) [])
      · exact .none
  | lowerTxReady env =>
      simp only [Label.rename, step]
      split_ifs
      · exact .some (push_alike (h.onLowerTxReady env) [])
      · exact .none
  | lowerRxReady =>
      simp only [Label.rename, step]
      split_ifs
      · exact .some (push_alike h.onLowerRxReady [])
      · exact .none
  | timer id env =>
      simp only [Label.rename, step, h.initiator.toSameTimers.find id]
      split_ifs
      · cases layer'.initiator.timers.find? (fun timer => timer.id = id) with
        | none => exact .none
        | some timer =>
            dsimp only [Option.map_some, Timer.rename]
            split_ifs
            · exact .some ⟨h.onTimer env timer, rfl⟩
            · exact .none
      · exact .none
  | startRx =>
      simp only [Label.rename, step]
      split_ifs
      · exact .some (push_alike ⟨⟨h.base.startRxFromUpper.1, h.initiator⟩,
          h.base.startRxFromUpper.2⟩ stack)
      · exact .none
  | startTx data =>
      simp only [Label.rename, step]
      split_ifs
      · exact .some (push_alike ⟨⟨(h.base.startTxFromUpper data).1, h.initiator⟩,
          (h.base.startTxFromUpper data).2⟩ stack)
      · exact .none
  | ret =>
      simp only [Label.rename, step]
      split
      · exact .some ⟨h, rfl⟩
      · exact .none
  | run env =>
      simp only [Label.rename, step]
      cases stack with
      | nil => exact .none
      | cons task stack =>
          have hrun := h.runTask env task
          dsimp only
          generalize layer.runTask cfg env task = result at hrun ⊢
          generalize layer'.runTask cfg env task = result' at hrun ⊢
          cases hrun with
          | none => exact .none
          | some halike => exact .some (push_alike halike stack)

theorem run_alike {labels : List Label} {new' : Machine} (h : Alike cfg past shift old new)
    (hrun : new.run cfg labels = some new') :
    ∃ old', old.run cfg (labels.map (Label.rename shift)) = some old' ∧
      Alike cfg past shift old' new' := by
  induction labels generalizing old new with
  | nil =>
      cases hrun
      exact ⟨old, rfl, h⟩
  | cons label labels ih =>
      obtain ⟨next', hstep', hrest⟩ := Runs.run_cons hrun
      have hstep := step_alike h label
      rw [hstep'] at hstep
      cases hold : old.step cfg (label.rename shift) with
      | none =>
          rw [hold] at hstep
          cases hstep
      | some next =>
          rw [hold] at hstep
          cases hstep with
          | some hnext =>
              obtain ⟨old', hrun', halike⟩ := ih hnext hrest
              refine ⟨old', ?_, halike⟩
              show Runs.run (step cfg) old (label.rename shift :: labels.map (Label.rename shift)) =
                _
              simp only [Runs.run, hold]
              exact hrun'

/-- A step of the old machine has its counterpart in the new one: no timer is left from
before. -/
theorem rename_of_step (h : Alike cfg past shift old new) {label : Label} {old' : Machine}
    (hstep : old.step cfg label = some old') : ∃ label' : Label, label = label'.rename shift := by
  cases label with
  | timer id env =>
      cases steps_of_step hstep with
      | @timer layer timer id env hfind hdue =>
          have hmem := List.mem_of_find?_eq_some hfind
          have hid : timer.id = id := by simpa using List.find?_some hfind
          rw [h.1.initiator.timers] at hmem
          obtain ⟨renamed, -, rfl⟩ := List.mem_map.mp hmem
          exact ⟨.timer renamed.id env, by rw [← hid]; rfl⟩
  | receive message => exact ⟨.receive message, rfl⟩
  | lowerOpen ready env => exact ⟨.lowerOpen ready env, rfl⟩
  | lowerClose ready => exact ⟨.lowerClose ready, rfl⟩
  | lowerTxReady env => exact ⟨.lowerTxReady env, rfl⟩
  | lowerRxReady => exact ⟨.lowerRxReady, rfl⟩
  | startRx => exact ⟨.startRx, rfl⟩
  | startTx data => exact ⟨.startTx data, rfl⟩
  | ret => exact ⟨.ret, rfl⟩
  | run env => exact ⟨.run env, rfl⟩

theorem run_alike_back {labels : List Label} {old' : Machine} (h : Alike cfg past shift old new)
    (hrun : old.run cfg labels = some old') :
    ∃ labels' new', labels = labels'.map (Label.rename shift) ∧
      new.run cfg labels' = some new' ∧ Alike cfg past shift old' new' := by
  induction labels generalizing old new with
  | nil =>
      cases hrun
      exact ⟨[], new, rfl, rfl, h⟩
  | cons label labels ih =>
      obtain ⟨next, hold, hrest⟩ := Runs.run_cons hrun
      obtain ⟨label', rfl⟩ := rename_of_step h hold
      have hstep := step_alike h label'
      rw [hold] at hstep
      cases hnew : new.step cfg label' with
      | none =>
          rw [hnew] at hstep
          cases hstep
      | some next' =>
          rw [hnew] at hstep
          cases hstep with
          | some hnext =>
              obtain ⟨labels', new', rfl, hrun', halike⟩ := ih hnext hrest
              refine ⟨label' :: labels', new', rfl, ?_, halike⟩
              show Runs.run (step cfg) new (label' :: labels') = _
              simp only [Runs.run, hnew]
              exact hrun'

end Machine

end Ssp21
