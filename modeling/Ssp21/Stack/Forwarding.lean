import Ssp21.Crypto.Turns
import Ssp21.Stack.AbstractStack

/-!
# A stack in front of the crypto layer

`AbstractStack` forwards the calls of the application to the crypto layer.  What it does not
forward is the flag of `ILowerLayer`: the application sets the flag of the stack, and that of the
crypto layer stays as it was constructed.

No function of the crypto layer looks at the flag, except for `start_rx_from_upper` itself: every
one of them commutes with setting it (`withFlag`).  Hence an application over a stack sees what an
application directly over the crypto layer sees (`AbstractStack.run_flagged`).  The exception is a
close from below, after which the crypto layer resets its own flag, and the stack does not.
-/

namespace Ssp21

open Wire

/-! ## Functions that do not look at the flag -/

namespace CryptoLayer

def withFlag (flag : Bool) (base : CryptoLayer) : CryptoLayer :=
  { base with upperIsProcessingRxData := flag }

section Flag

variable (flag : Bool) (base : CryptoLayer)

theorem withFlag_lowerStartTx (transmission : Transmission) :
    (base.withFlag flag).lowerStartTx transmission =
      ((base.lowerStartTx transmission).1, (base.lowerStartTx transmission).2.withFlag flag) := by
  cases hready : base.lowerTxReady <;> simp [lowerStartTx, withFlag, log, hready]

theorem withFlag_openUpper :
    (base.withFlag flag).openUpper = (base.openUpper.1.withFlag flag, base.openUpper.2) := by
  cases hopen : base.upperOpen <;> simp [openUpper, withFlag, log, hopen]

theorem withFlag_closeUpper :
    (base.withFlag flag).closeUpper = (base.closeUpper.1.withFlag flag, base.closeUpper.2) := by
  cases hopen : base.upperOpen <;> simp [closeUpper, withFlag, log, hopen]

theorem withFlag_notifyTxReady : (base.withFlag flag).notifyTxReady =
    (base.notifyTxReady.1.withFlag flag, base.notifyTxReady.2) := by
  cases hopen : base.upperOpen <;> simp [notifyTxReady, withFlag, log, hopen]

theorem withFlag_notifyRxReady : (base.withFlag flag).notifyRxReady =
    (base.notifyRxReady.1.withFlag flag, base.notifyRxReady.2) := by
  cases hopen : base.upperOpen <;> simp [notifyRxReady, withFlag, log, hopen]

theorem withFlag_startTxFromUpper (data : Bytes) :
    (base.withFlag flag).startTxFromUpper data =
      ((base.startTxFromUpper data).1.withFlag flag, (base.startTxFromUpper data).2) := by
  unfold startTxFromUpper
  by_cases hready : base.isTxReady = true
  · rw [if_pos hready, if_pos (by exact hready)]
    rfl
  · rw [if_neg hready, if_neg (by exact hready)]

theorem withFlag_logVerified (ctx : SessionContext) (session : Session) (msg : SessionData) :
    (base.withFlag flag).logVerified ctx session msg =
      (base.logVerified ctx session msg).withFlag flag := by
  unfold logVerified
  split <;> rfl

theorem withFlag_transmitSessionAuth (ctx : SessionContext) (slot : Slot) (now : Time) :
    (base.withFlag flag).transmitSessionAuth ctx slot now =
      ((base.transmitSessionAuth ctx slot now).1,
        (base.transmitSessionAuth ctx slot now).2.withFlag flag) := by
  have hsession : (base.withFlag flag).session slot = base.session slot := by
    cases slot <;> rfl
  have htx : (base.withFlag flag).txState = base.txState := rfl
  unfold transmitSessionAuth
  rw [hsession, htx]
  dsimp only
  generalize Session.formatSessionAuth ctx (base.session slot) now base.txState.remainder = outcome
  obtain ⟨session, remainder, result⟩ := outcome
  cases result with
  | error e => rfl
  | ok formatted =>
      dsimp only
      rw [← withFlag_lowerStartTx]
      cases slot <;> cases hremainder : base.txState.remainder <;>
        simp [setSession, withFlag, hremainder]

end Flag

end CryptoLayer

namespace Layer

def withFlag (flag : Bool) (layer : Layer) : Layer :=
  { layer with base := layer.base.withFlag flag }

/-- A result of a function, with the flag of the layer. -/
def resultWithFlag (flag : Bool) (result : Layer × List Task) : Layer × List Task :=
  (result.1.withFlag flag, result.2)

section Flag

variable (flag : Bool) (layer : Layer) {ctx : SessionContext}
  {config : InitiatorConfig} {cfg : Config}

theorem withFlag_onHandshakeRequired (env : Env) (now : Time) :
    onHandshakeRequired ctx config env now (layer.withFlag flag) =
      (onHandshakeRequired ctx config env now layer).withFlag flag := by
  obtain ⟨base, initiator⟩ := layer
  cases hstate : initiator.handshakeState with
  | idle =>
      cases hready : base.lowerTxReady with
      | false => simp [onHandshakeRequired, withFlag, CryptoLayer.withFlag, hstate, hready]
      | true =>
          cases hinit : initiator.handshake.initializeNewHandshake ctx.backend
            config.mode env.random
              env.keyRecord with
          | mk init handshake =>
              cases init with
              | none =>
                  simp [onHandshakeRequired, withFlag, CryptoLayer.withFlag, hstate, hready, hinit]
              | some init =>
                  cases hwrite : ctx.frameWriter.write
                      (InitiatorHandshake.request config.mode config.sessionLimits init).write with
                  | error e =>
                      simp [onHandshakeRequired, withFlag, CryptoLayer.withFlag, CryptoLayer.log,
                        hstate, hready, hinit, hwrite]
                  | ok result =>
                      simp [onHandshakeRequired, withFlag, CryptoLayer.withFlag, CryptoLayer.log,
                        CryptoLayer.lowerStartTx, hstate, hready, hinit, hwrite]
  | _ => simp [onHandshakeRequired, withFlag, CryptoLayer.withFlag, hstate]

theorem withFlag_onSessionNonceChange (env : Env) :
    onSessionNonceChange cfg env (layer.withFlag flag) =
      (onSessionNonceChange cfg env layer).withFlag flag := by
  unfold onSessionNonceChange
  split
  · rfl
  · rename_i config _
    by_cases hnonce : max layer.base.active.txNonce layer.base.active.rxNonce ≥
        config.params.nonceRenegotiationTriggerValue
    · rw [if_pos hnonce, if_pos (by exact hnonce)]
      exact withFlag_onHandshakeRequired flag
        { layer with initiator := layer.initiator.cancelSessionTimeoutTimer } env env.later
    · rw [if_neg hnonce, if_neg (by exact hnonce)]

theorem withFlag_onReplyMessage (env : Env) (msg : ReplyHandshakeBegin) (rawData : Bytes) :
    (layer.withFlag flag).onReplyMessage ctx config env msg rawData =
      (layer.onReplyMessage ctx config env msg rawData).withFlag flag := by
  obtain ⟨base, initiator⟩ := layer
  unfold onReplyMessage withFlag
  dsimp only [CryptoLayer.withFlag]
  split_ifs
  · rfl
  · rfl
  · generalize InitiatorHandshake.initializeSession _ _ _ _ _ _ _ _ _ = outcome
    generalize Derivation.mk _ _ _ _ = derivation
    have hsent := CryptoLayer.withFlag_transmitSessionAuth flag ({ base with
      pending := outcome.session, statistics := outcome.stats }.log (.initialized derivation)) ctx
      .pending env.later
    rw [show CryptoLayer.log { base with
        upperIsProcessingRxData := flag, pending := outcome.session, statistics := outcome.stats }
          (.initialized derivation) =
      (CryptoLayer.log { base with pending := outcome.session, statistics := outcome.stats }
        (.initialized derivation)).withFlag flag from rfl, hsent]
    generalize CryptoLayer.transmitSessionAuth _ _ _ _ = sent
    obtain ⟨_ | _, base'⟩ := sent
    · rfl
    · rfl

theorem withFlag_onErrorMessage (env : Env) :
    (layer.withFlag flag).onErrorMessage config env =
      (layer.onErrorMessage config env).withFlag flag := by
  obtain ⟨base, initiator⟩ := layer
  cases hstate : initiator.handshakeState <;> simp [onErrorMessage, withFlag, hstate]

theorem withFlag_onAuthMessage (env : Env) (msg : SessionData) :
    (layer.withFlag flag).onAuthMessage ctx config env msg =
      resultWithFlag flag (layer.onAuthMessage ctx config env msg) := by
  obtain ⟨base, initiator⟩ := layer
  unfold onAuthMessage withFlag
  dsimp only
  split_ifs
  · rfl
  · rw [CryptoLayer.withFlag_logVerified]
    dsimp only [CryptoLayer.withFlag]
    split
    · rfl
    · rename_i payload pending stats _
      have hopened := CryptoLayer.withFlag_openUpper flag
        ({ base.logVerified ctx base.pending msg with pending := pending, statistics := stats }.log
          (.accepted base.pending.keys.rxKey msg payload)).activatePending
      exact congrArg (fun opened : CryptoLayer × List Task =>
        ((⟨opened.1, _⟩ : Layer), opened.2 ++ [.authPayload payload, .enterIdle])) hopened

theorem withFlag_replyWithHandshakeError (error : HandshakeError) :
    replyWithHandshakeError ctx (layer.withFlag flag) error =
      (replyWithHandshakeError ctx layer error).withFlag flag := by
  unfold replyWithHandshakeError
  split
  · rfl
  · rename_i result _
    exact congrArg (fun sent : Bool × CryptoLayer => (⟨sent.2, layer.initiator⟩ : Layer))
      (CryptoLayer.withFlag_lowerStartTx flag layer.base _)

theorem withFlag_onRequest (mode : ResponderMode) (env : Env) (msg : RequestHandshakeBegin)
    (rawMsg : Bytes) :
    (layer.withFlag flag).onRequest ctx mode env msg rawMsg =
      (layer.onRequest ctx mode env msg rawMsg).withFlag flag := by
  obtain ⟨base, initiator⟩ := layer
  unfold onRequest
  split_ifs
  · exact withFlag_replyWithHandshakeError flag _ _
  · dsimp only [withFlag, CryptoLayer.withFlag]
    generalize ResponderMode.process _ _ _ _ _ _ _ _ _ _ = outcome
    split
    · exact withFlag_replyWithHandshakeError flag
        ⟨{ base with pending := outcome.session, statistics := outcome.stats }, initiator⟩ _
    · split_ifs
      · exact congrArg (fun sent : Bool × CryptoLayer => (⟨sent.2, initiator⟩ : Layer))
          (CryptoLayer.withFlag_lowerStartTx flag (({ base with
            pending := outcome.session, statistics := outcome.stats }.log _).log _) _)
      · exact congrArg (fun sent : Bool × CryptoLayer => (⟨sent.2, initiator⟩ : Layer))
          (CryptoLayer.withFlag_lowerStartTx flag ({ base with
            pending := outcome.session, statistics := outcome.stats }.log _) _)

theorem withFlag_onAuthSession (env : Env) (msg : SessionData) :
    (layer.withFlag flag).onAuthSession ctx env msg =
      resultWithFlag flag (layer.onAuthSession ctx env msg) := by
  obtain ⟨base, initiator⟩ := layer
  unfold onAuthSession
  by_cases hnone : (!base.pending.valid) = true
  · rw [if_pos hnone, if_pos (by exact hnone), withFlag_replyWithHandshakeError]
    rfl
  · rw [if_neg hnone, if_neg (by exact hnone)]
    dsimp only [withFlag]
    rw [CryptoLayer.withFlag_logVerified]
    dsimp only [CryptoLayer.withFlag]
    split
    · rfl
    · rename_i payload pending stats _
      have hsent := CryptoLayer.withFlag_transmitSessionAuth flag
        ({ base.logVerified ctx base.pending msg with pending := pending, statistics := stats }.log
          (.accepted base.pending.keys.rxKey msg payload)).activatePending ctx .active env.later
      generalize hflagged : CryptoLayer.transmitSessionAuth ctx _ .active env.later = flagged
      obtain rfl := hflagged.symm.trans hsent
      generalize CryptoLayer.transmitSessionAuth _ _ _ _ = sent
      obtain ⟨_ | _, base'⟩ := sent
      · rfl
      · dsimp only
        rw [CryptoLayer.withFlag_openUpper]
        rfl

theorem withFlag_onSessionData (env : Env) (msg : SessionData) :
    (layer.withFlag flag).onSessionData cfg env msg =
      resultWithFlag flag (layer.onSessionData cfg env msg) := by
  obtain ⟨base, initiator⟩ := layer
  unfold onSessionData
  dsimp only [withFlag]
  rw [CryptoLayer.withFlag_logVerified]
  dsimp only [CryptoLayer.withFlag]
  split
  · rfl
  · rename_i payload active stats _
    have hchanged := @withFlag_onSessionNonceChange flag
      ⟨({ base.logVerified cfg.ctx base.active msg with active := active, statistics := stats }.log
        (.accepted base.active.keys.rxKey msg payload)).placePayload payload, initiator⟩ cfg env
    refine Eq.trans (congrArg (fun layer : Layer =>
      (({ layer with base := layer.base.notifyRxReady.1 } : Layer), layer.base.notifyRxReady.2))
      hchanged) ?_
    generalize onSessionNonceChange _ _ _ = changed
    dsimp only [withFlag]
    rw [CryptoLayer.withFlag_notifyRxReady]
    rfl

theorem withFlag_process (env : Env) (message : Bytes) :
    (layer.withFlag flag).process cfg env message =
      resultWithFlag flag (layer.process cfg env message) := by
  unfold process
  split
  · rfl
  · split
    · split
      · rfl
      · exact congrArg (fun layer => (layer, [])) (withFlag_onReplyMessage flag layer env _ _)
    · split
      · rfl
      · exact congrArg (fun layer => (layer, [])) (withFlag_onErrorMessage flag layer env)
    · split
      · exact congrArg (fun layer => (layer, [])) (withFlag_replyWithHandshakeError flag layer _)
      · exact congrArg (fun layer => (layer, [])) (withFlag_onRequest flag layer _ env _ _)
    · split
      · rfl
      · unfold onSessionMessage
        split_ifs
        · split
          · exact withFlag_onAuthMessage flag layer env _
          · exact withFlag_onAuthSession flag layer env _
        · exact withFlag_onSessionData flag layer env _
    · rfl

theorem withFlag_tryReadFromLower (env : Env) :
    (layer.withFlag flag).tryReadFromLower cfg env =
      resultWithFlag flag (layer.tryReadFromLower cfg env) := by
  unfold tryReadFromLower
  by_cases hguard : (!layer.base.lowerTxReady || !layer.base.payloadData.isEmpty) = true
  · rw [if_pos hguard, if_pos (by exact hguard)]
    rfl
  · rw [if_neg hguard, if_neg (by exact hguard)]
    rw [show (layer.withFlag flag).base.lowerRx = layer.base.lowerRx from rfl]
    split
    · rfl
    · rename_i message messages _
      split_ifs
      · rfl
      · exact congrArg (fun processed : Layer × List Task =>
          (processed.1, processed.2 ++ [.tryReadFromLower]))
          (withFlag_process flag { layer with base := { layer.base with lowerRx := messages } } env
            message)

theorem withFlag_checkTransmit (env : Env) :
    (layer.withFlag flag).checkTransmit cfg env =
      resultWithFlag flag (layer.checkTransmit cfg env) := by
  obtain ⟨base, initiator⟩ := layer
  unfold checkTransmit
  by_cases hguard : (!base.canTransmitSessionData) = true
  · rw [if_pos hguard, if_pos (by exact hguard)]
    rfl
  · rw [if_neg hguard, if_neg (by exact hguard)]
    dsimp only [withFlag, CryptoLayer.withFlag]
    split
    · exact congrArg (fun closed : CryptoLayer × List Task =>
        ((⟨closed.1, initiator⟩ : Layer), closed.2))
        (CryptoLayer.withFlag_closeUpper flag
          { base.log .dataFormatFailed with active := base.active.reset })
    · rename_i formatted _
      generalize base.active.formatSessionData cfg.ctx env.now base.txState.remainder = outcome
      have hsent := CryptoLayer.withFlag_lowerStartTx flag { base with
        active := outcome.session, txState := base.txState.beginTransmit outcome.remainder }
        (CryptoLayer.sessionTransmission base.active formatted)
      refine Eq.trans (congrArg (fun sent : Bool × CryptoLayer =>
        (onSessionNonceChange cfg env ⟨sent.2, initiator⟩, ([] : List Task))) hsent) ?_
      exact congrArg (fun layer => (layer, []))
        (withFlag_onSessionNonceChange flag ⟨_, initiator⟩ env)

theorem withFlag_onLowerOpen (env : Env) (ready : Bool) :
    (layer.withFlag flag).onLowerOpen cfg env ready =
      (layer.onLowerOpen cfg env ready).withFlag flag := by
  unfold onLowerOpen
  by_cases hopen : layer.base.isOpen = true
  · rw [if_pos hopen, if_pos (by exact hopen)]
  · rw [if_neg hopen, if_neg (by exact hopen)]
    dsimp only
    split
    · exact withFlag_onHandshakeRequired flag
        { layer with base := { layer.base with isOpen := true, lowerTxReady := ready } } env env.now
    · rfl

theorem withFlag_onPreTxReady (env : Env) :
    onPreTxReady cfg env (layer.withFlag flag) = (onPreTxReady cfg env layer).withFlag flag := by
  unfold onPreTxReady
  split
  · by_cases hrequired : layer.initiator.handshakeRequired = true
    · rw [if_pos hrequired, if_pos (by exact hrequired)]
      exact withFlag_onHandshakeRequired flag layer env env.now
    · rw [if_neg hrequired, if_neg (by exact hrequired)]
  · rfl

theorem withFlag_onLowerTxReady (env : Env) :
    (layer.withFlag flag).onLowerTxReady cfg env =
      resultWithFlag flag (layer.onLowerTxReady cfg env) := by
  obtain ⟨base, initiator⟩ := layer
  unfold onLowerTxReady
  dsimp only
  by_cases hopen : (!({ base with lowerTxReady := true }.log .completed : CryptoLayer).isOpen) =
    true
  · rw [if_pos hopen, if_pos (by exact hopen)]
    rfl
  · rw [if_neg hopen, if_neg (by exact hopen)]
    have hpre : onPreTxReady cfg env (withFlag flag ⟨base.complete, initiator⟩) =
        (onPreTxReady cfg env ⟨base.complete, initiator⟩).withFlag flag :=
      withFlag_onPreTxReady flag _ env
    by_cases hcomplete : base.txState.onTxComplete.1 = true
    · rw [if_pos (by exact hcomplete), if_pos (by exact hcomplete)]
      refine Eq.trans (congrArg (fun layer : Layer =>
        (({ layer with base := layer.base.notifyTxReady.1 } : Layer),
          layer.base.notifyTxReady.2 ++ [Task.tryReadFromLower, .checkTransmit])) hpre) ?_
      dsimp only [withFlag]
      rw [CryptoLayer.withFlag_notifyTxReady]
      rfl
    · rw [if_neg (by exact hcomplete), if_neg (by exact hcomplete)]
      exact congrArg (fun layer : Layer => (layer, [Task.tryReadFromLower, .checkTransmit])) hpre

theorem withFlag_onTimer (env : Env) (timer : Timer) :
    (layer.withFlag flag).onTimer cfg env timer = (layer.onTimer cfg env timer).withFlag flag := by
  obtain ⟨base, initiator⟩ := layer
  unfold onTimer
  dsimp only [withFlag]
  split
  · rfl
  · split
    · split <;> rfl
    · split
      · exact withFlag_onHandshakeRequired flag ⟨base, { initiator with
          timers := initiator.timers.filter (fun other => other.id ≠ timer.id)
          handshakeState := .idle }⟩ env env.now
      · exact withFlag_onHandshakeRequired flag ⟨base, { initiator with
          timers := initiator.timers.filter (fun other => other.id ≠ timer.id) }⟩ env env.now
    · exact withFlag_onHandshakeRequired flag ⟨base, { initiator with
        timers := initiator.timers.filter (fun other => other.id ≠ timer.id) }⟩ env env.now

end Flag

end Layer

/-! ## Steps -/

namespace Machine

def withFlag (flag : Bool) (machine : Machine) : Machine :=
  ⟨machine.layer.withFlag flag, machine.stack⟩

theorem withFlag_runTask {cfg : Config} (flag : Bool) {layer : Layer} {task : Task} {env : Env}
    {result : Layer × List Task} (htask : task ≠ .afterClose)
    (hrun : layer.runTask cfg env task = some result) :
    (layer.withFlag flag).runTask cfg env task = some (Layer.resultWithFlag flag result) := by
  cases task with
  | upper callback => cases hrun
  | tryReadFromLower =>
      cases hrun
      exact congrArg some (Layer.withFlag_tryReadFromLower flag layer env)
  | checkTransmit =>
      cases hrun
      exact congrArg some (Layer.withFlag_checkTransmit flag layer env)
  | authPayload payload =>
      simp only [Layer.runTask] at hrun ⊢
      split_ifs at hrun ⊢
      · cases hrun
        rfl
      · cases hrun
        exact congrArg (fun notified : CryptoLayer × List Task =>
          some ((⟨notified.1, layer.initiator⟩ : Layer), notified.2))
          (CryptoLayer.withFlag_notifyRxReady flag (layer.base.placePayload payload))
  | enterIdle =>
      cases hrun
      rfl
  | afterClose => exact absurd rfl htask

/-- **No step looks at the flag**, except for the call that it belongs to. -/
theorem withFlag_step {cfg : Config} (flag : Bool) {machine machine' : Machine} {label : Label}
    (hstep : machine.step cfg label = some machine') (hstays : label.closes = false)
    (hunclosed : .afterClose ∉ machine.stack) (hother : label ≠ .startRx) :
    (machine.withFlag flag).step cfg label = some (machine'.withFlag flag) := by
  cases steps_of_step hstep with
  | receive => rfl
  | lowerOpen layer ready env =>
      exact congrArg (fun layer => some (⟨layer, []⟩ : Machine))
        (Layer.withFlag_onLowerOpen flag layer env ready)
  | lowerClose => cases hstays
  | lowerTxReady layer env =>
      refine Eq.trans (congrArg (fun result => some (push result []))
        (Layer.withFlag_onLowerTxReady flag layer env)) ?_
      simp [push, Layer.resultWithFlag, withFlag]
  | lowerRxReady layer =>
      simp only [step, withFlag, if_true]
      unfold Layer.onLowerRxReady
      by_cases hopen : layer.base.isOpen = true
      · rw [if_pos hopen, if_pos (by exact hopen)]
        rfl
      · rw [if_neg hopen, if_neg (by exact hopen)]
        rfl
  | @timer layer timer id env hfind hdue =>
      simp only [step, withFlag, if_true]
      rw [show (layer.withFlag flag).initiator = layer.initiator from rfl, hfind]
      simp only [hdue, if_true, Layer.withFlag_onTimer]
  | startRx => exact absurd rfl hother
  | startTx layer data hcall =>
      simp only [step, withFlag, hcall, if_true]
      rw [show (layer.withFlag flag).base = layer.base.withFlag flag from rfl,
        CryptoLayer.withFlag_startTxFromUpper]
      rfl
  | ret => rfl
  | run stack env hrun =>
      have htask := withFlag_runTask flag (fun heq => hunclosed (heq ▸ List.mem_cons_self)) hrun
      simp only [step, withFlag, htask, Option.map_some]
      rfl

end Machine

/-! ## The stack -/

namespace AbstractStack

/-- The crypto layer of a stack, with the flag of the stack in the place of its own. -/
def flagged (stack : AbstractStack) : Machine :=
  stack.machine.withFlag stack.upperIsProcessingRxData

/-- The call does with the flag of the stack what the crypto layer would do with its own. -/
theorem startRxFromUpper_flagged (stack : AbstractStack) :
    stack.startRxFromUpper.flagged =
      Machine.push
        ({ stack.flagged.layer with base := stack.flagged.layer.base.startRxFromUpper.1 },
        stack.flagged.layer.base.startRxFromUpper.2) stack.flagged.stack := by
  obtain ⟨⟨⟨base, initiator⟩, tasks⟩, flag, due⟩ := stack
  obtain ⟨isOpen, processing, active, pending, statistics, txState, payload, upperOpen, ready, rx,
    trace⟩ := base
  cases flag <;> cases payload <;> rfl

theorem startRxFromUpper_unclosed {stack : AbstractStack}
    (hunclosed : .afterClose ∉ stack.machine.stack) :
    .afterClose ∉ stack.startRxFromUpper.machine.stack := by
  simp only [startRxFromUpper]
  split_ifs <;> simpa using hunclosed

theorem step_flagged {cfg : Config} {stack stack' : AbstractStack} {label : Label}
    (hstep : stack.step cfg label = some stack') (hstays : label.closes = false)
    (hunclosed : .afterClose ∉ stack.machine.stack) :
    stack.flagged.step cfg label = some stack'.flagged ∧
      .afterClose ∉ stack'.machine.stack := by
  by_cases hstart : label = .startRx
  · subst hstart
    obtain ⟨hcall, heq⟩ := Option.ite_none_right_eq_some.mp hstep
    cases heq
    refine ⟨?_, startRxFromUpper_unclosed hunclosed⟩
    rw [startRxFromUpper_flagged]
    exact if_pos hcall
  · have hforward : (stack.machine.step cfg label).map (fun machine =>
        (⟨machine, stack.upperIsProcessingRxData,
          stack.due || notified stack.machine.stack machine.stack⟩ : AbstractStack)) =
            some stack' := by
      cases label with
      | startRx => exact absurd rfl hstart
      | _ => exact hstep
    obtain ⟨machine, hmachine, rfl⟩ := Option.map_eq_some_iff.mp hforward
    exact ⟨Machine.withFlag_step _ hmachine hstays hunclosed hstart,
      Machine.unclosed_step hmachine hstays hunclosed⟩

/-- What the stack refuses, the crypto layer refuses. -/
theorem step_flagged_none {cfg : Config} {stack : AbstractStack} {label : Label}
    (hstep : stack.step cfg label = none) (hstays : label.closes = false)
    (hunclosed : .afterClose ∉ stack.machine.stack) : stack.flagged.step cfg label = none := by
  rw [Option.eq_none_iff_forall_ne_some]
  intro machine hmachine
  by_cases hstart : label = .startRx
  · subst hstart
    have hcall : Machine.upperMayCall stack.machine.stack = true :=
      (Option.ite_none_right_eq_some.mp hmachine).1
    rw [step, if_pos hcall] at hstep
    cases hstep
  · -- the flag that the crypto layer has is put back
    have hback := Machine.withFlag_step stack.machine.layer.base.upperIsProcessingRxData hmachine
      hstays hunclosed hstart
    have hsame : stack.flagged.withFlag stack.machine.layer.base.upperIsProcessingRxData =
        stack.machine := rfl
    rw [hsame] at hback
    rw [step.eq_2 cfg stack label hstart, hback] at hstep
    cases hstep

theorem run_flagged {cfg : Config} {labels : List Label} {stack : AbstractStack}
    (hstays : ∀ label ∈ labels, label.closes = false)
    (hunclosed : .afterClose ∉ stack.machine.stack) :
    (stack.run cfg labels).map flagged = stack.flagged.run cfg labels := by
  induction labels generalizing stack with
  | nil => rfl
  | cons label labels ih =>
      have hlabel := hstays label List.mem_cons_self
      cases hstep : stack.step cfg label with
      | none =>
          have hnone := step_flagged_none hstep hlabel hunclosed
          rw [run, Runs.run, hstep, Machine.run, Runs.run, hnone]
          rfl
      | some next =>
          obtain ⟨hnext, hunclosed'⟩ := step_flagged hstep hlabel hunclosed
          rw [run, Runs.run, hstep, Machine.run, Runs.run, hnext]
          exact ih (fun other hmem => hstays other (List.mem_cons_of_mem _ hmem)) hunclosed'

/-- **Forwarding is transparent** as long as the stack is not closed from below.  The same calls are
possible as directly over the crypto layer, and they lead to the same state and the same
observations, with the flag of the stack in the place of the flag of the crypto layer. -/
theorem forwards_while_open (cfg : Config) (labels : List Label)
    (hstays : ∀ label ∈ labels, label.closes = false) :
    (create.run cfg labels).map flagged = Machine.create.run cfg labels :=
  run_flagged hstays List.not_mem_nil

/-- The application reads a message of the sample session and keeps its slice. -/
theorem forwards_while_open_holding :
    (create.run (Sample.responder 1000) holding).isSome = true ∧
      (create.run (Sample.responder 1000) holding).map flagged =
        Machine.create.run (Sample.responder 1000) holding :=
  ⟨by decide +kernel, forwards_while_open (Sample.responder 1000) holding (by decide +kernel)⟩

end AbstractStack

end Ssp21
