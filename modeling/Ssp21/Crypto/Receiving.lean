import Ssp21.Crypto.Coupling
import Ssp21.Crypto.Output

/-!
# What received messages can do

Reading from the lower layer is gated twice: it must be ready to transmit a reply,
and no payload may be waiting for the upper layer.  Three relations between states of
the base class say what the functions of the layer leave alone.

* `KeepsInput`: nothing that decides about reading changes, except that the lower
  layer may have become busy.
* `Quiet`: moreover nothing changes for the upper layer.
* `Confined`: moreover the active session keeps everything but its transmit nonce.

From the first it follows that no wakeup is lost: whenever reading is possible and
an announced message is there, the read loop is still to come (`Attended`).  From
the last it follows that messages without a right tag leave the active session
and the upper layer untouched (`Untouched`).
-/

namespace Ssp21

open Wire

/-- Not about the upper layer being open, and no new payload. -/
def Observation.sheltered : Observation → Bool
  | .opened => false
  | .closed => false
  | .placed _ => false
  | _ => true

/-- Moreover no user data, accepted from below or returned to the upper layer. -/
def Observation.silent : Observation → Bool
  | .read _ => false
  | .accepted _ _ payload => payload.isEmpty
  | observation => observation.sheltered

theorem Observation.sheltered_of_silent {observation : Observation}
    (hsilent : observation.silent = true) : observation.sheltered = true := by
  cases observation with
  | read payload => rfl
  | accepted key message payload => rfl
  | _ => exact hsilent

namespace CryptoLayer

/-- What decides about reading is as before, or the lower layer has become busy. -/
structure KeepsInput (base base' : CryptoLayer) : Prop where
  isOpen : base'.isOpen = base.isOpen
  payloadData : base'.payloadData = base.payloadData
  lowerRx : base'.lowerRx = base.lowerRx
  ready : base'.lowerTxReady = true → base.lowerTxReady = true

namespace KeepsInput

variable {base base' base'' : CryptoLayer}

theorem refl (base : CryptoLayer) : KeepsInput base base :=
  ⟨rfl, rfl, rfl, id⟩

theorem trans (h : KeepsInput base base') (h' : KeepsInput base' base'') :
    KeepsInput base base'' :=
  ⟨h'.isOpen.trans h.isOpen, h'.payloadData.trans h.payloadData, h'.lowerRx.trans h.lowerRx,
    fun hready => h.ready (h'.ready hready)⟩

theorem closeUpper (base : CryptoLayer) : KeepsInput base base.closeUpper.1 := by
  rw [closeUpper_fst]
  exact ⟨rfl, rfl, rfl, id⟩

end KeepsInput

/-- The active session and the upper layer, behind input that neither has seen.  The
upper layer may have read the payload that was there. -/
structure Untouched (base base' : CryptoLayer) : Prop where
  active : ∃ nonce, base'.active = { base.active with txNonce := nonce }
  upperOpen : base'.upperOpen = base.upperOpen
  payloadData : base'.payloadData = base.payloadData ∨ base'.payloadData = []
  trace : ∃ new, base'.trace = base.trace ++ new ∧ ∀ o ∈ new, o.sheltered = true

namespace Untouched

variable {base base' base'' : CryptoLayer}

theorem of_same (hactive : base'.active = base.active) (hupper : base'.upperOpen = base.upperOpen)
    (hpayload : base'.payloadData = base.payloadData ∨ base'.payloadData = [])
    (htrace : base'.trace = base.trace) : Untouched base base' :=
  ⟨⟨base.active.txNonce, hactive⟩, hupper, hpayload, [], by simp [htrace], by simp⟩

theorem trans (h : Untouched base base') (h' : Untouched base' base'') : Untouched base base'' := by
  obtain ⟨nonce', hactive'⟩ := h'.active
  obtain ⟨nonce, hactive⟩ := h.active
  refine ⟨⟨nonce', by rw [hactive', hactive]⟩, h'.upperOpen.trans h.upperOpen, ?_,
    History.extends_trans h.trace h'.trace⟩
  rcases h'.payloadData with hkept | hempty
  · rw [hkept]
    exact h.payloadData
  · exact Or.inr hempty

theorem log (base : CryptoLayer) {observation : Observation}
    (hsheltered : observation.sheltered = true) : Untouched base (base.log observation) :=
  ⟨⟨base.active.txNonce, rfl⟩, rfl, Or.inl rfl, [observation], rfl, by simpa using hsheltered⟩

end Untouched

/-- A change that the upper layer does not see, and that leaves the input alone. -/
structure Quiet (base base' : CryptoLayer) : Prop extends KeepsInput base base' where
  upperOpen : base'.upperOpen = base.upperOpen
  trace : ∃ new, base'.trace = base.trace ++ new ∧ ∀ o ∈ new, o.silent = true

namespace Quiet

variable {base base' base'' : CryptoLayer}

theorem of_same (hkeeps : KeepsInput base base') (hupper : base'.upperOpen = base.upperOpen)
    (htrace : base'.trace = base.trace) : Quiet base base' :=
  ⟨hkeeps, hupper, [], by simp [htrace], by simp⟩

theorem trans (h : Quiet base base') (h' : Quiet base' base'') : Quiet base base'' :=
  ⟨h.toKeepsInput.trans h'.toKeepsInput, h'.upperOpen.trans h.upperOpen,
    History.extends_trans h.trace h'.trace⟩

theorem log (base : CryptoLayer) {observation : Observation}
    (hsilent : observation.silent = true) : Quiet base (base.log observation) :=
  ⟨⟨rfl, rfl, rfl, id⟩, rfl, [observation], rfl, by simpa using hsilent⟩

theorem activatePending (base : CryptoLayer) : Quiet base base.activatePending :=
  ⟨⟨rfl, rfl, rfl, id⟩, rfl, [.activated base.pending], rfl, by simp [Observation.silent,
    Observation.sheltered]⟩

end Quiet

/-- A quiet change that also leaves the active session alone. -/
structure Confined (base base' : CryptoLayer) : Prop extends Quiet base base' where
  active : ∃ nonce, base'.active = { base.active with txNonce := nonce }

namespace Confined

variable {base base' base'' : CryptoLayer}

theorem untouched (h : Confined base base') : Untouched base base' := by
  obtain ⟨new, htrace, hnew⟩ := h.trace
  exact ⟨h.active, h.upperOpen, Or.inl h.payloadData, new, htrace,
    fun o hmem => Observation.sheltered_of_silent (hnew o hmem)⟩

theorem of_same (hkeeps : KeepsInput base base') (hupper : base'.upperOpen = base.upperOpen)
    (htrace : base'.trace = base.trace) (hactive : base'.active = base.active) :
    Confined base base' :=
  ⟨.of_same hkeeps hupper htrace, base.active.txNonce, hactive⟩

theorem refl (base : CryptoLayer) : Confined base base :=
  .of_same (.refl base) rfl rfl rfl

theorem trans (h : Confined base base') (h' : Confined base' base'') : Confined base base'' := by
  obtain ⟨nonce, hactive⟩ := h.active
  obtain ⟨nonce', hactive'⟩ := h'.active
  exact ⟨h.toQuiet.trans h'.toQuiet, nonce', by rw [hactive', hactive]⟩

theorem log (base : CryptoLayer) {observation : Observation}
    (hsilent : observation.silent = true) : Confined base (base.log observation) :=
  ⟨.log base hsilent, base.active.txNonce, rfl⟩

/-- The pending session, the statistics and the state of the transmission. -/
theorem internal (base : CryptoLayer) (pending : Session) (stats : SessionStatistics)
    (txState : TxState) :
    Confined base { base with pending := pending, statistics := stats, txState := txState } :=
  .of_same ⟨rfl, rfl, rfl, id⟩ rfl rfl rfl

theorem sent (base : CryptoLayer) (transmission : Transmission) :
    Confined base (base.sent transmission) := by
  have hbusy : Confined base { base with lowerTxReady := false } :=
    .of_same ⟨rfl, rfl, rfl, nofun⟩ rfl rfl rfl
  exact hbusy.trans (.log _ rfl)

theorem lowerStartTx (base : CryptoLayer) (transmission : Transmission) :
    Confined base (base.lowerStartTx transmission).2 := by
  unfold CryptoLayer.lowerStartTx
  split_ifs
  · exact .sent base transmission
  · exact .log base rfl

/-- A frame of either session moves the transmit nonce and the transmission. -/
theorem sentSession (base : CryptoLayer) (slot : Slot) (rest : Bytes)
    (formatted : Session.Formatted) : Confined base (base.sentSession slot rest formatted) := by
  refine Confined.trans ?_ (.sent _ _)
  cases slot with
  | active => exact ⟨.of_same ⟨rfl, rfl, rfl, id⟩ rfl rfl, _, rfl⟩
  | pending => exact .of_same ⟨rfl, rfl, rfl, id⟩ rfl rfl rfl

theorem notifyTxReady (base : CryptoLayer) : Confined base base.notifyTxReady.1 := by
  unfold CryptoLayer.notifyTxReady
  split_ifs
  · exact .log base rfl
  · exact .refl base

theorem notifyRxReady (base : CryptoLayer) : Confined base base.notifyRxReady.1 := by
  unfold CryptoLayer.notifyRxReady
  split_ifs
  · exact .log base rfl
  · exact .refl base

theorem logVerified (ctx : SessionContext) (session : Session) (msg : SessionData)
    (base : CryptoLayer) : Confined base (base.logVerified ctx session msg) := by
  unfold CryptoLayer.logVerified
  split
  · exact .log base rfl
  · exact .refl base

theorem transmitSessionAuth (ctx : SessionContext) (hready : base.lowerTxReady = true)
    (slot : Slot) (now : Time) : Confined base (base.transmitSessionAuth ctx slot now).2 := by
  rcases transmitSessionAuth_cases ctx hready slot now with
    ⟨rest, formatted, -, -, heq⟩ | ⟨e, -, heq⟩
  · rw [heq]
    exact .sentSession base slot rest formatted
  · rw [heq]
    exact .log base rfl

end Confined

end CryptoLayer

/-! ## The functions of the layer -/

namespace Layer

open CryptoLayer (Confined KeepsInput)

variable {cfg : Config} {ctx : SessionContext} {config : InitiatorConfig} {layer layer' : Layer}

/-- What a handshake does is confined. -/
theorem handshakes_confined (ctx : SessionContext) : HandshakeRules ctx Confined where
  refl := .refl
  trans := .trans
  drew base _ := .log base rfl
  initialized base _ := .log base rfl
  settle base pending stats := .internal base pending stats base.txState
  start base _ := fun _ => .lowerStartTx base _
  auth now hready := .transmitSessionAuth ctx hready .pending now

end Layer

/-! ## Messages without a right tag -/

namespace CryptoLayer

/-- The tag of a message is right under the receive key of one of the sessions. -/
def authentic (ctx : SessionContext) (base : CryptoLayer) (msg : SessionData) : Bool :=
  [base.active, base.pending].any (fun session => session.valid &&
    (SessionMode.read ctx.backend session.algorithms.sessionMode session.keys.rxKey msg
      ctx.payloadBufferLength).toOption.isSome)

theorem not_accepts {ctx : SessionContext} {base : CryptoLayer} {msg : SessionData}
    (hauth : base.authentic ctx msg = false) (slot : Slot) {verifyNonce : UInt16 → UInt16 → Bool}
    {now : Time} {payload : Bytes} :
    ¬ Session.Accepts ctx verifyNonce (base.session slot) msg now payload := by
  intro haccepts
  have hmem : base.session slot ∈ [base.active, base.pending] := by
    cases slot <;> simp [session]
  have hall := List.any_eq_false.mp hauth _ hmem
  rw [haccepts.valid, haccepts.authentic] at hall
  exact hall rfl

end CryptoLayer

namespace Layer

open CryptoLayer (Confined KeepsInput Untouched)

variable {cfg : Config} {ctx : SessionContext} {config : InitiatorConfig} {layer : Layer}
  {msg : SessionData}

/-- The effect of a function is confined, and it leaves nothing to do. -/
def Shrugs (base : CryptoLayer) (result : Layer × List Task) : Prop :=
  Confined base result.1.base ∧ result.2 = []

theorem onAuthMessage_shrugs (hauth : layer.base.authentic ctx msg = false) (env : Env) :
    Shrugs layer.base (layer.onAuthMessage ctx config env msg) := by
  unfold onAuthMessage
  split_ifs
  · exact ⟨.refl _, rfl⟩
  · rcases Session.validateSessionAuth_cases ctx layer.base.pending
      (layer.base.logVerified ctx layer.base.pending msg).statistics msg env.now with
      ⟨payload, stats', haccepts, -⟩ | ⟨e, stats', heq⟩
    · exact absurd haccepts (CryptoLayer.not_accepts hauth .pending)
    · simp only [heq]
      exact ⟨(Confined.logVerified ctx _ msg layer.base).trans (.internal _ _ _ _), rfl⟩

theorem onAuthSession_shrugs (hauth : layer.base.authentic ctx msg = false) (env : Env) :
    Shrugs layer.base (layer.onAuthSession ctx env msg) := by
  unfold onAuthSession
  split_ifs
  · exact ⟨(handshakes_confined _).replyWithHandshakeError _ _ _, rfl⟩
  · rcases Session.validateSessionAuth_cases ctx layer.base.pending
      (layer.base.logVerified ctx layer.base.pending msg).statistics msg env.now with
      ⟨payload, stats', haccepts, -⟩ | ⟨e, stats', heq⟩
    · exact absurd haccepts (CryptoLayer.not_accepts hauth .pending)
    · simp only [heq]
      exact ⟨(Confined.logVerified ctx _ msg layer.base).trans (.internal _ _ _ _), rfl⟩

theorem onSessionData_shrugs (hauth : layer.base.authentic cfg.ctx msg = false) (env : Env) :
    Shrugs layer.base (layer.onSessionData cfg env msg) := by
  unfold onSessionData
  rcases Session.validateSessionData_cases cfg.ctx layer.base.active
    (layer.base.logVerified cfg.ctx layer.base.active msg).statistics msg env.now with
    ⟨payload, stats', -, haccepts, -⟩ | ⟨stats', haccepts, -⟩ | ⟨e, stats', heq⟩
  · exact absurd haccepts (CryptoLayer.not_accepts hauth .active)
  · exact absurd haccepts (CryptoLayer.not_accepts hauth .active)
  · simp only [heq]
    have hlogged := Confined.logVerified cfg.ctx layer.base.active msg layer.base
    obtain ⟨trace, htrace⟩ := logVerified_eq cfg.ctx layer.base.active msg layer.base
    rw [htrace] at hlogged ⊢
    exact ⟨hlogged.trans (.internal _ layer.base.pending stats' layer.base.txState), rfl⟩

/-- **A message without a right tag** has a confined effect, whatever its function is. -/
theorem process_shrugs (hready : layer.base.lowerTxReady = true) (env : Env) (message : Bytes)
    (hauth : ∀ msg, SessionData.read message = .ok msg →
      layer.base.authentic cfg.ctx msg = false) :
    Shrugs layer.base (layer.process cfg env message) := by
  unfold process
  split
  · exact ⟨.refl _, rfl⟩
  · split
    · split
      · exact ⟨.refl _, rfl⟩
      · exact ⟨(handshakes_confined _).onReplyMessage hready env _ _, rfl⟩
    · split
      · exact ⟨.refl _, rfl⟩
      · exact ⟨(handshakes_confined cfg.ctx).onErrorMessage env, rfl⟩
    · split
      · exact ⟨(handshakes_confined _).replyWithHandshakeError _ _ _, rfl⟩
      · exact ⟨(handshakes_confined _).onRequest _ env _ _, rfl⟩
    · split
      · exact ⟨.refl _, rfl⟩
      · rename_i msg hmsg
        unfold onSessionMessage
        split_ifs
        · split
          · exact onAuthMessage_shrugs (hauth msg hmsg) env
          · exact onAuthSession_shrugs (hauth msg hmsg) env
        · exact onSessionData_shrugs (hauth msg hmsg) env
    · exact ⟨.refl _, rfl⟩

/-- The read loop goes on behind such a message, and does nothing else. -/
theorem tryReadFromLower_untouched (env : Env)
    (hauth : layer.base.canRead → ∀ message ∈ layer.base.lowerRx.head?,
      ∀ msg ∈ (SessionData.read message).toOption, layer.base.authentic cfg.ctx msg = false) :
    Untouched layer.base (layer.tryReadFromLower cfg env).1.base ∧
      ∀ task ∈ (layer.tryReadFromLower cfg env).2, task = .tryReadFromLower := by
  have hrefl : Untouched layer.base layer.base := (Confined.refl _).untouched
  unfold tryReadFromLower
  split_ifs with hguard
  · exact ⟨hrefl, by simp⟩
  · have hread := CryptoLayer.canRead_of_guard hguard
    split
    · exact ⟨hrefl, by simp⟩
    · rename_i message messages hrx
      have hpopped : Untouched layer.base { layer.base with lowerRx := messages } :=
        .of_same rfl rfl (Or.inl rfl) rfl
      split_ifs
      · exact ⟨hpopped, by simp⟩
      · have hshrugs := @process_shrugs cfg
          { layer with base := { layer.base with lowerRx := messages } } hread.1 env message (by
            intro msg hmsg
            exact hauth hread message (by rw [hrx]; rfl) msg (by rw [hmsg]; rfl))
        refine ⟨hpopped.trans hshrugs.1.untouched, ?_⟩
        simp only [hshrugs.2]
        simp

/-- Transmission of user data that can be formatted. -/
theorem checkTransmit_shrugs {env : Env}
    (hfits : layer.base.canTransmitSessionData = true →
      layer.base.active.txNonce < layer.base.active.parameters.maxNonce ∧
        layer.base.active.CanFormat cfg.ctx env.now layer.base.txState.remainder) :
    Shrugs layer.base (layer.checkTransmit cfg env) := by
  unfold checkTransmit
  split_ifs with hguard
  · exact ⟨.refl _, rfl⟩
  · have hready : layer.base.canTransmitSessionData = true := by simpa using hguard
    obtain ⟨hnonce, hcan⟩ := hfits hready
    obtain ⟨hvalid, hlower⟩ := CryptoLayer.ready_of_canTransmit hready
    rcases Session.formatSessionData_cases cfg.ctx layer.base.active env.now
      layer.base.txState.remainder with ⟨rest, formatted, -, -, heq⟩ | ⟨rest, e, heq⟩
    · simp only [heq]
      rw [CryptoLayer.lowerStartTx_ready (by exact hlower)]
      exact ⟨(Confined.sentSession layer.base .active rest formatted).trans
        ((handshakes_confined _).onSessionNonceChange _ _ env), rfl⟩
    · obtain ⟨formatted, hok⟩ := Session.formatSessionData_ok hvalid hnonce hcan
      rw [heq] at hok
      cases hok

theorem onLowerOpen_untouched (env : Env) (ready : Bool) :
    Untouched layer.base (layer.onLowerOpen cfg env ready).base := by
  unfold onLowerOpen
  split_ifs
  · exact (Confined.refl _).untouched
  · have hopened : Untouched layer.base
        { layer.base with isOpen := true, lowerTxReady := ready } :=
      .of_same rfl rfl (Or.inl rfl) rfl
    split
    · exact hopened.trans ((handshakes_confined _).onHandshakeRequired _ _ env env.now).untouched
    · exact hopened

theorem onLowerTxReady_untouched (env : Env) :
    Untouched layer.base (layer.onLowerTxReady cfg env).1.base := by
  have hready : Untouched layer.base { layer.base with lowerTxReady := true } :=
    .of_same rfl rfl (Or.inl rfl) rfl
  have hcompleted : Untouched layer.base
      ({ layer.base with lowerTxReady := true }.log .completed) :=
    hready.trans (.log _ rfl)
  have hcomplete : Untouched layer.base layer.base.complete :=
    hcompleted.trans (Confined.internal _ layer.base.pending layer.base.statistics _).untouched
  have hpre : Untouched layer.base
      (onPreTxReady cfg env { layer with base := layer.base.complete }).base :=
    hcomplete.trans ((handshakes_confined _).onPreTxReady _ _ env).untouched
  unfold onLowerTxReady
  dsimp only
  split_ifs
  · exact hcompleted
  · exact hpre.trans (Confined.notifyTxReady _).untouched
  · exact hpre

/-- A call may drop the payload that was read before, and read the next one. -/
theorem startRxFromUpper_untouched (base : CryptoLayer) :
    Untouched base base.startRxFromUpper.1 ∧
      ∀ task ∈ base.startRxFromUpper.2, task = .tryReadFromLower := by
  unfold CryptoLayer.startRxFromUpper
  dsimp only
  split_ifs with hflag hempty hempty
  · exact ⟨.of_same rfl rfl (Or.inr rfl) rfl, by simp⟩
  · simp at hempty
  · exact ⟨(Confined.refl base).untouched, by simp⟩
  · have hlent : Untouched base { base with upperIsProcessingRxData := true } :=
      .of_same rfl rfl (Or.inl rfl) rfl
    exact ⟨hlent.trans (.log _ rfl), by simp⟩

theorem startTxFromUpper_untouched (base : CryptoLayer) (data : Bytes) :
    Untouched base (base.startTxFromUpper data).1 := by
  unfold CryptoLayer.startTxFromUpper
  split_ifs
  · have hstarted : Untouched base { base with txState := TxState.initializeWith data } :=
      .of_same rfl rfl (Or.inl rfl) rfl
    exact hstarted.trans (.log _ rfl)
  · exact (Confined.refl base).untouched

end Layer

/-! ## Steps and runs -/

/-- Whether a label lets user data be transmitted. -/
def Label.sends : Label → Bool
  | .lowerTxReady _ => true
  | .startTx _ => true
  | _ => false

def Label.closes : Label → Bool
  | .lowerClose _ => true
  | _ => false

namespace Machine

open CryptoLayer (Confined Untouched)

/-- If the step processes a message, then not one with a right tag: neither one that is
read now, nor the rest of an accepted one. -/
def Unauthenticated (cfg : Config) (machine : Machine) : Label → Prop
  | .run _ =>
      match machine.stack with
      | .tryReadFromLower :: _ =>
          machine.layer.base.canRead → ∀ message ∈ machine.layer.base.lowerRx.head?,
            ∀ msg ∈ (SessionData.read message).toOption,
              machine.layer.base.authentic cfg.ctx msg = false
      | .authPayload payload :: _ => payload = []
      | _ => True
  | _ => True

instance (cfg : Config) (machine : Machine) (label : Label) :
    Decidable (machine.Unauthenticated cfg label) :=
  match label with
  | .run _ =>
      match h : machine.stack with
      | .tryReadFromLower :: _ =>
          decidable_of_iff (machine.layer.base.canRead →
            ∀ message ∈ machine.layer.base.lowerRx.head?,
            ∀ msg ∈ (SessionData.read message).toOption,
              machine.layer.base.authentic cfg.ctx msg = false) (by simp only [Unauthenticated, h])
      | .authPayload payload :: _ =>
          decidable_of_iff (payload = []) (by simp only [Unauthenticated, h])
      | [] => isTrue (by simp only [Unauthenticated, h])
      | .upper _ :: _ => isTrue (by simp only [Unauthenticated, h])
      | .checkTransmit :: _ => isTrue (by simp only [Unauthenticated, h])
      | .enterIdle :: _ => isTrue (by simp only [Unauthenticated, h])
      | .afterClose :: _ => isTrue (by simp only [Unauthenticated, h])
  | .receive _ | .lowerOpen _ _ | .lowerClose _ | .lowerTxReady _ | .lowerRxReady | .timer _ _
  | .startRx | .startTx _ | .ret => isTrue trivial

/-- A step that neither processes an authentic message nor closes the layer leaves the
active session and the upper layer alone, and user data is transmitted only behind a
label that says so. -/
theorem step_untouched {cfg : Config} {machine machine' : Machine} {label : Label}
    (hauth : machine.Unauthenticated cfg label) (hfits : machine.DataFits cfg label)
    (hclose : label.closes = false) (hstep : machine.step cfg label = some machine') :
    Untouched machine.layer.base machine'.layer.base ∧
      (label.sends = false → .checkTransmit ∉ machine.stack → .checkTransmit ∉ machine'.stack) := by
  cases steps_of_step hstep with
  | receive => exact ⟨.of_same rfl rfl (Or.inl rfl) rfl, fun _ hnot => hnot⟩
  | lowerOpen layer ready env => exact ⟨Layer.onLowerOpen_untouched env ready, by simp⟩
  | lowerClose => cases hclose
  | lowerTxReady layer env => exact ⟨Layer.onLowerTxReady_untouched env, nofun⟩
  | lowerRxReady layer =>
      rw [show layer.onLowerRxReady.1 = layer by unfold Layer.onLowerRxReady; split_ifs <;> rfl]
      refine ⟨(Confined.refl _).untouched, fun _ _ => ?_⟩
      unfold Layer.onLowerRxReady
      split_ifs <;> simp
  | timer env => exact ⟨((Layer.handshakes_confined _).onTimer env _).untouched, by simp⟩
  | startRx layer hcall =>
      obtain ⟨huntouched, htasks⟩ := Layer.startRxFromUpper_untouched layer.base
      refine ⟨huntouched, fun _ hnot hmem => ?_⟩
      rcases List.mem_append.mp hmem with hmem | hmem
      · cases htasks _ hmem
      · exact hnot hmem
  | startTx layer data => exact ⟨Layer.startTxFromUpper_untouched layer.base data, nofun⟩
  | ret =>
      exact ⟨(Confined.refl _).untouched, fun _ hnot hmem => hnot (List.mem_cons_of_mem _ hmem)⟩
  | @run layer task result stack env hrun =>
      -- what is below the task that runs stays there
      suffices h : Untouched layer.base result.1.base ∧ (task ≠ .checkTransmit →
          .checkTransmit ∉ result.2) by
        refine ⟨h.1, fun _ hnot hmem => ?_⟩
        have hne : task ≠ .checkTransmit := by
          rintro rfl
          exact hnot List.mem_cons_self
        rcases List.mem_append.mp hmem with hmem | hmem
        · exact h.2 hne hmem
        · exact hnot (List.mem_cons_of_mem _ hmem)
      cases Layer.ran_of_runTask hrun with
      | tryReadFromLower =>
          obtain ⟨huntouched, htasks⟩ := Layer.tryReadFromLower_untouched env hauth
          refine ⟨huntouched, fun _ hmem => ?_⟩
          cases htasks _ hmem
      | checkTransmit =>
          obtain ⟨hconfined, -⟩ := Layer.checkTransmit_shrugs (hfits env rfl rfl)
          exact ⟨hconfined.untouched, fun hne => absurd rfl hne⟩
      | noPayload => exact ⟨(Confined.refl _).untouched, by simp⟩
      | authPayload hne => exact absurd hauth hne
      | enterIdle => exact ⟨(Confined.refl _).untouched, by simp⟩
      | afterClose => exact ⟨.of_same rfl rfl (Or.inl rfl) rfl, by simp⟩

/-- Without labels that send, and without a transmission that is due, no user data is
transmitted in a run. -/
theorem dataFits_of_silent {cfg : Config} {labels : List Label} {machine : Machine}
    (hauth : Runs.Along (step cfg) (Unauthenticated cfg) machine labels)
    (hclose : ∀ label ∈ labels, label.closes = false)
    (hsilent : ∀ label ∈ labels, label.sends = false) (hnot : .checkTransmit ∉ machine.stack) :
    Runs.Along (step cfg) (DataFits cfg) machine labels := by
  induction labels generalizing machine with
  | nil => exact trivial
  | cons label labels ih =>
      have hfits : machine.DataFits cfg label := by
        intro env _ hhead
        exact absurd (List.mem_of_mem_head? hhead) hnot
      refine ⟨hfits, fun next hstep => ?_⟩
      have hnot' := (step_untouched hauth.1 hfits (hclose label List.mem_cons_self) hstep).2
        (hsilent label List.mem_cons_self) hnot
      exact ih (hauth.2 next hstep) (fun l hmem => hclose l (List.mem_cons_of_mem _ hmem))
        (fun l hmem => hsilent l (List.mem_cons_of_mem _ hmem)) hnot'

theorem run_untouched {cfg : Config} {labels : List Label} {machine machine' : Machine}
    (hrun : machine.run cfg labels = some machine')
    (hauth : Runs.Along (step cfg) (Unauthenticated cfg) machine labels)
    (hclose : ∀ label ∈ labels, label.closes = false)
    (hfits : Runs.Along (step cfg) (DataFits cfg) machine labels) :
    Untouched machine.layer.base machine'.layer.base := by
  induction labels generalizing machine with
  | nil =>
      cases hrun
      exact (Confined.refl _).untouched
  | cons label labels ih =>
      obtain ⟨next, hstep, hrest⟩ := Runs.run_cons hrun
      have hfirst := (step_untouched hauth.1 hfits.1 (hclose label List.mem_cons_self) hstep).1
      exact hfirst.trans (ih hrest (hauth.2 next hstep)
        (fun l hmem => hclose l (List.mem_cons_of_mem _ hmem)) (hfits.2 next hstep))

/-- **Unauthenticated input cannot touch the active session**, as long as user data that is to be
transmitted can be formatted.  From any state, through any events but a close and any messages
without a right tag: the active session keeps its validity, keys, parameters, algorithms and receive
nonce, no payload is placed, and the upper layer is neither opened nor closed. -/
theorem unauthenticated_untouched (cfg : Config) {labels : List Label} {machine machine' : Machine}
    (hrun : machine.run cfg labels = some machine')
    (hauth : Runs.Along (step cfg) (Unauthenticated cfg) machine labels)
    (hclose : ∀ label ∈ labels, label.closes = false)
    (hsends : (.checkTransmit ∉ machine.stack ∧ ∀ label ∈ labels, label.sends = false) ∨
      Runs.Along (step cfg) (DataFits cfg) machine labels) :
    let base := machine.layer.base
    let base' := machine'.layer.base
    (base'.active.valid = base.active.valid ∧ base'.active.keys = base.active.keys ∧
      base'.active.parameters = base.active.parameters ∧
      base'.active.algorithms = base.active.algorithms ∧
      base'.active.rxNonce = base.active.rxNonce) ∧
    (base'.payloadData = base.payloadData ∨ base'.payloadData = []) ∧
    base'.upperOpen = base.upperOpen ∧
    ∃ new, base'.trace = base.trace ++ new ∧
      .opened ∉ new ∧ .closed ∉ new ∧ ∀ payload, .placed payload ∉ new := by
  have hfits : Runs.Along (step cfg) (DataFits cfg) machine labels := by
    rcases hsends with ⟨hnot, hsilent⟩ | hfits
    · exact dataFits_of_silent hauth hclose hsilent hnot
    · exact hfits
  have huntouched := run_untouched hrun hauth hclose hfits
  obtain ⟨nonce, hactive⟩ := huntouched.active
  obtain ⟨new, htrace, hnew⟩ := huntouched.trace
  refine ⟨?_, huntouched.payloadData, huntouched.upperOpen, new, htrace, ?_, ?_, ?_⟩
  · rw [hactive]
    exact ⟨rfl, rfl, rfl, rfl, rfl⟩
  · intro hmem
    cases hnew _ hmem
  · intro hmem
    cases hnew _ hmem
  · intro payload hmem
    cases hnew _ hmem

/-- A responder with an active session is sent a request, a message of no known function
and a session message with a wrong tag. -/
def intruding : List Label :=
  let limits : SessionLimits := ⟨100, 60000⟩
  [.lowerTxReady (Sample.env 2), .run (Sample.env 2), .run (Sample.env 2),
    .receive (Sample.request limits), .receive [9, 9],
    .receive ((Sample.auth limits).dropLast ++ [0]),
    .lowerRxReady, .run (Sample.env 3), .run (Sample.env 3), .lowerTxReady (Sample.env 3),
    .run (Sample.env 3), .run (Sample.env 3), .run (Sample.env 3), .run (Sample.env 3)]

def intruded : Machine :=
  ((Sample.reached (Sample.responder 1000) Coupled.answering).run (Sample.responder 1000)
    intruding).getD create

theorem intruding_run : (Sample.reached (Sample.responder 1000) Coupled.answering).run
    (Sample.responder 1000) intruding = some intruded := by
  decide +kernel

theorem unauthenticated_untouched_sample :
    let base := (Sample.reached (Sample.responder 1000) Coupled.answering).layer.base
    let base' := intruded.layer.base
    base.active.valid = true ∧ base'.pending ≠ base.pending ∧ base'.lowerRx = [] ∧
      base'.active.keys = base.active.keys ∧ base'.upperOpen = base.upperOpen := by
  obtain ⟨⟨-, hkeys, -⟩, -, hupper, -⟩ := unauthenticated_untouched (Sample.responder 1000)
    intruding_run (by decide +kernel) (by decide +kernel) (Or.inr (by decide +kernel))
  exact ⟨by decide +kernel, by decide +kernel, by decide +kernel, hkeys, hupper⟩

/-- The upper layer has submitted data behind the answer to the auth message, in a session of three
seconds. -/
def holding : List Label :=
  Sample.opening ⟨100, 3000⟩ ++ [.startTx [1, 2, 3], .run (Sample.env 2), .ret,
    .run (Sample.env 2), .run (Sample.env 2)]

/-- The lower layer is ready at a time in milliseconds, and so many tasks are carried out. -/
def readyAt (ms : UInt32) (tasks : Nat) : List Label :=
  let env := { Sample.env 3 with now := milliseconds ms, later := milliseconds ms }
  .lowerTxReady env :: List.replicate tasks (.run env)

/-- Whenever the lower layer is ready there is a request to be read, and the reply takes the lower
layer before the data does. -/
def delaying : List Label :=
  let request := Sample.request ⟨100, 60000⟩
  .receive request :: .receive request :: (readyAt 800 3 ++ readyAt 1600 3 ++ readyAt 2400 2)

/-- Two requests that anyone can send hold the data back until the session is too old for it.  The
session is reset and the upper layer closed; without the requests the data goes out. -/
theorem closed_by_unauthenticated_requests :
    let cfg := Sample.responder 1000
    let start := Sample.reached cfg holding
    let delayed := Sample.reached cfg (holding ++ delaying)
    let prompt := Sample.reached cfg (holding ++ readyAt 800 2)
    (create.run cfg holding = some start ∧ start.run cfg delaying = some delayed ∧
      start.run cfg (readyAt 800 2) = some prompt) ∧
    Runs.Along (step cfg) (Unauthenticated cfg) start delaying ∧
    (∀ label ∈ delaying, label.closes = false) ∧
    (start.layer.base.active.valid = true ∧ start.layer.base.upperOpen = true) ∧
    (delayed.layer.base.active.valid = false ∧ delayed.layer.base.upperOpen = false) ∧
    (prompt.layer.base.active.valid = true ∧ prompt.layer.base.upperOpen = true ∧
      prompt.layer.base.txState = ⟨true, []⟩) := by
  decide +kernel

end Machine

/-! ## What a message does for the upper layer -/

/-- The responder accepts an auth message, and cannot format the answer. -/
structure Layer.Unanswered (cfg : Config) (env : Env) (layer : Layer) (msg : SessionData)
    (payload : Bytes) : Prop where
  responder : cfg.role.isResponder = true
  auth : msg.metadata.nonce = 0
  accepts : Session.Accepts cfg.ctx SessionNonceMode.equalToZero layer.base.pending msg env.now
    payload
  error : ∃ e, (layer.base.pending.formatSessionAuth cfg.ctx env.later
    layer.base.txState.remainder).result = .error e

/-- The effect of a message on the upper layer, with the tasks it leaves: none, a payload
that is placed and announced, or an upper layer that is opened before the payload of an
auth message is placed.  A payload that `mayDrop` allows is accepted and dropped. -/
inductive Delivers (mayDrop : Bytes → Prop) (base : CryptoLayer) : CryptoLayer → List Task → Prop
  | nothing {base' : CryptoLayer} (hquiet : base.Quiet base') : Delivers mayDrop base base' []
  | data {middle base' : CryptoLayer} (key : Bytes) (msg : SessionData) (payload : Bytes)
      (hpayload : payload ≠ []) (hbefore : base.Quiet middle)
      (hafter : ((middle.log (.accepted key msg payload)).placePayload payload).Quiet base') :
      Delivers mayDrop base base'.notifyRxReady.1 base'.notifyRxReady.2
  | auth {middle base' : CryptoLayer} (key : Bytes) (msg : SessionData) (payload : Bytes)
      (rest : List Task) (hrest : rest = [] ∨ rest = [.enterIdle]) (hbefore : base.Quiet middle)
      (hafter : (middle.log (.accepted key msg payload)).Quiet base') :
      Delivers mayDrop base base'.openUpper.1 (base'.openUpper.2 ++ .authPayload payload :: rest)
  | dropped {middle base' : CryptoLayer} (key : Bytes) (msg : SessionData) (payload : Bytes)
      (hdrop : mayDrop payload) (hbefore : base.Quiet middle)
      (hafter : (middle.log (.accepted key msg payload)).Quiet base') :
      Delivers mayDrop base base' []

/-- The other messages stay where they are. -/
theorem Delivers.lowerRx {mayDrop : Bytes → Prop} {base base' : CryptoLayer} {tasks : List Task}
    (hdelivers : Delivers mayDrop base base' tasks) : base'.lowerRx = base.lowerRx := by
  cases hdelivers with
  | nothing hquiet => exact hquiet.lowerRx
  | data key msg payload hpayload hbefore hafter =>
      exact ((CryptoLayer.Confined.notifyRxReady _).lowerRx.trans hafter.lowerRx).trans
        hbefore.lowerRx
  | auth key msg payload rest hrest hbefore hafter =>
      rw [CryptoLayer.openUpper_fst]
      exact hafter.lowerRx.trans hbefore.lowerRx
  | dropped key msg payload hdrop hbefore hafter => exact hafter.lowerRx.trans hbefore.lowerRx

namespace Layer

open CryptoLayer (Confined KeepsInput Quiet)

variable {cfg : Config} {mayDrop : Bytes → Prop} {layer : Layer}

theorem checkTransmit_keepsInput (env : Env) :
    KeepsInput layer.base (layer.checkTransmit cfg env).1.base := by
  unfold checkTransmit
  dsimp only
  split_ifs
  · exact .refl _
  · split
    · have hfailed : KeepsInput layer.base
          { layer.base.log .dataFormatFailed with active := layer.base.active.reset } :=
        ⟨rfl, rfl, rfl, id⟩
      exact hfailed.trans (.closeUpper _)
    · have hsent : KeepsInput layer.base { layer.base with
          active := (layer.base.active.formatSessionData cfg.ctx env.now
            layer.base.txState.remainder).session
          txState := layer.base.txState.beginTransmit (layer.base.active.formatSessionData cfg.ctx
            env.now layer.base.txState.remainder).remainder } := ⟨rfl, rfl, rfl, id⟩
      exact (hsent.trans (Confined.lowerStartTx _ _).toKeepsInput).trans
        ((handshakes_confined _).onSessionNonceChange _ _ env).toKeepsInput

theorem onAuthMessage_delivers (ctx : SessionContext) (config : InitiatorConfig) (env : Env)
    (msg : SessionData) :
    Delivers mayDrop layer.base (layer.onAuthMessage ctx config env msg).1.base
      (layer.onAuthMessage ctx config env msg).2 := by
  have hlogged := (Confined.logVerified ctx layer.base.pending msg layer.base).toQuiet
  unfold onAuthMessage
  dsimp only
  split_ifs
  · exact .nothing (Confined.refl _).toQuiet
  · split
    · exact .nothing (hlogged.trans (.of_same ⟨rfl, rfl, rfl, id⟩ rfl rfl))
    · rename_i payload pending stats _
      have hchecked : Quiet layer.base { layer.base.logVerified ctx layer.base.pending msg with
          pending := pending, statistics := stats } :=
        hlogged.trans (.of_same ⟨rfl, rfl, rfl, id⟩ rfl rfl)
      exact .auth _ msg payload [.enterIdle] (Or.inr rfl) hchecked (.activatePending _)

theorem onAuthSession_delivers (hready : layer.base.lowerTxReady = true) (env : Env)
    (msg : SessionData) (hresponder : cfg.role.isResponder = true) (hnonce : msg.metadata.nonce = 0)
    (hdrop : ∀ payload, layer.Unanswered cfg env msg payload → mayDrop payload) :
    Delivers mayDrop layer.base (layer.onAuthSession cfg.ctx env msg).1.base
      (layer.onAuthSession cfg.ctx env msg).2 := by
  have hlogged := (Confined.logVerified cfg.ctx layer.base.pending msg layer.base).toQuiet
  obtain ⟨trace, htrace⟩ := logVerified_eq cfg.ctx layer.base.pending msg layer.base
  unfold onAuthSession
  dsimp only
  split_ifs
  · exact .nothing ((handshakes_confined _).replyWithHandshakeError _ _ _).toQuiet
  · rcases Session.validateSessionAuth_cases cfg.ctx layer.base.pending
      (layer.base.logVerified cfg.ctx layer.base.pending msg).statistics msg env.now with
      ⟨payload, stats', haccepts, heq⟩ | ⟨e, stats', heq⟩
    · simp only [heq]
      have hchecked : Quiet layer.base { layer.base.logVerified cfg.ctx layer.base.pending msg with
          pending := { layer.base.pending with rxNonce := msg.metadata.nonce }
          statistics := stats' } :=
        hlogged.trans (.of_same ⟨rfl, rfl, rfl, id⟩ rfl rfl)
      generalize hactivated : CryptoLayer.activatePending _ = activated
      have hready' : activated.lowerTxReady = true := by
        rw [← hactivated, htrace]
        exact hready
      rcases CryptoLayer.transmitSessionAuth_cases cfg.ctx hready' .active env.later with
        ⟨rest, formatted, -, -, hsent⟩ | ⟨e, herror, hsent⟩
      · rw [hsent]
        refine .auth layer.base.pending.keys.rxKey msg payload [] (Or.inl rfl) hchecked
          (Quiet.trans ?_ (Confined.sentSession _ _ _ _).toQuiet)
        rw [← hactivated]
        exact .activatePending _
      · rw [hsent]
        refine .dropped layer.base.pending.keys.rxKey msg payload
          (hdrop payload ⟨hresponder, hnonce, haccepts, e, ?_⟩) hchecked
          (Quiet.trans ?_ (.log _ rfl))
        · rw [← hactivated, htrace] at herror
          rw [← herror]
          exact (Session.formatSessionAuth_rxNonce _ _ _ _ _).symm
        · rw [← hactivated]
          exact .activatePending _
    · simp only [heq]
      exact .nothing (hlogged.trans (.of_same ⟨rfl, rfl, rfl, id⟩ rfl rfl))

theorem onSessionData_delivers (env : Env) (msg : SessionData) :
    Delivers mayDrop layer.base (layer.onSessionData cfg env msg).1.base
      (layer.onSessionData cfg env msg).2 := by
  have hlogged := (Confined.logVerified cfg.ctx layer.base.active msg layer.base).toQuiet
  unfold onSessionData
  rcases Session.validateSessionData_cases cfg.ctx layer.base.active
    (layer.base.logVerified cfg.ctx layer.base.active msg).statistics msg env.now with
    ⟨payload, stats', hpayload, -, heq⟩ | ⟨stats', -, heq⟩ | ⟨e, stats', heq⟩
  · simp only [heq]
    have hchecked : Quiet layer.base { layer.base.logVerified cfg.ctx layer.base.active msg with
        active := { layer.base.active with rxNonce := msg.metadata.nonce },
        statistics := stats' } :=
      hlogged.trans (.of_same ⟨rfl, rfl, rfl, id⟩ rfl rfl)
    exact .data _ msg payload hpayload hchecked
      ((handshakes_confined _).onSessionNonceChange _ _ env).toQuiet
  · simp only [heq]
    exact .nothing (hlogged.trans (.of_same ⟨rfl, rfl, rfl, id⟩ rfl rfl))
  · simp only [heq]
    exact .nothing (hlogged.trans (.of_same ⟨rfl, rfl, rfl, id⟩ rfl rfl))

/-- **Processing a message** delivers a payload, opens the upper layer for one, or is
not seen there; only the payload of an auth message without an answer is dropped. -/
theorem process_delivers (hready : layer.base.lowerTxReady = true) (env : Env) (message : Bytes)
    (hdrop : ∀ msg payload, SessionData.read message = .ok msg →
      layer.Unanswered cfg env msg payload → mayDrop payload) :
    Delivers mayDrop layer.base (layer.process cfg env message).1.base
      (layer.process cfg env message).2 := by
  have hnothing : Delivers mayDrop layer.base layer.base [] := .nothing (Confined.refl _).toQuiet
  unfold process
  split
  · exact hnothing
  · split
    · split
      · exact hnothing
      · exact .nothing ((handshakes_confined _).onReplyMessage hready env _ _).toQuiet
    · split
      · exact hnothing
      · exact .nothing ((handshakes_confined cfg.ctx).onErrorMessage env).toQuiet
    · split
      · exact .nothing ((handshakes_confined _).replyWithHandshakeError _ _ _).toQuiet
      · exact .nothing ((handshakes_confined _).onRequest _ env _ _).toQuiet
    · split
      · exact hnothing
      · rename_i msg hmsg
        unfold onSessionMessage
        split_ifs with hnonce
        · split
          · exact onAuthMessage_delivers _ _ env _
          · rename_i mode hrole
            exact onAuthSession_delivers hready env msg (by rw [hrole]; rfl) hnonce
              (fun payload => hdrop msg payload hmsg)
        · exact onSessionData_delivers env _
    · exact hnothing

theorem onLowerTxReady_lowerRx (env : Env) :
    (layer.onLowerTxReady cfg env).1.base.lowerRx = layer.base.lowerRx := by
  have hpre : (onPreTxReady cfg env { layer with base := layer.base.complete }).base.lowerRx =
      layer.base.lowerRx := ((handshakes_confined _).onPreTxReady _ _ env).lowerRx
  unfold onLowerTxReady
  dsimp only
  split_ifs
  · rfl
  · exact (Confined.notifyTxReady _).lowerRx.trans hpre
  · exact hpre

end Layer

/-! ## No lost wakeup -/

namespace Machine

/-- The lower layer holds nothing when it opens the layer, and what it receives is not
empty. -/
def LowerStartsEmpty (machine : Machine) : Label → Prop
  | .receive message => message ≠ []
  | .lowerOpen _ _ => machine.layer.base.isOpen = false → machine.layer.base.lowerRx = []
  | _ => True

instance (machine : Machine) (label : Label) : Decidable (machine.LowerStartsEmpty label) :=
  match label with
  | .receive message => inferInstanceAs (Decidable (message ≠ []))
  | .lowerOpen _ _ => inferInstanceAs (Decidable (_ = false → _ = []))
  | .lowerClose _ | .lowerTxReady _ | .lowerRxReady | .timer _ _ | .startRx | .startTx _ | .ret
  | .run _ => isTrue trivial

/-- Whether everything that has arrived is announced: `on_lower_rx_ready` announces all
of it. -/
def announce (announced : Bool) : Label → Bool
  | .receive _ => false
  | .lowerRxReady => true
  | _ => announced

/-- If there is an announced message that can be read, then the read loop is still to
come. -/
structure Attended (announced : Bool) (machine : Machine) : Prop where
  nonempty : ∀ message ∈ machine.layer.base.lowerRx, message ≠ []
  attended : announced = true → machine.layer.base.isOpen = true → machine.layer.base.canRead →
    machine.layer.base.lowerRx ≠ [] → .tryReadFromLower ∈ machine.stack

namespace Attended

variable {announced : Bool} {layer layer' : Layer} {stack stack' : List Task}

theorem of_keepsInput (hinv : Attended announced ⟨layer, stack⟩)
    (hkeeps : layer.base.KeepsInput layer'.base)
    (hstack : .tryReadFromLower ∈ stack → .tryReadFromLower ∈ stack') :
    Attended announced ⟨layer', stack'⟩ := by
  refine ⟨?_, ?_⟩
  · intro message hmem
    rw [hkeeps.lowerRx] at hmem
    exact hinv.nonempty message hmem
  · rintro hannounced hopen ⟨hready, hpayload⟩ hrx
    rw [hkeeps.isOpen] at hopen
    rw [hkeeps.payloadData] at hpayload
    rw [hkeeps.lowerRx] at hrx
    exact hstack (hinv.attended hannounced hopen ⟨hkeeps.ready hready, hpayload⟩ hrx)

/-- The read loop is to come. -/
theorem of_mem (hinv : Attended announced ⟨layer, stack⟩) {announced' : Bool}
    (hrx : ∀ message ∈ layer'.base.lowerRx, message ∈ layer.base.lowerRx)
    (hmem : .tryReadFromLower ∈ stack') : Attended announced' ⟨layer', stack'⟩ :=
  ⟨fun message hmessage => hinv.nonempty message (hrx message hmessage), fun _ _ _ _ => hmem⟩

/-- The loop goes on until nothing can be read. -/
theorem tryRead {cfg : Config} (hinv : Attended announced ⟨layer, .tryReadFromLower :: stack⟩)
    (env : Env) : Attended announced
      ⟨(layer.tryReadFromLower cfg env).1, (layer.tryReadFromLower cfg env).2 ++ stack⟩ := by
  unfold Layer.tryReadFromLower
  split_ifs with hguard
  · refine ⟨hinv.nonempty, ?_⟩
    rintro - - ⟨hready, hpayload⟩
    simp [show layer.base.lowerTxReady = true from hready,
      show layer.base.payloadData = [] from hpayload] at hguard
  · have hready := (CryptoLayer.canRead_of_guard hguard).1
    split
    · rename_i hrx
      exact ⟨hinv.nonempty, fun _ _ _ hne => absurd hrx hne⟩
    · rename_i message messages hrx
      rw [if_neg (by
        rw [List.isEmpty_iff]
        exact hinv.nonempty message (by rw [hrx]; exact List.mem_cons_self))]
      refine hinv.of_mem ?_ (by simp)
      intro m hmem
      rw [(@Layer.process_delivers cfg (fun _ => True)
        { layer with base := { layer.base with lowerRx := messages } } hready env message
        (fun _ _ _ _ => trivial)).lowerRx] at hmem
      rw [hrx]
      exact List.mem_cons_of_mem _ hmem

end Attended

theorem attended_step {cfg : Config} {announced : Bool} {machine machine' : Machine} {label : Label}
    (hinv : Attended announced machine) (hlower : machine.LowerStartsEmpty label)
    (hstep : machine.step cfg label = some machine') :
    Attended (announce announced label) machine' := by
  cases steps_of_step hstep with
  | receive layer stack message =>
      refine ⟨?_, fun hannounced => absurd hannounced Bool.false_ne_true⟩
      intro m hmem
      rcases List.mem_append.mp hmem with hmem | hmem
      · exact hinv.nonempty m hmem
      · rw [List.mem_singleton.mp hmem]
        exact hlower
  | lowerOpen layer ready env =>
      by_cases hopen : layer.base.isOpen = true
      · rw [Layer.onLowerOpen, if_pos hopen]
        exact hinv
      · -- nothing is there to read
        have hempty : (layer.onLowerOpen cfg env ready).base.lowerRx = [] := by
          rw [Layer.onLowerOpen, if_neg hopen]
          have hrx := hlower (by simpa using hopen)
          dsimp only
          split
          · exact ((Layer.handshakes_confined _).onHandshakeRequired _ _ env env.now).lowerRx.trans
              hrx
          · exact hrx
        refine ⟨?_, fun _ _ _ hrx => absurd hempty hrx⟩
        rw [hempty]
        simp
  | lowerClose layer ready =>
      by_cases hopen : layer.base.isOpen = true
      · rw [Layer.onLowerClose, if_neg (by simp [hopen])]
        dsimp only
        rw [CryptoLayer.closeUpper_fst]
        exact ⟨hinv.nonempty, fun _ hopen' => absurd hopen' Bool.false_ne_true⟩
      · rw [Layer.onLowerClose, if_pos (by simpa using hopen)]
        exact hinv
  | lowerTxReady layer env =>
      by_cases hopen : layer.base.isOpen = true
      · refine hinv.of_mem (by simp [Layer.onLowerTxReady_lowerRx]) ?_
        rw [Layer.onLowerTxReady, if_neg (by simpa [CryptoLayer.log] using hopen)]
        dsimp only
        split_ifs <;> simp
      · rw [Layer.onLowerTxReady, if_pos (by simpa [CryptoLayer.log] using hopen)]
        exact ⟨hinv.nonempty, fun _ hopen' => absurd hopen' hopen⟩
  | lowerRxReady layer =>
      unfold Layer.onLowerRxReady
      split_ifs with hopen
      · exact hinv.of_mem (fun _ hmem => hmem) (by simp)
      · exact ⟨hinv.nonempty, fun _ hopen' => absurd hopen' hopen⟩
  | timer env =>
    exact hinv.of_keepsInput ((Layer.handshakes_confined _).onTimer env _).toKeepsInput id
  | startRx layer hcall =>
      -- either the loop is entered, or a payload is in the way
      unfold CryptoLayer.startRxFromUpper
      dsimp only
      split_ifs with hflag hempty hempty
      · exact hinv.of_mem (fun _ hmem => hmem) (by simp)
      · simp at hempty
      · exact hinv.of_mem (fun _ hmem => hmem) (by simp)
      · refine ⟨hinv.nonempty, ?_⟩
        rintro - - ⟨-, hpayload⟩
        exact absurd (List.isEmpty_iff.mpr hpayload) hempty
  | startTx layer data =>
      refine hinv.of_keepsInput ?_ (List.mem_append_right _)
      unfold CryptoLayer.startTxFromUpper
      split_ifs <;> exact ⟨rfl, rfl, rfl, id⟩
  | ret layer stack callback =>
      exact hinv.of_keepsInput (.refl _)
        (fun hmem => (List.mem_cons.mp hmem).resolve_left (by simp))
  | @run layer task result stack env hrun =>
      have hbelow (hne : task ≠ .tryReadFromLower) (hmem : .tryReadFromLower ∈ task :: stack) :
          .tryReadFromLower ∈ result.2 ++ stack :=
        List.mem_append_right _ ((List.mem_cons.mp hmem).resolve_left (Ne.symm hne))
      cases Layer.ran_of_runTask hrun with
      | tryReadFromLower => exact hinv.tryRead env
      | checkTransmit =>
          exact hinv.of_keepsInput (Layer.checkTransmit_keepsInput env) (hbelow (by simp))
      | noPayload => exact hinv.of_keepsInput (.refl _) (hbelow (by simp))
      | @authPayload payload hne =>
          -- the payload is in the way
          have hnotified := CryptoLayer.Confined.notifyRxReady (layer.base.placePayload payload)
          refine ⟨?_, ?_⟩
          · intro message hmem
            rw [hnotified.lowerRx] at hmem
            exact hinv.nonempty message hmem
          · rintro - - ⟨-, hpayload⟩
            rw [hnotified.payloadData] at hpayload
            exact absurd hpayload hne
      | enterIdle => exact hinv.of_keepsInput (.refl _) (hbelow (by simp))
      | afterClose => exact hinv.of_keepsInput ⟨rfl, rfl, rfl, id⟩ (hbelow (by simp))

theorem attended_run {cfg : Config} {labels : List Label} {announced : Bool}
    {machine machine' : Machine} (hinv : Attended announced machine)
    (hrun : machine.run cfg labels = some machine')
    (halong : Runs.Along (step cfg) LowerStartsEmpty machine labels) :
    Attended (labels.foldl announce announced) machine' := by
  induction labels generalizing announced machine with
  | nil =>
      cases hrun
      exact hinv
  | cons label labels ih =>
      obtain ⟨next, hstep, hrest⟩ := Runs.run_cons hrun
      exact ih (attended_step hinv halong.1 hstep) hrest (halong.2 next hstep)

/-- **No lost receive wakeup.**  Between events of an open layer, if everything that has
arrived is announced, no payload is waiting and the lower layer is ready to transmit,
then the lower layer has no message left. -/
theorem no_lost_wakeup (cfg : Config) {labels : List Label} {machine : Machine}
    (hrun : create.run cfg labels = some machine)
    (halong : Runs.Along (step cfg) LowerStartsEmpty create labels)
    (hannounced : labels.foldl announce true = true) (hrest : machine.stack = [])
    (hopen : machine.layer.base.isOpen = true) (hpayload : machine.layer.base.payloadData = [])
    (hready : machine.layer.base.lowerTxReady = true) : machine.layer.base.lowerRx = [] := by
  have hstart : Attended true create := ⟨nofun, nofun⟩
  have hinv := attended_run hstart hrun halong
  by_contra hrx
  have hmem := hinv.attended hannounced hopen ⟨hready, hpayload⟩ hrx
  rw [hrest] at hmem
  cases hmem

/-- Two messages wait behind a reply, and are read when the lower layer is ready. -/
def waiting : List Label :=
  Coupled.answering ++ [.receive [9, 9], .receive [9, 9], .lowerRxReady, .run (Sample.env 2),
    .lowerTxReady (Sample.env 2), .run (Sample.env 2), .run (Sample.env 2), .run (Sample.env 2),
    .run (Sample.env 2)]

theorem no_lost_wakeup_sample :
    (Sample.reached (Sample.responder 1000) (waiting.take 18)).layer.base.lowerRx ≠ [] ∧
      (Sample.reached (Sample.responder 1000) waiting).layer.base.lowerRx = [] :=
  ⟨by decide +kernel, no_lost_wakeup (Sample.responder 1000)
    (show create.run (Sample.responder 1000) waiting =
      some (Sample.reached (Sample.responder 1000) waiting) by decide +kernel)
    (by decide +kernel) (by decide +kernel) (by decide +kernel) (by decide +kernel)
    (by decide +kernel) (by decide +kernel)⟩

end Machine

end Ssp21
