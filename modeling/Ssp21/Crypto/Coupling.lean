import Ssp21.Crypto.Output
import Ssp21.Crypto.SessionTable

/-!
# The upper layer and the active session

The upper layer is opened when a session is activated and closed when the active
session is lost.  The two go together as long as the messages that have to be
formatted on the way can be formatted; the conditions below say when they can.

* `Coupled`: the upper layer is open exactly while the active session is valid.
* `Clean`: a closed upper layer has left nothing behind.
-/

namespace Ssp21

open Wire

/-! ## Conditions on a step -/

def Role.isResponder : Role → Bool
  | .initiator _ => false
  | .responder _ => true

/-- The environment in which this layer goes on. -/
def Label.running : Label → Option Env
  | .run env => some env
  | _ => none

namespace Machine

/-- If the step makes a responder accept the auth message that would open its upper
layer, then the answer can be formatted. -/
def AnswerFits (cfg : Config) (machine : Machine) (label : Label) : Prop :=
  let base := machine.layer.base
  ∀ env ∈ label.running, machine.stack.head? = some .tryReadFromLower →
    cfg.role.isResponder = true → base.canRead → base.upperOpen = false →
    ∀ message ∈ base.lowerRx.head?, ∀ msg ∈ (SessionData.read message).toOption,
    ∀ payload ∈ (SessionMode.read cfg.ctx.backend base.pending.algorithms.sessionMode
      base.pending.keys.rxKey msg cfg.ctx.payloadBufferLength).toOption,
    msg.metadata.nonce = 0 →
    Session.Accepts cfg.ctx SessionNonceMode.equalToZero base.pending msg env.now payload →
    base.pending.CanFormat cfg.ctx env.later base.txState.remainder

/-- If the step transmits user data, then the session's nonces are not used up, and the
message can be formatted. -/
def DataFits (cfg : Config) (machine : Machine) (label : Label) : Prop :=
  let base := machine.layer.base
  ∀ env ∈ label.running, machine.stack.head? = some .checkTransmit →
    base.canTransmitSessionData = true →
    base.active.txNonce < base.active.parameters.maxNonce ∧
      base.active.CanFormat cfg.ctx env.now base.txState.remainder

instance (layer : CryptoLayer) : Decidable layer.canRead :=
  inferInstanceAs (Decidable (_ ∧ _))

instance (cfg : Config) (machine : Machine) (label : Label) :
    Decidable (machine.AnswerFits cfg label) :=
  inferInstanceAs (Decidable (∀ env ∈ label.running, _))

instance (cfg : Config) (machine : Machine) (label : Label) :
    Decidable (machine.DataFits cfg label) :=
  inferInstanceAs (Decidable (∀ env ∈ label.running, _))

end Machine

/-! ## The session behind an open upper layer -/

/-- The pending session of a responder has not sent anything. -/
def Unsent (cfg : Config) (s : Snapshot) : Prop :=
  cfg.role.isResponder = true → s.base.pending.valid = true → s.base.pending.txNonce = 0

theorem unsent_move {cfg : Config} {mayFail : Fault → Prop} {s s' : Snapshot}
    (hmove : Move cfg mayFail s s') (hunsent : Unsent cfg s) : Unsent cfg s' := by
  refine tableMoves_invariant (P := fun table => cfg.role.isResponder = true →
    table.pending.valid = true → table.pending.txNonce = 0) ?_ hmove.tableMoves hunsent
  intro table table' hmove hunsent hresponder hvalid
  cases hmove with
  | reset slot =>
      cases slot with
      | active => exact hunsent hresponder hvalid
      | pending => cases hvalid
  | init hderives => exact hderives.fresh.2.2
  | send slot hslot =>
      cases slot with
      | active => exact hunsent hresponder hvalid
      | pending =>
          obtain ⟨config, hrole⟩ := hslot rfl
          rw [hrole] at hresponder
          cases hresponder
  | activate => cases hvalid
  | _ => exact hunsent hresponder hvalid

/-- What a move means for the upper layer and the active session. -/
inductive UpperMove (mayFail : Fault → Prop) (s s' : Snapshot) : Prop
  | same (hupper : s'.base.upperOpen = s.base.upperOpen)
      (hactive : s'.base.active.valid = s.base.active.valid)
  | opened (hupper : s'.base.upperOpen = true) (hactive : s'.base.active.valid = true)
  | unanswered (hupper : s'.base.upperOpen = s.base.upperOpen)
      (hactive : s'.base.active.valid = true)
      (hfault : s.base.upperOpen = false → mayFail .answer)
  | closed (hupper : s'.base.upperOpen = false) (hactive : s'.base.active.valid = false)

theorem Move.upper {cfg : Config} {mayFail : Fault → Prop} {s s' : Snapshot}
    (hmove : Move cfg mayFail s s') : UpperMove mayFail s s' := by
  cases hmove with
  | ask k hasks =>
      obtain ⟨ready, new, -, -, rfl⟩ := hasks.frame
      exact .same rfl rfl
  | complete hopen hasks hdone =>
      obtain ⟨ready, new, -, -, rfl⟩ := hasks.frame
      exact .same rfl rfl
  | finish hopen hasks hdone =>
      obtain ⟨ready, new, -, -, rfl⟩ := hasks.frame
      rw [CryptoLayer.notifyTxReady_fst]
      exact .same rfl rfl
  | activate o k hrole hread hverified haccepts =>
      rw [CryptoLayer.openUpper_fst]
      exact .opened rfl haccepts.valid
  | answer o k hrole hread hverified haccepts hnonce hformats =>
      rw [CryptoLayer.openUpper_fst]
      exact .opened rfl haccepts.valid
  | leaveUnanswered o k hrole hread hverified haccepts hfault =>
      exact .unanswered rfl haccepts.valid hfault
  | transmitFailed o k hready hfault =>
      rw [CryptoLayer.closeUpper_fst]
      exact .closed rfl rfl
  | lowerClose o hopen ready =>
      rw [CryptoLayer.closeUpper_fst]
      exact .closed rfl rfl
  | _ => exact .same rfl rfl

/-- The upper layer is open exactly while the active session is valid. -/
structure Coupled (cfg : Config) (s : Snapshot) : Prop where
  coupled : s.base.upperOpen = s.base.active.valid
  unsent : Unsent cfg s

theorem coupled_move {cfg : Config} {mayFail : Fault → Prop} {s s' : Snapshot}
    (hmove : Move cfg mayFail s s') (hanswer : ¬ mayFail .answer) (hinv : Coupled cfg s) :
    Coupled cfg s' := by
  refine ⟨?_, unsent_move hmove hinv.unsent⟩
  have hcoupled := hinv.coupled
  cases hmove.upper with
  | same hupper hactive =>
      rw [hupper, hactive]
      exact hcoupled
  | opened hupper hactive => rw [hupper, hactive]
  | unanswered hupper hactive hfault =>
      rw [hupper, hactive, ← Bool.not_eq_false]
      exact fun hshut => hanswer (hfault hshut)
  | closed hupper hactive => rw [hupper, hactive]

/-- A step that meets the condition does not fail to answer. -/
theorem Machine.AnswerFits.not_fails {cfg : Config} {machine : Machine} {label : Label}
    (hfits : machine.AnswerFits cfg label) (hcoupled : Coupled cfg machine.snapshot) :
    ¬ machine.Fails cfg label .answer := by
  rintro ⟨env, stack, message, messages, msg, hlabel, hstack, hread, hrx, hmsg, ⟨mode, hrole⟩,
    hshut, hnonce, ⟨payload, haccepts⟩, e, herror⟩
  have hcan := hfits env (by rw [hlabel]; rfl) (by rw [hstack]; rfl) (by rw [hrole]; rfl) hread
    hshut message (by rw [hrx]; rfl) msg (by rw [hmsg]; rfl) payload
    (by rw [haccepts.authentic]; rfl) hnonce haccepts
  obtain ⟨formatted, hok⟩ := Session.formatSessionAuth_ok haccepts.valid
    (hcoupled.unsent (by rw [hrole]; rfl) haccepts.valid) hcan
  rw [hok] at herror
  cases herror

theorem coupled_run {cfg : Config} {labels : List Label} {machine : Machine}
    (hrun : Machine.create.run cfg labels = some machine)
    (halong : Runs.Along (Machine.step cfg) (Machine.AnswerFits cfg) Machine.create labels) :
    Coupled cfg machine.snapshot :=
  Machine.run_invariant
    (fun _ _ hinv hfits _ _ hmove => coupled_move hmove (hfits.not_fails hinv)) hrun halong
    ⟨rfl, nofun⟩

/-- **The upper layer is open exactly while a session is active**, in every state of a
run in which every answer that would open it can be formatted. -/
theorem upperOpen_iff_active_valid (cfg : Config) {labels : List Label} {machine : Machine}
    (hrun : Machine.create.run cfg labels = some machine)
    (halong : Runs.Along (Machine.step cfg) (Machine.AnswerFits cfg) Machine.create labels) :
    machine.layer.base.upperOpen = true ↔ machine.layer.base.active.valid = true := by
  rw [show machine.layer.base.upperOpen = machine.layer.base.active.valid from
    (coupled_run hrun halong).coupled]

namespace Coupled

/-- The responder reads the auth message of a session of one minute, and goes on until
it is at rest. -/
def answering : List Label :=
  Sample.opening ⟨100, 60000⟩ ++ [.ret, .run (Sample.env 2), .run (Sample.env 2)]

theorem answering_run : Machine.create.run (Sample.responder 1000) answering =
    some (Sample.reached (Sample.responder 1000) answering) := by
  decide +kernel

theorem upperOpen_iff_active_valid_sample :
    (Sample.reached (Sample.responder 1000) answering).layer.base.active.valid = true ∧
      ((Sample.reached (Sample.responder 1000) answering).layer.base.upperOpen = true ↔
        (Sample.reached (Sample.responder 1000) answering).layer.base.active.valid = true) :=
  ⟨by decide +kernel,
    upperOpen_iff_active_valid (Sample.responder 1000) answering_run (by decide +kernel)⟩

/-- A responder that adds two minutes to the time to live cannot answer within a session
of one minute: the session is active, and the upper layer was never opened. -/
theorem active_valid_upper_closed :
    let machine := Sample.reached (Sample.responder 120000)
      (Sample.opening ⟨100, 60000⟩ ++ [.run (Sample.env 2)])
    Machine.create.run (Sample.responder 120000)
        (Sample.opening ⟨100, 60000⟩ ++ [.run (Sample.env 2)]) = some machine ∧
      machine.stack = [] ∧ machine.layer.base.isOpen = true ∧
      machine.layer.base.active.valid = true ∧ machine.layer.base.upperOpen = false := by
  decide +kernel

end Coupled

/-! ## What a closed upper layer leaves behind -/

/-- A closed upper layer has left nothing behind: no payload, and no data to transmit
except while the close is unfinished.  A payload that is still to be handed over is one
for an open upper layer. -/
structure Clean (s : Snapshot) : Prop where
  payload : s.base.upperOpen = false → s.base.payloadData = []
  idle : s.base.upperOpen = false → s.base.txState = TxState.idle ∨ .afterClose ∈ s.stack
  auth : ∀ payload, .authPayload payload ∈ s.stack → payload ≠ [] → s.base.upperOpen = true

namespace Clean

variable {base base' : CryptoLayer} {o o' : Option Bytes} {k k' : List Task}

theorem of_same (hclean : Clean ⟨base, o, k⟩) (hupper : base'.upperOpen = base.upperOpen)
    (hpayload : base'.payloadData = base.payloadData) (htx : base'.txState = base.txState)
    (hclose : .afterClose ∈ k → .afterClose ∈ k')
    (hauth : ∀ payload, .authPayload payload ∈ k' → payload ≠ [] → .authPayload payload ∈ k) :
    Clean ⟨base', o', k'⟩ := by
  refine ⟨?_, ?_, ?_⟩
  · exact fun hshut => hpayload.trans (hclean.payload (hupper.symm.trans hshut))
  · intro hshut
    exact (hclean.idle (hupper.symm.trans hshut)).imp htx.trans hclose
  · exact fun payload hmem hne => hupper.trans (hclean.auth payload (hauth payload hmem hne) hne)

/-- Nothing is asked of an open upper layer. -/
theorem of_open (hopen : base'.upperOpen = true) : Clean ⟨base', o', k'⟩ := by
  refine ⟨?_, ?_, fun _ _ _ => hopen⟩
  · intro hshut
    rw [show base'.upperOpen = false from hshut] at hopen
    cases hopen
  · intro hshut
    rw [show base'.upperOpen = false from hshut] at hopen
    cases hopen

/-- A frame that takes data along if there is any. -/
theorem of_sentSession (hclean : Clean ⟨base, o, k⟩) (hnot : .afterClose ∉ k) (slot : Slot)
    (rest : Bytes) (formatted : Session.Formatted) :
    Clean ⟨base.sentSession slot rest formatted, o', k⟩ := by
  refine ⟨?_, ?_, ?_⟩
  · intro hshut
    cases slot <;> exact hclean.payload hshut
  · intro hshut
    have hidle : base.txState = TxState.idle := by
      cases slot <;> exact (hclean.idle hshut).resolve_right hnot
    refine Or.inl ?_
    cases slot <;> simp [CryptoLayer.sentSession, CryptoLayer.sent, CryptoLayer.log, hidle,
      TxState.idle, TxState.beginTransmit]
  · intro payload hmem hne
    cases slot <;> exact hclean.auth payload hmem hne

end Clean

theorem clean_move {cfg : Config} {mayFail : Fault → Prop} {s s' : Snapshot}
    (hmove : Move cfg mayFail s s') (hdata : ¬ mayFail .data) (hanswer : ¬ mayFail .answer)
    (hclosing : .afterClose ∈ s.stack → Closing s) (hcoupled : Coupled cfg s) (hinv : Clean s) :
    Clean s' := by
  have hopen (hvalid : s.base.active.valid = true) : s.base.upperOpen = true :=
    hcoupled.coupled.trans hvalid
  cases hmove with
  | @pop base o k task htask =>
      refine hinv.of_same rfl rfl rfl ?_ (fun _ hmem _ => List.mem_cons_of_mem _ hmem)
      intro hmem
      exact (List.mem_cons.mp hmem).resolve_left (Ne.symm (Task.inert_ne htask))
  | @push base o k task htask =>
      refine hinv.of_same rfl rfl rfl (List.mem_cons_of_mem _) ?_
      intro payload hmem _
      refine (List.mem_cons.mp hmem).resolve_left ?_
      rintro rfl
      cases htask
  | ask k hasks =>
      obtain ⟨ready, new, -, -, rfl⟩ := hasks.frame
      exact hinv.of_same rfl rfl rfl id (fun _ hmem _ => hmem)
  | sendAuth o k hrole hread hnonce hformats =>
      refine hinv.of_sentSession ?_ _ _ _
      exact fun hmem => (hclosing hmem).not_pending hformats.valid hread.1
  | activate =>
      rw [CryptoLayer.openUpper_fst]
      exact .of_open rfl
  | answer =>
      rw [CryptoLayer.openUpper_fst]
      exact .of_open rfl
  | @leaveUnanswered base o k mode hrole hread now msg payload hverified haccepts hfault =>
      have hup : base.upperOpen = true := by
        rw [← Bool.not_eq_false]
        exact fun hshut => hanswer (hfault hshut)
      exact .of_open hup
  | acceptData o k hread hpayload hnonce hverified haccepts => exact .of_open (hopen haccepts.valid)
  | notifyRx o k hup => exact .of_open hup
  | @complete base _ o o' hlayer hasks hdone =>
      obtain ⟨ready, new, -, -, rfl⟩ := hasks.frame
      refine ⟨hinv.payload, ?_, by simp⟩
      intro hshut
      have hidle : base.txState = TxState.idle := by simpa using hinv.idle hshut
      simp [CryptoLayer.complete, hidle, TxState.idle, TxState.onTxComplete]
  | @finish base _ o o' hlayer hasks hdone =>
      -- an idle transmission does not complete
      obtain ⟨ready, new, -, -, rfl⟩ := hasks.frame
      rw [CryptoLayer.notifyTxReady_fst]
      refine .of_open (Bool.eq_false_imp_eq_true.mp ?_)
      intro hshut
      have hidle : base.txState = TxState.idle := by simpa using hinv.idle hshut
      rw [hidle] at hdone
      cases hdone
  | submit o k data hready =>
      simp only [CryptoLayer.isTxReady, Bool.and_eq_true] at hready
      exact .of_open hready.1.2
  | transmit o k hready hnonce hformats => exact .of_open (hopen hformats.valid)
  | transmitFailed o k hready hfault => exact absurd hfault hdata
  | discard o k hflag => exact ⟨fun _ => rfl, hinv.idle, hinv.auth⟩
  | place base o k hpayload => exact .of_open (hinv.auth _ List.mem_cons_self hpayload)
  | afterClose base o k =>
      exact ⟨hinv.payload, fun _ => Or.inl rfl,
        fun payload hmem => hinv.auth payload (List.mem_cons_of_mem _ hmem)⟩
  | lowerClose o hlayer ready =>
      rw [CryptoLayer.closeUpper_fst]
      refine ⟨fun _ => rfl, fun _ => Or.inr (by simp), ?_⟩
      intro payload hmem
      rcases List.mem_append.mp hmem with hmem | hmem
      · cases CryptoLayer.closeUpper_snd hmem
      · simp at hmem
  | _ => exact hinv.of_same rfl rfl rfl id (fun _ hmem _ => hmem)

/-! ## What an opened upper layer gets -/

namespace Observation

def submission : Observation → Option Bytes
  | .submit data => some data
  | _ => none

def reading : Observation → Option Bytes
  | .read payload => some payload
  | _ => none

def placement : Observation → Option Bytes
  | .placed payload => some payload
  | _ => none

end Observation

/-- The data that the upper layer submitted, the payloads that it was given, and those
that were made available to it. -/
def submitted (history : List Observation) : List Bytes := history.filterMap Observation.submission

def reads (history : List Observation) : List Bytes := history.filterMap Observation.reading

def placed (history : List Observation) : List Bytes := history.filterMap Observation.placement

/-- Nothing is submitted and nothing is read, unless the upper layer calls. -/
theorem Machine.submitted_reads_step {cfg : Config} {machine machine' : Machine} {label : Label}
    (hstep : machine.step cfg label = some machine') (hcall : label.isCall = false) :
    submitted machine'.layer.base.trace = submitted machine.layer.base.trace ∧
      reads machine'.layer.base.trace = reads machine.layer.base.trace := by
  obtain ⟨new, htrace, hnew⟩ := own_step hstep hcall
  have hnone {pick : Observation → Option Bytes} (hpick : ∀ o, o.Own cfg.ctx → pick o = none) :
      (machine.layer.base.trace ++ new).filterMap pick =
        machine.layer.base.trace.filterMap pick := by
    rw [List.filterMap_append, List.filterMap_eq_nil_iff.mpr fun o hmem => hpick o (hnew o hmem),
      List.append_nil]
  rw [htrace]
  refine ⟨hnone fun o hown => ?_, hnone fun o hown => ?_⟩
  · cases o with
    | submit data => cases hown
    | _ => rfl
  · cases o with
    | read payload => cases hown
    | _ => rfl

/-- A payload that is available and was not given to the upper layer yet. -/
def CryptoLayer.unread (layer : CryptoLayer) : List Bytes :=
  if layer.upperIsProcessingRxData = false ∧ layer.payloadData ≠ [] then [layer.payloadData] else []

theorem submitted_append (history new : List Observation) :
    submitted (history ++ new) = submitted history ++ submitted new :=
  List.filterMap_append

theorem submitted_aside {history : List Observation} (haside : ∀ o ∈ history, o.aside = true) :
    submitted history = [] := by
  rw [submitted, List.filterMap_eq_nil_iff]
  intro o ho
  have hside := haside o ho
  cases o with
  | submit data => cases hside
  | _ => rfl

theorem reads_append (history new : List Observation) :
    reads (history ++ new) = reads history ++ reads new :=
  List.filterMap_append

theorem placed_append (history new : List Observation) :
    placed (history ++ new) = placed history ++ placed new :=
  List.filterMap_append

theorem reads_deaf {history : List Observation} (hdeaf : ∀ o ∈ history, o.deaf = true) :
    reads history = [] := by
  rw [reads, List.filterMap_eq_nil_iff]
  intro o ho
  have hside := hdeaf o ho
  cases o with
  | read payload => cases hside
  | _ => rfl

theorem placed_deaf {history : List Observation} (hdeaf : ∀ o ∈ history, o.deaf = true) :
    placed history = [] := by
  rw [placed, List.filterMap_eq_nil_iff]
  intro o ho
  have hside := hdeaf o ho
  cases o with
  | placed payload => cases hside
  | _ => rfl

/-- What a move means for received payloads. -/
inductive RxMove (s s' : Snapshot) : Prop
  | same (new : List Observation) (hdeaf : ∀ o ∈ new, o.deaf = true)
      (htrace : s'.base.trace = s.base.trace ++ new ++ flips s.base s'.base)
      (hpayload : s'.base.payloadData = s.base.payloadData)
      (hflag : s'.base.upperIsProcessingRxData = s.base.upperIsProcessingRxData)
  | place (new : List Observation) (hdeaf : ∀ o ∈ new, o.deaf = true) (payload : Bytes)
      (htrace : s'.base.trace = s.base.trace ++ (new ++ [.placed payload]))
      (hpayload : s'.base.payloadData = payload)
  | read (hfirst : s.base.upperIsProcessingRxData = false) (hnonempty : s.base.payloadData ≠ [])
      (htrace : s'.base.trace = s.base.trace ++ [.read s.base.payloadData])
      (hflag : s'.base.upperIsProcessingRxData = true)
  | clear (htrace : s'.base.trace = s.base.trace ++ flips s.base s'.base)
      (hupper : s'.base.upperOpen = true → s.base.upperOpen = true)
      (hpayload : s'.base.payloadData = [])
  | release (hstack : .afterClose ∈ s.stack) (htrace : s'.base.trace = s.base.trace)
      (hpayload : s'.base.payloadData = s.base.payloadData)

theorem RxMove.of_log {base base' : CryptoLayer} {o o' : Option Bytes} {k k' : List Task}
    (new : List Observation) (hdeaf : ∀ o ∈ new, o.deaf = true)
    (htrace : base'.trace = base.trace ++ new) (hupper : base'.upperOpen = base.upperOpen)
    (hpayload : base'.payloadData = base.payloadData)
    (hflag : base'.upperIsProcessingRxData = base.upperIsProcessingRxData) :
    RxMove ⟨base, o, k⟩ ⟨base', o', k'⟩ := by
  refine .same new hdeaf ?_ hpayload hflag
  cases h : base.upperOpen <;> simp [flips, htrace, hupper, h]

theorem RxMove.of_sentSession {base : CryptoLayer} (slot : Slot) (rest : Bytes)
    (formatted : Session.Formatted) {o o' : Option Bytes} {k k' : List Task} :
    RxMove ⟨base, o, k⟩ ⟨base.sentSession slot rest formatted, o', k'⟩ := by
  cases slot <;>
    exact .of_log [.transmit (CryptoLayer.sessionTransmission _ formatted)]
      (by simp [Observation.deaf]) rfl rfl rfl rfl

/-- **What each move means for received payloads.** -/
theorem Move.rx {cfg : Config} {mayFail : Fault → Prop} {s s' : Snapshot}
    (hmove : Move cfg mayFail s s') : RxMove s s' := by
  cases hmove with
  | ask k hasks =>
      obtain ⟨ready, new, -, hsilent, rfl⟩ := hasks.frame
      exact .of_log new (fun o ho => (hsilent o ho).2) rfl rfl rfl rfl
  | @handshakeError base o k hread error frame written =>
      exact .of_log [.transmit ⟨frame, written, .handshakeError error⟩] (by simp [Observation.deaf])
        rfl rfl rfl rfl
  | @reply base o k hread value frame written =>
      exact .of_log [.drew value, .transmit ⟨frame, written, .reply⟩] (by simp [Observation.deaf])
        (by simp [CryptoLayer.sent, CryptoLayer.log]) rfl rfl rfl
  | @respond base o k hread mode msg algorithms random findKey now d hrole hderives =>
      exact .of_log [.drew (Layer.freshReply cfg.ctx.backend mode msg random), .initialized d,
          .transmit ⟨cfg.ctx.frameWriter.frame d.reply, d.reply, .reply⟩]
        (by simp [Observation.deaf]) (by simp [CryptoLayer.sent, CryptoLayer.log]) rfl rfl rfl
  | @derive base k hread config init handshake msg now d hrole hderives =>
      exact .of_log [.initialized d] (by simp [Observation.deaf]) rfl rfl rfl rfl
  | sendAuth => exact .of_sentSession _ _ _
  | authFailed base o k =>
      exact .of_log [.authFormatFailed] (by simp [Observation.deaf]) rfl rfl rfl rfl
  | @verify base o k slot msg payload hvalid htag =>
      exact .of_log [.verified (base.session slot).keys.rxKey msg] (by simp [Observation.deaf])
        rfl rfl rfl rfl
  | @activate base o k config hrole hread now msg payload hverified haccepts =>
      refine .same [.accepted base.pending.keys.rxKey msg payload,
        .activated { base.pending with rxNonce := msg.metadata.nonce }]
        (by simp [Observation.deaf]) ?_ ?_ ?_
      · refine CryptoLayer.openUpper_trace ?_ rfl
        simp [CryptoLayer.acceptAuth, CryptoLayer.activatePending, CryptoLayer.log]
      · rw [CryptoLayer.openUpper_fst]
        rfl
      · rw [CryptoLayer.openUpper_fst]
        rfl
  | @answer base o k mode hrole hread now later msg payload rest formatted hverified haccepts hnonce
      hformats =>
      refine .same [.accepted base.pending.keys.rxKey msg payload,
        .activated { base.pending with rxNonce := msg.metadata.nonce },
        .transmit (CryptoLayer.sessionTransmission (base.acceptAuth msg payload).active formatted)]
        (by simp [Observation.deaf]) ?_ ?_ ?_
      · refine CryptoLayer.openUpper_trace ?_ rfl
        simp [CryptoLayer.sentSession, CryptoLayer.sent, CryptoLayer.setSession,
          CryptoLayer.session, CryptoLayer.acceptAuth, CryptoLayer.activatePending,
          CryptoLayer.log]
      · rw [CryptoLayer.openUpper_fst]
        rfl
      · rw [CryptoLayer.openUpper_fst]
        rfl
  | @leaveUnanswered base o k mode hrole hread now msg payload hverified haccepts hfault =>
      exact .of_log [.accepted base.pending.keys.rxKey msg payload,
        .activated { base.pending with rxNonce := msg.metadata.nonce }, .authFormatFailed]
        (by simp [Observation.deaf])
        (by simp [CryptoLayer.acceptAuth, CryptoLayer.activatePending, CryptoLayer.log]) rfl rfl rfl
  | @acceptData base o k hread now msg payload hpayload hnonce hverified haccepts =>
      exact .place [.accepted base.active.keys.rxKey msg payload]
        (by simp [Observation.deaf]) payload
        (by simp [CryptoLayer.acceptData, CryptoLayer.placePayload, CryptoLayer.log]) rfl
  | notifyRx => exact .of_log [.rxReady] (by simp [Observation.deaf]) rfl rfl rfl rfl
  | complete hopen hasks hdone =>
      obtain ⟨ready, new, -, hsilent, rfl⟩ := hasks.frame
      exact .of_log (.completed :: new) (by simpa [Observation.deaf] using fun o ho =>
        (hsilent o ho).2)
        (by simp [CryptoLayer.complete, CryptoLayer.log]) rfl rfl rfl
  | @finish base _ o o' hopen hasks hdone =>
      obtain ⟨ready, new, -, hsilent, rfl⟩ := hasks.frame
      rw [CryptoLayer.notifyTxReady_fst]
      refine .of_log (.completed :: new ++ if base.upperOpen then [.txReady] else []) ?_
        ?_ rfl rfl rfl
      · intro o ho
        simp only [List.cons_append, List.mem_cons, List.mem_append] at ho
        rcases ho with rfl | ho | ho
        · rfl
        · exact (hsilent o ho).2
        · split_ifs at ho
          · rw [List.mem_singleton.mp ho]
            rfl
          · cases ho
      · cases h : base.upperOpen <;> simp [CryptoLayer.complete, CryptoLayer.log, h]
  | completeClosed => exact .of_log [.completed] (by simp [Observation.deaf]) rfl rfl rfl rfl
  | submit o k data hready =>
      exact .of_log [.submit data] (by simp [Observation.deaf]) rfl rfl rfl rfl
  | transmit => exact .of_sentSession _ _ _
  | @transmitFailed base o k hready hfault =>
      rw [CryptoLayer.closeUpper_fst]
      refine .same [.dataFormatFailed] (by simp [Observation.deaf]) ?_ rfl rfl
      cases h : base.upperOpen <;> simp [flips, CryptoLayer.log, h]
  | @discard base o k hflag =>
      refine .clear ?_ id rfl
      cases h : base.upperOpen <;> simp [flips, h]
  | read o k hfirst hpayload => exact .read hfirst hpayload rfl rfl
  | place base o k hpayload => exact .place [] (by simp) _ rfl rfl
  | afterClose base o k => exact .release (by simp) rfl rfl
  | @lowerClose base o hopen ready =>
      rw [CryptoLayer.closeUpper_fst]
      refine .clear ?_ (by rintro ⟨⟩) rfl
      cases h : base.upperOpen <;>
        simp [flips, CryptoLayer.closeFromLower, CryptoLayer.resetBoth, h]
  | _ => exact .of_log [] (by simp) (by simp) rfl rfl rfl

theorem flips_cases (before after : CryptoLayer) :
    (before.upperOpen = false ∧ after.upperOpen = true ∧ flips before after = [.opened]) ∨
      (.opened ∉ flips before after ∧ (after.upperOpen = true → before.upperOpen = true)) := by
  cases hb : before.upperOpen <;> cases ha : after.upperOpen <;> simp [flips, hb, ha]

/-- The submitted data since the upper layer was opened consists of the pieces that were
transmitted since then, and of what is left of it. -/
def FreshData (history : List Observation) (upperOpen : Bool) (tx : TxState) : Prop :=
  ∀ pre post, history = pre ++ .opened :: post → .opened ∉ post →
    ∃ lost, (submitted post).flatten = (chunks post).flatten ++ lost ∧
      (upperOpen = true → lost = tx.remainder)

/-- The payloads that the upper layer was given since it was opened, with the one that
is still unread, became available since then, in that order. -/
def FreshPayloads (history : List Observation) (unread : List Bytes) : Prop :=
  ∀ pre post, history = pre ++ .opened :: post → .opened ∉ post →
    List.Sublist (reads post ++ unread) (placed post)

namespace FreshData

variable {history new : List Observation} {upperOpen upperOpen' : Bool} {tx tx' : TxState}

theorem extend (hfresh : FreshData history upperOpen tx) (hnew : .opened ∉ new)
    (hstep : ∀ data sent lost : Bytes, data = sent ++ lost →
      (upperOpen = true → lost = tx.remainder) →
      ∃ lost', data ++ (submitted new).flatten = sent ++ (chunks new).flatten ++ lost' ∧
        (upperOpen' = true → lost' = tx'.remainder)) :
    FreshData (history ++ new) upperOpen' tx' := by
  intro pre post heq hpost
  obtain ⟨kept, rfl, hkept⟩ := History.split_append heq hnew
  simp only [List.mem_append, not_or] at hpost
  obtain ⟨lost, hlost, hopen⟩ := hfresh pre kept hkept hpost.1
  rw [submitted_append, chunks_append, List.flatten_append, List.flatten_append]
  exact hstep _ _ lost hlost hopen

/-- The upper layer has just been opened, and nothing is left from before. -/
theorem opened (hempty : tx'.remainder = []) : FreshData (history ++ [.opened]) upperOpen' tx' := by
  intro pre post heq hpost
  rcases History.split_concat heq with ⟨rfl, -, -⟩ | ⟨kept, rfl, -⟩
  · exact ⟨[], rfl, fun _ => hempty.symm⟩
  · simp at hpost

theorem aside (hfresh : FreshData history upperOpen tx) (haside : ∀ o ∈ new, o.aside = true)
    (hnew : .opened ∉ new) (hopen : upperOpen' = true → upperOpen = true)
    (hrest : upperOpen' = true → tx'.remainder = tx.remainder) :
    FreshData (history ++ new) upperOpen' tx' := by
  refine hfresh.extend hnew ?_
  intro data sent lost hdata hlost
  refine ⟨lost, ?_, fun h => (hlost (hopen h)).trans (hrest h).symm⟩
  rw [submitted_aside haside, chunks_aside haside]
  simpa using hdata

end FreshData

theorem TxState.onTxComplete_remainder (tx : TxState) :
    tx.onTxComplete.2.remainder = tx.remainder := by
  cases h : tx.transmitting <;> simp [onTxComplete, h]

theorem TxState.beginTransmit_remainder {tx : TxState} {chunk rest : Bytes}
    (hsplit : tx.remainder = chunk ++ rest) : (tx.beginTransmit rest).remainder = rest := by
  by_cases hempty : tx.remainder = []
  · have hrest : rest = [] := by
      rw [hempty] at hsplit
      exact (List.append_eq_nil_iff.mp hsplit.symm).2
    simp [beginTransmit, hempty, hrest]
  · simp [beginTransmit, hempty]

theorem freshData_move {cfg : Config} {mayFail : Fault → Prop} {s s' : Snapshot}
    (hmove : Move cfg mayFail s s') (hclosing : .afterClose ∈ s.stack → Closing s)
    (hclean : Clean s) (hinv : FreshData s.base.trace s.base.upperOpen s.base.txState) :
    FreshData s'.base.trace s'.base.upperOpen s'.base.txState := by
  have hclosing' := closing_move hmove hclosing
  -- an upper layer that is being opened has nothing left to transmit
  have hempty (hshut : s.base.upperOpen = false) (hstack : .afterClose ∉ s.stack) :
      s.base.txState.remainder = [] := by
    rw [(hclean.idle hshut).resolve_right hstack]
    rfl
  cases hmove.tx with
  | quiet new hquiet htrace htx hopen hready hstack =>
      have haside := aside_append_flips hquiet s.base s'.base
      rw [htrace]
      rcases flips_cases s.base s'.base with ⟨hshut, hup, hflips⟩ | ⟨hflips, hup⟩
      · rw [hflips]
        refine .opened ?_
        rw [htx]
        refine hempty hshut ?_
        intro hmem
        have hcontra := (hclosing' (hstack.mpr hmem)).upper
        rw [hup] at hcontra
        cases hcontra
      · rw [List.append_assoc]
        refine hinv.aside haside ?_ hup (fun _ => by rw [htx])
        rw [List.mem_append, not_or]
        exact ⟨fun hmem => by simpa [Observation.quiet] using hquiet _ hmem, hflips⟩
  | piece new hquiet transmission rest htrace hsplit hbound hprogress htx hsession
    hready hsent hopen
      hstack =>
      have hnot := Closing.not_mem_of_sending hclosing hsession hready
      have haside := aside_of_quiet hquiet
      have hnone (hshut : s.base.upperOpen = false) :
          transmission.userData = [] ∧ rest = [] := by
        rw [hempty hshut hnot] at hsplit
        exact List.append_eq_nil_iff.mp hsplit.symm
      rw [htrace, htx]
      rcases flips_cases s.base s'.base with ⟨hshut, hup, hflips⟩ | ⟨hflips, hup⟩
      · rw [hflips]
        refine .opened ?_
        rw [TxState.beginTransmit_remainder hsplit]
        exact (hnone hshut).2
      · rw [List.append_assoc]
        have hflipsAside := aside_flips s.base s'.base
        refine hinv.extend ?_ ?_
        · simp only [List.mem_append, List.mem_singleton, reduceCtorEq, or_false, not_or]
          exact ⟨fun hmem => by simpa [Observation.quiet] using hquiet _ hmem, hflips⟩
        · intro data sent lost hdata hlost
          have hsub : submitted (new ++ [.transmit transmission] ++ flips s.base s'.base) = [] := by
            rw [submitted_append, submitted_append, submitted_aside haside,
              submitted_aside hflipsAside]
            rfl
          have hchunks : (chunks (new ++ [.transmit transmission] ++
            flips s.base s'.base)).flatten =
              transmission.userData := by
            rw [chunks_append, chunks_append, chunks_aside haside, chunks_aside hflipsAside,
              List.append_nil, List.nil_append, chunks_transmit]
          rw [hsub, hchunks, TxState.beginTransmit_remainder hsplit]
          cases hopen' : s.base.upperOpen with
          | true =>
              refine ⟨rest, ?_, fun _ => rfl⟩
              rw [List.flatten_nil, List.append_nil, List.append_assoc, ← hsplit, ← hlost hopen']
              exact hdata
          | false =>
              refine ⟨lost, ?_, ?_⟩
              · rw [(hnone hopen').1]
                simpa using hdata
              · intro hopened
                rw [hup hopened] at hopen'
                cases hopen'
  | complete new hquiet htrace htx hupper hopen hopen' hrest hstack =>
      rw [htrace, List.append_assoc]
      refine hinv.extend ?_ ?_
      · intro hmem
        simp only [List.cons_append, List.mem_cons, List.mem_append, reduceCtorEq, false_or] at hmem
        rcases hmem with hmem | hmem
        · simpa [Observation.quiet] using hquiet _ hmem
        · split_ifs at hmem <;> simp at hmem
      · intro data sent lost hdata hlost
        have haside := aside_of_quiet hquiet
        have hsub := submitted_aside haside
        have hchunks := chunks_aside haside
        refine ⟨lost, ?_, ?_⟩
        · rw [submitted_append, chunks_append, show submitted (.completed :: new) = [] from hsub,
            show chunks (.completed :: new) = [] from hchunks]
          have hnone : data ++ [] = sent ++ [] ++ lost := by simpa using hdata
          split_ifs <;> exact hnone
        · intro hup
          rw [htx, TxState.onTxComplete_remainder]
          exact hlost (hupper.symm.trans hup)
  | completeClosed htrace htx hupper =>
      rw [htrace]
      refine hinv.extend (by simp) ?_
      intro data sent lost hdata hlost
      have hnone : data ++ [] = sent ++ [] ++ lost := by simpa using hdata
      refine ⟨lost, hnone, ?_⟩
      intro hup
      rw [htx]
      exact hlost (hupper.symm.trans hup)
  | submit data hready htrace htx hupper =>
      simp only [CryptoLayer.isTxReady, Bool.and_eq_true] at hready
      rw [htrace]
      refine hinv.extend (by simp) ?_
      intro before sent lost hdata hlost
      have hnil : lost = [] := by
        rw [hlost hready.1.2, TxState.isIdle_eq hready.2]
        rfl
      refine ⟨data, ?_, fun _ => by rw [htx]; rfl⟩
      rw [hdata, hnil]
      simp [submitted, chunks, Observation.submission, Observation.piece]
  | lowerOpen htrace htx hupper =>
      rw [htrace, htx, hupper]
      exact hinv
  | lowerClose htrace htx hupper =>
      have haside := aside_flips s.base s'.base
      rw [htrace]
      refine hinv.aside haside ?_ ?_ ?_
      · rcases flips_cases s.base s'.base with ⟨-, hup, -⟩ | ⟨hflips, -⟩
        · rw [hupper] at hup
          cases hup
        · exact hflips
      · rw [hupper]
        rintro ⟨⟩
      · rw [hupper]
        rintro ⟨⟩
  | afterClose htrace htx hupper hopen hstack =>
      have hshut := (hclosing hstack).upper
      rw [htrace, hupper, hshut]
      intro pre post heq hpost
      obtain ⟨lost, hlost, -⟩ := hinv pre post heq hpost
      exact ⟨lost, hlost, by rintro ⟨⟩⟩

namespace FreshPayloads

variable {history new : List Observation} {unread unread' : List Bytes}

theorem extend (hfresh : FreshPayloads history unread) (hnew : .opened ∉ new)
    (hstep : ∀ given available : List Bytes, List.Sublist (given ++ unread) available →
      List.Sublist (given ++ reads new ++ unread') (available ++ placed new)) :
    FreshPayloads (history ++ new) unread' := by
  intro pre post heq hpost
  obtain ⟨kept, rfl, hkept⟩ := History.split_append heq hnew
  simp only [List.mem_append, not_or] at hpost
  rw [reads_append, placed_append]
  exact hstep _ _ (hfresh pre kept hkept hpost.1)

/-- The upper layer has just been opened, and there is no payload from before. -/
theorem opened : FreshPayloads (history ++ [.opened]) [] := by
  intro pre post heq hpost
  rcases History.split_concat heq with ⟨rfl, -, -⟩ | ⟨kept, rfl, -⟩
  · exact List.Sublist.refl []
  · simp at hpost

theorem deaf (hfresh : FreshPayloads history unread) (hdeaf : ∀ o ∈ new, o.deaf = true)
    (hunread : List.Sublist unread' unread) : FreshPayloads (history ++ new) unread' := by
  refine hfresh.extend (fun hmem => by simpa [Observation.deaf] using hdeaf _ hmem) ?_
  intro given available hsub
  rw [reads_deaf hdeaf, placed_deaf hdeaf, List.append_nil, List.append_nil]
  exact ((List.Sublist.refl given).append hunread).trans hsub

end FreshPayloads

theorem CryptoLayer.unread_nil {layer : CryptoLayer} (hempty : layer.payloadData = []) :
    layer.unread = [] := by
  simp [unread, hempty]

theorem deaf_flips {before after : CryptoLayer} (hflips : .opened ∉ flips before after) :
    ∀ o ∈ flips before after, o.deaf = true := by
  intro o ho
  cases hb : before.upperOpen <;> cases ha : after.upperOpen <;>
    simp_all [flips, Observation.deaf]

theorem freshPayloads_move {cfg : Config} {mayFail : Fault → Prop} {s s' : Snapshot}
    (hmove : Move cfg mayFail s s') (hclosing : .afterClose ∈ s.stack → Closing s)
    (hclean : Clean s) (hinv : FreshPayloads s.base.trace s.base.unread) :
    FreshPayloads s'.base.trace s'.base.unread := by
  cases hmove.rx with
  | same new hdeaf htrace hpayload hflag =>
      have hunread : s'.base.unread = s.base.unread := by
        simp only [CryptoLayer.unread, hpayload, hflag]
      rw [htrace, hunread]
      rcases flips_cases s.base s'.base with ⟨hshut, hup, hflips⟩ | ⟨hflips, hup⟩
      · rw [hflips, CryptoLayer.unread_nil (hclean.payload hshut)]
        exact .opened
      · rw [List.append_assoc]
        refine hinv.deaf ?_ (List.Sublist.refl _)
        intro o ho
        exact (List.mem_append.mp ho).elim (hdeaf o) (deaf_flips hflips o)
  | place new hdeaf payload htrace hpayload =>
      rw [htrace]
      refine hinv.extend ?_ ?_
      · simp only [List.mem_append, List.mem_singleton, reduceCtorEq, or_false]
        exact fun hmem => by simpa [Observation.deaf] using hdeaf _ hmem
      · intro given available hsub
        have hreads : reads (new ++ [.placed payload]) = [] := by
          rw [reads_append, reads_deaf hdeaf]
          rfl
        have hplaced : placed (new ++ [.placed payload]) = [payload] := by
          rw [placed_append, placed_deaf hdeaf]
          rfl
        rw [hreads, hplaced, List.append_nil]
        have hgiven : List.Sublist given available :=
          (List.sublist_append_left given _).trans hsub
        have hunread : List.Sublist s'.base.unread [payload] := by
          simp only [CryptoLayer.unread, hpayload]
          split_ifs
          · exact List.Sublist.refl _
          · exact List.nil_sublist _
        exact hgiven.append hunread
  | read hfirst hnonempty htrace hflag =>
      have hbefore : s.base.unread = [s.base.payloadData] := by
        simp [CryptoLayer.unread, hfirst, hnonempty]
      have hafter : s'.base.unread = [] := by simp [CryptoLayer.unread, hflag]
      rw [htrace, hafter]
      refine hinv.extend (by simp) ?_
      intro given available hsub
      rw [hbefore] at hsub
      change List.Sublist (given ++ [s.base.payloadData] ++ []) (available ++ [])
      simpa using hsub
  | clear htrace hupper hpayload =>
      rw [htrace, CryptoLayer.unread_nil hpayload]
      refine hinv.deaf (deaf_flips ?_) (List.nil_sublist _)
      rcases flips_cases s.base s'.base with ⟨hshut, hup, -⟩ | ⟨hflips, -⟩
      · rw [hupper hup] at hshut
        cases hshut
      · exact hflips
  | release hstack htrace hpayload =>
      have hempty := hclean.payload (hclosing hstack).upper
      rw [htrace, CryptoLayer.unread_nil (hpayload.trans hempty)]
      rw [CryptoLayer.unread_nil hempty] at hinv
      exact hinv

/-- What a run keeps in which every message that the upper layer depends on can be
formatted. -/
structure Tidy (cfg : Config) (s : Snapshot) : Prop where
  closing : .afterClose ∈ s.stack → Closing s
  coupled : Coupled cfg s
  clean : Clean s
  data : FreshData s.base.trace s.base.upperOpen s.base.txState
  payloads : FreshPayloads s.base.trace s.base.unread

theorem Machine.DataFits.not_fails {cfg : Config} {machine : Machine} {label : Label}
    (hfits : machine.DataFits cfg label) : ¬ machine.Fails cfg label .data := by
  rintro ⟨env, stack, e, hlabel, hstack, hready, herror⟩
  obtain ⟨hnonce, hcan⟩ := hfits env (by rw [hlabel]; rfl) (by rw [hstack]; rfl) hready
  obtain ⟨formatted, hok⟩ := Session.formatSessionData_ok
    (CryptoLayer.ready_of_canTransmit hready).1 hnonce hcan
  rw [hok] at herror
  cases herror

theorem tidy_run {cfg : Config} {labels : List Label} {machine : Machine}
    (hrun : Machine.create.run cfg labels = some machine)
    (halong : Runs.Along (Machine.step cfg)
      (fun machine label => machine.AnswerFits cfg label ∧ machine.DataFits cfg label)
      Machine.create labels) : Tidy cfg machine.snapshot := by
  refine Machine.run_invariant ?_ hrun halong ?_
  · intro machine label hinv hfits s s' hmove htidy
    have hanswer := hfits.1.not_fails hinv.coupled
    have hdata := hfits.2.not_fails
    exact ⟨closing_move hmove htidy.closing, coupled_move hmove hanswer htidy.coupled,
      clean_move hmove hdata hanswer htidy.closing htidy.coupled htidy.clean,
      freshData_move hmove htidy.closing htidy.clean htidy.data,
      freshPayloads_move hmove htidy.closing htidy.clean htidy.payloads⟩
  · refine ⟨nofun, ⟨rfl, nofun⟩, ⟨fun _ => rfl, fun _ => Or.inl rfl, nofun⟩, ?_, ?_⟩
    · intro pre post heq
      simp [Machine.snapshot, Machine.create, Layer.create, CryptoLayer.create] at heq
    · intro pre post heq
      simp [Machine.snapshot, Machine.create, Layer.create, CryptoLayer.create] at heq

/-- **Nothing stale crosses a close of the upper layer**, in a run in which every message
that has to be formatted on behalf of the upper layer can be formatted.  Between
events a closed upper layer has neither data to transmit nor a payload.  What is
transmitted since an opening was submitted since then, and every frame seals what it is
recorded with; what is read since then became
available since then, and a closed upper layer does not keep the layer from reading
the next message. -/
theorem nothing_stale (cfg : Config) {labels : List Label} {machine : Machine}
    (hrun : Machine.create.run cfg labels = some machine)
    (halong : Runs.Along (Machine.step cfg)
      (fun machine label => machine.AnswerFits cfg label ∧ machine.DataFits cfg label)
      Machine.create labels) :
    (machine.stack = [] → machine.layer.base.upperOpen = false →
      machine.layer.base.txState = TxState.idle ∧ machine.layer.base.payloadData = []) ∧
    (∀ pre post, machine.layer.base.trace = pre ++ .opened :: post → .opened ∉ post →
      (∀ transmission, .transmit transmission ∈ post → transmission.Faithful cfg.ctx) ∧
        (chunks post).flatten <+: (submitted post).flatten ∧
        List.Sublist (reads post) (placed post)) ∧
    (machine.layer.base.upperOpen = false → machine.layer.base.lowerTxReady = true →
      ∀ env message messages, machine.layer.base.lowerRx = message :: messages → message ≠ [] →
        machine.layer.tryReadFromLower cfg env =
          let processed := Layer.process cfg env { machine.layer with base :=
            { machine.layer.base with lowerRx := messages } } message
          (processed.1, processed.2 ++ [.tryReadFromLower])) := by
  have htidy := tidy_run hrun halong
  refine ⟨?_, ?_, ?_⟩
  · intro hrest hshut
    refine ⟨(htidy.clean.idle hshut).resolve_right ?_, htidy.clean.payload hshut⟩
    rw [show machine.snapshot.stack = [] from hrest]
    nofun
  · intro pre post heq hpost
    obtain ⟨lost, hlost, -⟩ := htidy.data pre post heq hpost
    refine ⟨fun transmission hmem => Machine.faithful_run hrun transmission ?_, ⟨lost, hlost.symm⟩,
      (List.sublist_append_left _ _).trans (htidy.payloads pre post heq hpost)⟩
    rw [heq]
    simp [hmem]
  · intro hshut hready env message messages hrx hmessage
    have hempty : machine.layer.base.payloadData = [] := htidy.clean.payload hshut
    simp [Layer.tryReadFromLower, hready, hempty, hrx, hmessage]

namespace Clean

/-- The upper layer submits data, which goes out, and is closed from below. -/
def closing : List Label :=
  Emission.submitting ++ [.ret, .run (Sample.env 2), .run (Sample.env 2), .startTx [4],
    .run (Sample.env 2), .lowerClose false, .ret, .run (Sample.env 2)]

def closed : Machine := Sample.reached (Sample.responder 1000) closing

theorem closing_run : Machine.create.run (Sample.responder 1000) closing = some closed := by
  decide +kernel

theorem nothing_stale_sample :
    closed.stack = [] ∧ closed.layer.base.upperOpen = false ∧
      closed.layer.base.txState = TxState.idle ∧ closed.layer.base.payloadData = [] :=
  ⟨by decide +kernel, by decide +kernel,
    (nothing_stale (Sample.responder 1000) closing_run (by decide +kernel)).1 (by decide +kernel)
      (by decide +kernel)⟩

/-- The session allows one message, which the answer to the auth message was.  The data
that the upper layer submits next cannot be formatted; the upper layer is closed, and
the data stays behind. -/
def exhausting : List Label :=
  Sample.opening ⟨1, 60000⟩ ++ [.startTx [1, 2, 3], .run (Sample.env 2), .ret, .run (Sample.env 2),
    .run (Sample.env 2), .lowerTxReady (Sample.env 2), .run (Sample.env 2),
      .run (Sample.env 2), .ret]

theorem stale_data_left_behind :
    let machine := Sample.reached (Sample.responder 1000) exhausting
    Machine.create.run (Sample.responder 1000) exhausting = some machine ∧
      machine.stack = [] ∧ machine.layer.base.upperOpen = false ∧
      machine.layer.base.txState = ⟨false, [1, 2, 3]⟩ := by
  decide +kernel

end Clean

end Ssp21
