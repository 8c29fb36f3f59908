import Ssp21.Crypto.Endpoint

/-!
# Steps as acts

A step of a machine is a sequence of acts of its endpoint, as long as the step meets the conditions
on a run of two parties.

* `Punctual`: the payload of an auth message is placed before anything else is read.
* `Machine.step_acts`: what a step does, and that it keeps `Punctual`.
-/

namespace Ssp21

open Wire

/-! ## Payloads that are still to be placed -/

/-- At most one payload is still to be placed. -/
def Single : List Task → Prop
  | [] => True
  | task :: k => (task.payload.getD [] ≠ [] → owed k = []) ∧ Single k

theorem single_of_owed {k : List Task} (hnone : owed k = []) : Single k := by
  induction k with
  | nil => exact trivial
  | cons task k ih =>
      rw [owed_cons, List.append_eq_nil_iff] at hnone
      exact ⟨fun _ => hnone.2, ih hnone.2⟩

theorem Single.append {tasks k : List Task} (hfirst : Single tasks) (hsecond : Single k)
    (hnone : owed tasks = [] ∨ owed k = []) : Single (tasks ++ k) := by
  induction tasks with
  | nil => exact hsecond
  | cons task tasks ih =>
      rw [owed_cons, List.append_eq_nil_iff] at hnone
      refine ⟨fun hne => ?_, ih hfirst.2 (hnone.imp_left And.right)⟩
      show owed (tasks ++ k) = []
      rw [owed_append, hfirst.1 hne, hnone.resolve_left (fun h => hne h.1), List.append_nil]

/-- A payload that is to be placed is the next thing to do, or the lower layer is busy; and there
is room for it. -/
structure Punctual (base : CryptoLayer) (k : List Task) : Prop where
  single : Single k
  empty : owed k ≠ [] → base.payloadData = []
  next : owed k ≠ [] → base.lowerTxReady = false ∨
    ∃ payload, payload ≠ [] ∧ k.head? = some (.authPayload payload)

namespace Punctual

variable {base base' : CryptoLayer} {tasks k : List Task} {task : Task}

theorem of_none (hnone : owed k = []) : Punctual base k :=
  ⟨single_of_owed hnone, fun hne => absurd hnone hne, fun hne => absurd hnone hne⟩

/-- Nothing is owed when a message is read. -/
theorem nothing_owed (h : Punctual base (.tryReadFromLower :: k)) (hread : base.canRead) :
    owed k = [] := by
  by_contra hne
  rcases h.next hne with hbusy | ⟨payload, -, hhead⟩
  · rw [hread.1] at hbusy
    cases hbusy
  · cases hhead

/-- Other tasks come and go, and the lower layer stays busy. -/
theorem of_busy (h : Punctual base (task :: k)) (htask : task.payload.getD [] = [])
    (tasks : List Task)
    (howed : owed tasks = [])
    (hpayload : base'.payloadData = base.payloadData ∨ base'.payloadData = [])
    (hready : base'.lowerTxReady = true → base.lowerTxReady = true) :
    Punctual base' (tasks ++ k) := by
  have hsame : owed (task :: k) = owed k := by rw [owed_cons, htask, List.nil_append]
  have hafter : owed (tasks ++ k) = owed k := by rw [owed_append, howed, List.nil_append]
  refine ⟨(single_of_owed howed).append h.single.2 (Or.inl howed), ?_, ?_⟩
  · intro hne
    rw [hafter, ← hsame] at hne
    rcases hpayload with hkept | hempty
    · rw [hkept]
      exact h.empty hne
    · exact hempty
  · intro hne
    rw [hafter, ← hsame] at hne
    rcases h.next hne with hbusy | ⟨payload, hpayload, hhead⟩
    · refine Or.inl ?_
      rw [Bool.eq_false_iff]
      intro hafter
      rw [hready hafter] at hbusy
      cases hbusy
    · obtain rfl := Option.some.inj hhead
      exact absurd htask hpayload

/-- A call of the upper layer. -/
theorem of_call (h : Punctual base k) (hcall : Machine.upperMayCall k = true) (tasks : List Task)
    (howed : owed tasks = [])
    (hpayload : base'.payloadData = base.payloadData ∨ base'.payloadData = [])
    (hready : base'.lowerTxReady = true → base.lowerTxReady = true) :
    Punctual base' (tasks ++ k) := by
  cases k with
  | nil => exact .of_none (by rwa [List.append_nil])
  | cons task k =>
      cases task with
      | upper callback =>
          have hcalled : owed (tasks ++ [.upper callback]) = [] := by
            rw [owed_append, howed]
            rfl
          have hprompt := h.of_busy rfl (tasks ++ [.upper callback]) hcalled hpayload hready
          simpa using hprompt
      | _ => cases hcall

/-- Older tasks lie below, and owe nothing. -/
theorem append (h : Punctual base tasks) (hnone : owed k = []) :
    Punctual base (tasks ++ k) := by
  have hsame : owed (tasks ++ k) = owed tasks := by rw [owed_append, hnone, List.append_nil]
  refine ⟨h.single.append (single_of_owed hnone) (Or.inr hnone), ?_, ?_⟩
  · rw [hsame]
    exact h.empty
  · intro hne
    rw [hsame] at hne
    refine (h.next hne).imp_right ?_
    rintro ⟨payload, hpayload, hhead⟩
    exact ⟨payload, hpayload, by simp [List.head?_append, hhead]⟩

theorem owed_openUpper (base : CryptoLayer) : owed base.openUpper.2 = [] :=
  owed_of_upper (fun _ hmem => ⟨_, CryptoLayer.openUpper_snd hmem⟩)

/-- The payload of an auth message, behind the callback that opens the upper layer. -/
theorem of_auth {payload : Bytes} {rest : List Task} (hrest : owed rest = [])
    (hempty : base.payloadData = [])
    (hnext : payload ≠ [] → base.lowerTxReady = false ∨ base.upperOpen = true) :
    Punctual base.openUpper.1 (base.openUpper.2 ++ .authPayload payload :: rest) := by
  have howed : owed (base.openUpper.2 ++ .authPayload payload :: rest) = payload := by
    rw [owed_append, owed_openUpper, owed_cons, hrest]
    simp [Task.payload]
  refine ⟨Single.append (single_of_owed (owed_openUpper base))
    ⟨fun _ => hrest, single_of_owed hrest⟩ (Or.inl (owed_openUpper base)), ?_, ?_⟩
  · intro _
    rw [CryptoLayer.openUpper_fst]
    exact hempty
  · rw [howed]
    intro hne
    rcases hnext hne with hbusy | hopen
    · refine Or.inl ?_
      rw [CryptoLayer.openUpper_fst]
      exact hbusy
    · exact Or.inr ⟨payload, hne, by simp [CryptoLayer.openUpper, hopen]⟩

end Punctual

namespace Layer

open CryptoLayer (Confined KeepsInput)

variable {cfg : Config} {config : InitiatorConfig} {layer : Layer} {env : Env} {message : Bytes}

theorem prompt_nil (base : CryptoLayer) : Punctual base [] :=
  .of_none rfl

theorem onAuthMessage_prompt {ctx : SessionContext} (hempty : layer.base.payloadData = [])
    (msg : SessionData)
    (hopen : ∀ payload, layer.initiator.handshakeState = .waitForAuthReply →
      Session.Accepts ctx SessionNonceMode.equalToZero layer.base.pending msg env.now payload →
      payload ≠ [] → layer.base.upperOpen = true) :
    Punctual (layer.onAuthMessage ctx config env msg).1.base
      (layer.onAuthMessage ctx config env msg).2 := by
  unfold onAuthMessage
  split_ifs with hstate
  · exact prompt_nil _
  · rcases Session.validateSessionAuth_cases ctx layer.base.pending
      (layer.base.logVerified ctx layer.base.pending msg).statistics msg env.now with
      ⟨payload, stats', haccepts, heq⟩ | ⟨e, stats', heq⟩
    · simp only [heq]
      rw [logVerified_accepts haccepts]
      refine .of_auth rfl hempty ?_
      exact fun hne => Or.inr (hopen payload (not_not.mp hstate) haccepts hne)
    · simp only [heq]
      exact prompt_nil _

theorem onAuthSession_prompt (hread : layer.base.canRead) (msg : SessionData) :
    Punctual (layer.onAuthSession cfg.ctx env msg).1.base
      (layer.onAuthSession cfg.ctx env msg).2 := by
  unfold onAuthSession
  split_ifs
  · exact prompt_nil _
  · rcases Session.validateSessionAuth_cases cfg.ctx layer.base.pending
      (layer.base.logVerified cfg.ctx layer.base.pending msg).statistics msg env.now with
      ⟨payload, stats', haccepts, heq⟩ | ⟨e, stats', heq⟩
    · simp only [heq]
      rw [logVerified_accepts haccepts]
      generalize hactivated : CryptoLayer.activatePending _ = activated
      have hready : activated.lowerTxReady = true := by
        rw [← hactivated]
        exact hread.1
      have hempty : activated.payloadData = [] := by
        rw [← hactivated]
        exact hread.2
      rcases CryptoLayer.transmitSessionAuth_cases cfg.ctx hready .active env.later with
        ⟨rest, formatted, htx, hformats, hsend⟩ | ⟨e, herror, hsend⟩
      · rw [hsend]
        exact .of_auth rfl hempty (fun _ => Or.inl rfl)
      · rw [hsend]
        exact prompt_nil _
    · simp only [heq]
      exact prompt_nil _

theorem owed_notifyRxReady (base : CryptoLayer) : owed base.notifyRxReady.2 = [] :=
  owed_of_upper (fun _ hmem => ⟨_, notifyRxReady_snd hmem⟩)

/-- A transmission may close the upper layer. -/
theorem checkTransmit_snd {task : Task} (hmem : task ∈ (layer.checkTransmit cfg env).2) :
    task = .upper .onLowerClose := by
  unfold checkTransmit at hmem
  dsimp only at hmem
  split_ifs at hmem
  · cases hmem
  · split at hmem
    · exact CryptoLayer.closeUpper_snd hmem
    · cases hmem

theorem onSessionData_prompt (msg : SessionData) :
    Punctual (layer.onSessionData cfg env msg).1.base (layer.onSessionData cfg env msg).2 := by
  unfold onSessionData
  dsimp only
  split
  · exact prompt_nil _
  · exact .of_none (owed_notifyRxReady _)

/-- The payload of an auth message comes for an open upper layer, or with an answer. -/
theorem process_prompt (hread : layer.base.canRead)
    (hopen : ∀ msg payload, SessionData.read message = .ok msg → msg.metadata.nonce = 0 →
      layer.initiator.handshakeState = .waitForAuthReply →
      Session.Accepts cfg.ctx SessionNonceMode.equalToZero layer.base.pending msg env.now payload →
      payload ≠ [] → layer.base.upperOpen = true) :
    Punctual (layer.process cfg env message).1.base (layer.process cfg env message).2 := by
  unfold process
  split
  · exact prompt_nil _
  · split
    · split <;> exact prompt_nil _
    · split <;> exact prompt_nil _
    · split <;> exact prompt_nil _
    · split
      · exact prompt_nil _
      · rename_i msg hmsg
        unfold onSessionMessage
        split_ifs with hnonce
        · split
          · exact onAuthMessage_prompt hread.2 msg (fun payload => hopen msg payload hmsg hnonce)
          · exact onAuthSession_prompt hread msg
        · exact onSessionData_prompt msg
    · exact prompt_nil _

theorem tryReadFromLower_does {store : UInt64 → Option Bytes} {k : List Task}
    (hreceives : layer.base.canRead → ∀ message ∈ layer.base.lowerRx.head?,
      Receives cfg store layer k env message) :
    Does cfg store layer k layer.base.lowerRx (layer.tryReadFromLower cfg env).1
      ((layer.tryReadFromLower cfg env).2 ++ k)
        (layer.tryReadFromLower cfg env).1.base.lowerRx := by
  unfold tryReadFromLower
  split_ifs with hguard
  · exact .of_eq rfl
  · have hread := CryptoLayer.canRead_of_guard hguard
    split
    · exact .of_eq rfl
    · rename_i message messages hrx
      rw [hrx]
      split_ifs with hempty
      · rw [List.isEmpty_iff.mp hempty]
        exact skip_foreign foreign_nil
      · let popped : Layer := { layer with base := { layer.base with lowerRx := messages } }
        obtain ⟨hcan, howed, hkeys, htime, hanswers, hunsent, hopened⟩ :=
          hreceives hread message (by rw [hrx]; rfl)
        have hpopped : Receives cfg store popped k env message :=
          ⟨hcan, howed, hkeys, htime, hanswers, hunsent, hopened⟩
        have hprocess := @process_does cfg store popped k messages env message hpopped
        have hkept : (popped.process cfg env message).1.base.lowerRx = messages :=
          (@process_delivers cfg (fun _ => True) popped hread.1 env message
            (fun _ _ _ _ => trivial)).lowerRx
        obtain ⟨new, hacts⟩ := hprocess
        refine ⟨new, ?_⟩
        -- the layer tries to read again afterwards, which by itself is no act
        have hsame : (popped.process cfg env message).1.endpoint
            ((popped.process cfg env message).2 ++ .tryReadFromLower :: k) messages =
              (popped.process cfg env message).1.endpoint
                ((popped.process cfg env message).2 ++ k) messages := by
          simp [endpoint, owed_append, owed_cons, Task.payload]
        rw [← hsame] at hacts
        simp only [List.append_assoc, List.cons_append, List.nil_append]
        rw [hkept]
        exact hacts

theorem onLowerOpen_does {store : UInt64 → Option Bytes} (henv : env.KeysFrom store)
    (ready : Bool) :
    Does cfg store layer [] layer.base.lowerRx (layer.onLowerOpen cfg env ready) []
      (layer.onLowerOpen cfg env ready).base.lowerRx := by
  unfold onLowerOpen
  split_ifs
  · exact .of_eq rfl
  · have hopened : Does cfg store layer [] layer.base.lowerRx { layer with base :=
        { layer.base with isOpen := true, lowerTxReady := ready } } [] layer.base.lowerRx :=
          .of_eq rfl
    dsimp only
    split
    · rename_i config hrole
      rw [((handshakes_confined _).onHandshakeRequired _ _ env env.now).lowerRx]
      exact hopened.trans (onHandshakeRequired_does hrole henv env.now)
    · exact hopened

theorem onLowerTxReady_does {store : UInt64 → Option Bytes} (henv : env.KeysFrom store) :
    Does cfg store layer [] layer.base.lowerRx (layer.onLowerTxReady cfg env).1
      (layer.onLowerTxReady cfg env).2 (layer.onLowerTxReady cfg env).1.base.lowerRx := by
  rw [onLowerTxReady_lowerRx]
  have hcompleted := CryptoLayer.SameView.log
    { layer.base with lowerTxReady := true } .completed rfl
    rfl rfl
  have hcomplete : Does cfg store layer [] layer.base.lowerRx
      { layer with base := layer.base.complete } [] layer.base.lowerRx :=
    .of_eq (hcompleted.endpoint_eq layer.initiator rfl rfl _)
  have hpre := hcomplete.trans (onPreTxReady_does henv)
  unfold onLowerTxReady
  dsimp only
  split_ifs
  · exact .of_eq (hcompleted.endpoint_eq layer.initiator rfl rfl _)
  · exact hpre.trans (.of_eq (endpoint_eq_of_upper (.notifyTxReady _) _
      (fun _ hmem => ⟨_, CryptoLayer.notifyTxReady_snd hmem⟩) _ _))
  · exact hpre.trans (.of_eq rfl)

theorem onTimer_does {store : UInt64 → Option Bytes} (henv : env.KeysFrom store) {timer : Timer}
    (hpatient : timer.kind = .response → layer.initiator.handshakeState ≠ .waitForBeginReply ∧
      layer.initiator.handshakeState ≠ .waitForAuthReply) :
    Does cfg store layer [] layer.base.lowerRx (layer.onTimer cfg env timer) []
      (layer.onTimer cfg env timer).base.lowerRx := by
  rw [((handshakes_confined _).onTimer env timer).lowerRx]
  have hfired : Does cfg store layer [] layer.base.lowerRx
      { layer with initiator := { layer.initiator with
      timers := layer.initiator.timers.filter (fun other => other.id ≠ timer.id) } } []
      layer.base.lowerRx := .of_eq rfl
  unfold onTimer
  dsimp only
  split
  · exact hfired
  · rename_i config hrole
    split
    · rename_i hkind
      split
      · rename_i hstate
        exact absurd hstate (hpatient hkind).1
      · rename_i hstate
        exact absurd hstate (hpatient hkind).2
      · exact hfired
    · refine (hfired.trans ?_).trans (onHandshakeRequired_does hrole henv env.now)
      split
      · rename_i hstate
        exact .of_act (.turn .idle layer.initiator.handshake hrole
          (by simp only [endpoint, hstate, HandshakeState.waits]) rfl) rfl
      · exact .of_eq rfl
    · exact hfired.trans (onHandshakeRequired_does hrole henv env.now)

theorem startRxFromUpper_lowerRx (base : CryptoLayer) :
    base.startRxFromUpper.1.lowerRx = base.lowerRx := by
  unfold CryptoLayer.startRxFromUpper
  dsimp only
  split_ifs <;> rfl

theorem startRxFromUpper_lowerTxReady (base : CryptoLayer) :
    base.startRxFromUpper.1.lowerTxReady = base.lowerTxReady := by
  unfold CryptoLayer.startRxFromUpper
  dsimp only
  split_ifs <;> rfl

theorem owed_startRxFromUpper (base : CryptoLayer) : owed base.startRxFromUpper.2 = [] := by
  unfold CryptoLayer.startRxFromUpper
  dsimp only
  split_ifs <;> rfl

theorem startTxFromUpper_lowerRx (base : CryptoLayer) (data : Bytes) :
    (base.startTxFromUpper data).1.lowerRx = base.lowerRx := by
  unfold CryptoLayer.startTxFromUpper
  split_ifs <;> rfl

theorem startRxFromUpper_does {store : UInt64 → Option Bytes} {k : List Task} :
    Does cfg store layer k layer.base.lowerRx { layer with base := layer.base.startRxFromUpper.1 }
      (layer.base.startRxFromUpper.2 ++ k) layer.base.lowerRx := by
  unfold CryptoLayer.startRxFromUpper
  by_cases hflag : layer.base.upperIsProcessingRxData = true
  · simp only [hflag, if_true, List.isEmpty_nil]
    refine .of_act (.discard hflag) ?_
    simp [endpoint, owed_cons, Task.payload]
  · have hfirst : layer.base.upperIsProcessingRxData = false := by simpa using hflag
    simp only [hfirst, Bool.false_eq_true, if_false]
    split_ifs with hempty
    · exact .of_eq (by simp [endpoint, owed_cons, Task.payload])
    · refine .of_act (.read hfirst (by simpa [endpoint] using hempty)) ?_
      simp [endpoint, CryptoLayer.log, transmissions, received, reads]

theorem startTxFromUpper_does {store : UInt64 → Option Bytes} {k : List Task} (data : Bytes) :
    Does cfg store layer k layer.base.lowerRx
      { layer with base := (layer.base.startTxFromUpper data).1 }
      ((layer.base.startTxFromUpper data).2 ++ k) layer.base.lowerRx := by
  unfold CryptoLayer.startTxFromUpper
  split_ifs
  · exact .of_eq (by
      simp [endpoint, CryptoLayer.log, transmissions, received, reads, owed_cons, Task.payload])
  · exact .of_eq rfl

end Layer

/-! ## Steps -/

/-- The tasks behind a message are callbacks, the payload of an auth message and what follows it. -/
theorem Delivers.unclosed {mayDrop : Bytes → Prop} {base base' : CryptoLayer} {tasks : List Task}
    (hdelivers : Delivers mayDrop base base' tasks) : .afterClose ∉ tasks := by
  cases hdelivers with
  | nothing => simp
  | data =>
      intro hmem
      cases Layer.notifyRxReady_snd hmem
  | auth key msg payload rest hrest =>
      intro hmem
      rcases List.mem_append.mp hmem with hmem | hmem
      · cases CryptoLayer.openUpper_snd hmem
      · rcases hrest with rfl | rfl <;> simp at hmem
  | dropped => simp

/-- If the answer to its auth message carries data, then the initiator has an active session. -/
def Endpoint.Expects (cfg : Config) (e : Endpoint) : Prop :=
  ∀ message rest msg payload, e.rx = message :: rest → SessionData.read message = .ok msg →
    msg.metadata.nonce = 0 → e.state = .waitForAuthReply →
    SessionMode.read cfg.ctx.backend e.pending.algorithms.sessionMode e.pending.keys.rxKey msg
      cfg.ctx.payloadBufferLength = .ok payload →
    payload ≠ [] → e.active.valid = true

namespace Machine

/-- What a step is taken under, between two parties. -/
structure Conforms (cfg : Config) (store : UInt64 → Option Bytes) (machine : Machine)
    (label : Label) : Prop where
  stays : label.closes = false
  keys : ∀ env ∈ label.env?, env.KeysFrom store
  inTime : machine.ReadsInTime cfg label
  withholds : machine.Withholds label
  patient : machine.Patient label
  answers : machine.Answers cfg label

/-- What a machine keeps to between the steps. -/
structure Fit (cfg : Config) (machine : Machine) : Prop where
  coupled : Coupled cfg machine.snapshot
  opened : machine.layer.base.txState.remainder ≠ [] → machine.layer.base.upperOpen = true
  unclosed : .afterClose ∉ machine.stack
  prompt : Punctual machine.layer.base machine.stack

theorem acts_of_does {cfg : Config} {store : UInt64 → Option Bytes} {layer layer' : Layer}
    {k k' : List Task}
    (hdoes : Does cfg store layer k layer.base.lowerRx layer' k' layer'.base.lowerRx) :
    ∃ new, Endpoint.Acts cfg store (endpoint ⟨layer, k⟩) new (endpoint ⟨layer', k'⟩) :=
  hdoes

/-- What a message that is read now finds. -/
theorem Fit.receives {cfg : Config} {store : UInt64 → Option Bytes} {layer : Layer}
    {stack : List Task} {env : Env} (hfit : Fit cfg ⟨layer, .tryReadFromLower :: stack⟩)
    (hconforms : Conforms cfg store ⟨layer, .tryReadFromLower :: stack⟩ (.run env))
    (hread : layer.base.canRead) {message : Bytes} (hmessage : message ∈ layer.base.lowerRx.head?) :
    layer.Receives cfg store stack env message where
  canRead := hread
  owed := hfit.prompt.nothing_owed hread
  keys := hconforms.keys env rfl
  inTime := by
    intro msg hmsg
    exact hconforms.inTime env rfl rfl hread message hmessage msg (by rw [hmsg]; rfl)
  answers := by
    intro msg payload hmsg hresponder hnonce haccepts
    exact hconforms.answers env rfl rfl hresponder hread message hmessage msg (by rw [hmsg]; rfl)
      payload (by rw [haccepts.authentic]; rfl) hnonce haccepts
  unsent := hfit.coupled.unsent
  opened := fun hne => hfit.coupled.coupled.symm.trans (hfit.opened hne)

theorem runTask_does {cfg : Config} {store : UInt64 → Option Bytes} {layer : Layer} {task : Task}
    {stack : List Task} {env : Env} {result : Layer × List Task}
    (hrun : layer.runTask cfg env task = some result)
    (hconforms : Conforms cfg store ⟨layer, task :: stack⟩ (.run env))
    (hupper : .closed ∉ result.1.base.trace) (hfit : Fit cfg ⟨layer, task :: stack⟩) :
    Does cfg store layer (task :: stack) layer.base.lowerRx result.1 (result.2 ++ stack)
      result.1.base.lowerRx := by
  cases Layer.ran_of_runTask hrun with
  | tryReadFromLower =>
      have hpop : Does cfg store layer (.tryReadFromLower :: stack) layer.base.lowerRx layer stack
          layer.base.lowerRx := .of_eq (by simp [Layer.endpoint, owed_cons, Task.payload])
      exact hpop.trans (Layer.tryReadFromLower_does
        (fun hread _ hmessage => hfit.receives hconforms hread hmessage))
  | checkTransmit =>
      have hpop : Does cfg store layer (.checkTransmit :: stack) layer.base.lowerRx layer stack
          layer.base.lowerRx := .of_eq (by simp [Layer.endpoint, owed_cons, Task.payload])
      rw [(Layer.checkTransmit_keepsInput env).lowerRx]
      exact hpop.trans (Layer.checkTransmit_does hfit.coupled.coupled
        (hconforms.keys env rfl) hupper
        (hconforms.withholds env rfl rfl))
  | noPayload => exact .of_eq (by simp [Layer.endpoint, owed_cons, Task.payload])
  | @authPayload payload hne =>
      -- only one auth message is dealt with at a time
      have hbelow : owed stack = [] := hfit.prompt.single.1 hne
      have howed : owed (.authPayload payload :: stack) = payload := by
        simp [owed_cons, Task.payload, hbelow]
      have hplace : Does cfg store layer (.authPayload payload :: stack) layer.base.lowerRx
          { layer with base := layer.base.placePayload payload } stack layer.base.lowerRx := by
        refine .of_act (.place (show owed (.authPayload payload :: stack) ≠ [] by rwa [howed])) ?_
        simp [Layer.endpoint, CryptoLayer.log, transmissions, received, reads,
          CryptoLayer.placePayload, howed, hbelow]
      rw [(CryptoLayer.Confined.notifyRxReady _).lowerRx]
      exact hplace.trans (.of_eq (Layer.notifyRxReady_endpoint _ _ stack _))
  | enterIdle =>
      have hcount : (Layer.endpoint layer (.enterIdle :: stack) layer.base.lowerRx).entering =
          stack.count .enterIdle + 1 := by simp [Layer.endpoint]
      refine .of_act (.enterIdle hcount) ?_
      simp [Layer.endpoint, owed_cons, Task.payload]
  | afterClose => exact absurd List.mem_cons_self hfit.unclosed

/-- **A step is a sequence of acts**, unless it is the arrival of a message. -/
theorem step_acts {cfg : Config} {store : UInt64 → Option Bytes} {machine machine' : Machine}
    {label : Label} (hstep : machine.step cfg label = some machine')
    (harrives : ∀ message, label ≠ .receive message) (hconforms : machine.Conforms cfg store label)
    (hupper : .closed ∉ machine'.layer.base.trace) (hfit : machine.Fit cfg) :
    ∃ new, Endpoint.Acts cfg store machine.endpoint new machine'.endpoint := by
  refine acts_of_does ?_
  have hkeys := hconforms.keys
  cases steps_of_step hstep with
  | receive layer stack message => exact absurd rfl (harrives message)
  | lowerOpen layer ready env => exact Layer.onLowerOpen_does (hkeys env rfl) ready
  | lowerClose => cases hconforms.stays
  | lowerTxReady layer env => exact Layer.onLowerTxReady_does (hkeys env rfl)
  | lowerRxReady layer =>
      unfold Layer.onLowerRxReady
      split_ifs <;> exact .of_eq rfl
  | @timer layer timer id env hfind hdue =>
      exact Layer.onTimer_does (hkeys env rfl) (hconforms.patient timer hfind)
  | startRx layer hcall =>
      rw [Layer.startRxFromUpper_lowerRx]
      exact Layer.startRxFromUpper_does
  | startTx layer data hcall =>
      rw [Layer.startTxFromUpper_lowerRx]
      exact Layer.startTxFromUpper_does data
  | ret layer stack callback => exact .of_eq (by simp [Layer.endpoint, owed_cons, Task.payload])
  | run stack env hrun => exact runTask_does hrun hconforms hupper hfit

/-! ### What a step keeps -/

theorem tryReadFromLower_prompt {cfg : Config} {layer : Layer} {stack : List Task} {env : Env}
    (hprompt : Punctual layer.base (.tryReadFromLower :: stack))
    (hcoupled : layer.base.upperOpen = layer.base.active.valid)
    (hexpects : (endpoint ⟨layer, .tryReadFromLower :: stack⟩).Expects cfg) :
    Punctual (layer.tryReadFromLower cfg env).1.base ((layer.tryReadFromLower cfg env).2 ++ stack) ∧
      .afterClose ∉ (layer.tryReadFromLower cfg env).2 := by
  unfold Layer.tryReadFromLower
  split_ifs with hguard
  · exact ⟨hprompt.of_busy rfl [] rfl (Or.inl rfl) id, by simp⟩
  · have hread := CryptoLayer.canRead_of_guard hguard
    have howed := hprompt.nothing_owed hread
    split
    · exact ⟨hprompt.of_busy rfl [] rfl (Or.inl rfl) id, by simp⟩
    · rename_i message messages hrx
      split_ifs
      · exact ⟨hprompt.of_busy rfl [] rfl (Or.inl rfl) id, by simp⟩
      · let popped : Layer := { layer with base := { layer.base with lowerRx := messages } }
        have hprocess : Punctual (popped.process cfg env message).1.base
            (popped.process cfg env message).2 := by
          refine Layer.process_prompt (show popped.base.canRead from hread) ?_
          intro msg payload hmsg hnonce hstate haccepts hne
          exact hcoupled.trans (hexpects message messages msg payload hrx hmsg hnonce hstate
            haccepts.authentic hne)
        have hunclosed := (@Layer.process_delivers cfg (fun _ => True) popped hread.1 env message
          (fun _ _ _ _ => trivial)).unclosed
        rw [List.append_assoc]
        refine ⟨hprocess.append ?_, ?_⟩
        · simpa [owed_cons, Task.payload] using howed
        · simpa using hunclosed

theorem prompt_step {cfg : Config} {machine machine' : Machine} {label : Label}
    (hstep : machine.step cfg label = some machine') (hstays : label.closes = false)
    (hcoupled : machine.layer.base.upperOpen = machine.layer.base.active.valid)
    (hexpects : machine.endpoint.Expects cfg)
    (hunclosed : .afterClose ∉ machine.stack)
    (hprompt : Punctual machine.layer.base machine.stack) :
    .afterClose ∉ machine'.stack ∧ Punctual machine'.layer.base machine'.stack := by
  cases steps_of_step hstep with
  | receive => exact ⟨hunclosed, hprompt.single, hprompt.empty, hprompt.next⟩
  -- calls of the lower layer and of a timer find the stack empty
  | lowerOpen => exact ⟨by simp, .of_none rfl⟩
  | lowerClose => cases hstays
  | lowerTxReady layer env =>
      unfold Layer.onLowerTxReady
      dsimp only
      split_ifs
      · exact ⟨by simp, .of_none rfl⟩
      · refine ⟨?_, .of_none ?_⟩
        · intro hmem
          rcases List.mem_append.mp hmem with hmem | hmem
          · cases CryptoLayer.notifyTxReady_snd hmem
          · simp at hmem
        · rw [owed_append, owed_of_upper (fun _ hmem => ⟨_, CryptoLayer.notifyTxReady_snd hmem⟩)]
          rfl
      · exact ⟨by simp, .of_none rfl⟩
  | lowerRxReady layer =>
      unfold Layer.onLowerRxReady
      split_ifs
      · exact ⟨by simp, .of_none rfl⟩
      · exact ⟨by simp, .of_none rfl⟩
  | timer => exact ⟨by simp, .of_none rfl⟩
  | startRx layer hcall =>
      obtain ⟨huntouched, htasks⟩ := Layer.startRxFromUpper_untouched layer.base
      refine ⟨?_, hprompt.of_call hcall _ (Layer.owed_startRxFromUpper layer.base)
        huntouched.payloadData (by rw [Layer.startRxFromUpper_lowerTxReady]; exact id)⟩
      intro hmem
      rcases List.mem_append.mp hmem with hmem | hmem
      · cases htasks _ hmem
      · exact hunclosed hmem
  | startTx layer data hcall =>
      unfold CryptoLayer.startTxFromUpper
      split_ifs
      · exact ⟨by simpa using hunclosed,
          hprompt.of_call hcall [.checkTransmit] rfl (Or.inl rfl) id⟩
      · exact ⟨hunclosed, hprompt⟩
  | ret layer stack callback =>
      exact ⟨fun hmem => hunclosed (List.mem_cons_of_mem _ hmem),
        hprompt.of_busy rfl [] rfl (Or.inl rfl) id⟩
  | @run layer task result stack env hrun =>
      have hbelow : .afterClose ∉ stack := fun hmem => hunclosed (List.mem_cons_of_mem _ hmem)
      suffices h : .afterClose ∉ result.2 ∧ Punctual result.1.base (result.2 ++ stack) from
        ⟨fun hmem => (List.mem_append.mp hmem).elim h.1 hbelow, h.2⟩
      cases Layer.ran_of_runTask hrun with
      | tryReadFromLower => exact (tryReadFromLower_prompt hprompt hcoupled hexpects).symm
      | checkTransmit =>
          have hkeeps := @Layer.checkTransmit_keepsInput cfg layer env
          have htasks := @Layer.checkTransmit_snd cfg layer env
          refine ⟨fun hmem => ?_,
            hprompt.of_busy rfl _ (owed_of_upper (fun _ hmem => ⟨_, htasks hmem⟩))
            (Or.inl hkeeps.payloadData) hkeeps.ready⟩
          cases htasks hmem
      | noPayload => exact ⟨by simp, hprompt.of_busy rfl [] rfl (Or.inl rfl) id⟩
      | @authPayload payload hne =>
          have hstack : owed stack = [] := hprompt.single.1 hne
          refine ⟨fun hmem => ?_, .of_none ?_⟩
          · cases Layer.notifyRxReady_snd hmem
          · rw [owed_append, Layer.owed_notifyRxReady, hstack]
            rfl
      | enterIdle => exact ⟨by simp, hprompt.of_busy rfl [] rfl (Or.inl rfl) id⟩
      | afterClose => exact absurd List.mem_cons_self hunclosed

end Machine

end Ssp21
