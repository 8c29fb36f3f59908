import Ssp21.Crypto.Moves
import Ssp21.Foundation.History

/-!
# Emission of the upper layer's data

The data that the upper layer submits leaves the layer in pieces, which two senders
take from the same `TxState`: `check_transmit` and `transmit_session_auth`.
Handshake messages go out between them, and one callback reports every completion.

* `TxMove` is what a move means for the transmission of user data.
* `Closing` is what holds while a close from below is unfinished.
* `Emitting` relates the pieces since a submission to the state of the transmission.
-/

namespace Ssp21

open Wire

/-! ## Pieces of user data -/

/-- The user data in a frame. -/
def Transmission.userData (transmission : Transmission) : Bytes :=
  match transmission.content with
  | .session _ formatted => formatted.userData
  | _ => []

namespace Observation

/-- The user data that is handed to the lower layer. -/
def piece : Observation → Option Bytes
  | .transmit transmission =>
      if transmission.userData.isEmpty then none else some transmission.userData
  | _ => none

/-- Observations that have nothing to do with the upper layer's data. -/
def quiet : Observation → Bool
  | .transmit transmission => transmission.userData.isEmpty
  | .completed | .opened | .closed | .txReady | .submit _ => false
  | _ => true

/-- Observations that have nothing to do with received payloads. -/
def deaf : Observation → Bool
  | .opened | .read _ | .placed _ => false
  | _ => true

/-- Those that do not report on a transmission; the upper layer may open or close. -/
def aside (observation : Observation) : Bool :=
  observation.quiet || observation == .opened || observation == .closed

end Observation

/-- The non-empty pieces of user data, in the order of transmission. -/
def chunks (history : List Observation) : List Bytes :=
  history.filterMap Observation.piece

theorem chunks_append (history new : List Observation) :
    chunks (history ++ new) = chunks history ++ chunks new :=
  List.filterMap_append

theorem chunks_aside {history : List Observation} (haside : ∀ o ∈ history, o.aside = true) :
    chunks history = [] := by
  rw [chunks, List.filterMap_eq_nil_iff]
  intro o ho
  have hside := haside o ho
  cases o with
  | transmit transmission =>
      have hempty : transmission.userData.isEmpty = true := by
        simpa [Observation.aside, Observation.quiet] using hside
      simp only [Observation.piece, hempty, if_true]
  | _ => rfl

/-- The pieces of one frame, put together, are its user data. -/
theorem chunks_transmit (transmission : Transmission) :
    (chunks [.transmit transmission]).flatten = transmission.userData := by
  by_cases hempty : transmission.userData.isEmpty = true
  · simp [chunks, Observation.piece, List.isEmpty_iff.mp hempty]
  · simp [chunks, Observation.piece, hempty]

/-! ## The upper layer's flag in the history -/

/-- What is observed when the upper layer's flag changes. -/
def flips (before after : CryptoLayer) : List Observation :=
  match before.upperOpen, after.upperOpen with
  | false, true => [.opened]
  | true, false => [.closed]
  | _, _ => []

theorem aside_of_quiet {new : List Observation} (hquiet : ∀ o ∈ new, o.quiet = true) :
    ∀ o ∈ new, o.aside = true := by
  intro o ho
  simp [Observation.aside, hquiet o ho]

theorem aside_flips (before after : CryptoLayer) : ∀ o ∈ flips before after, o.aside = true := by
  intro o ho
  cases hb : before.upperOpen <;> cases ha : after.upperOpen <;> simp [flips, hb, ha] at ho <;>
    simp [ho, Observation.aside]

theorem aside_append_flips {new : List Observation} (hquiet : ∀ o ∈ new, o.quiet = true)
    (before after : CryptoLayer) : ∀ o ∈ new ++ flips before after, o.aside = true := by
  intro o ho
  rcases List.mem_append.mp ho with ho | ho
  · exact aside_of_quiet hquiet o ho
  · exact aside_flips before after o ho

theorem notMem_of_aside {history : List Observation} (haside : ∀ o ∈ history, o.aside = true)
    {o : Observation} (ho : o.aside = false) : o ∉ history := by
  intro hmem
  rw [haside o hmem] at ho
  cases ho

namespace CryptoLayer

theorem openUpper_fst (layer : CryptoLayer) :
    layer.openUpper.1 = { layer with
      upperOpen := true
      trace := layer.trace ++ if layer.upperOpen then [] else [.opened] } := by
  cases h : layer.upperOpen <;> simp [openUpper, h, log]
  rw [← h]

/-- Opening the upper layer is observed behind what was observed before. -/
theorem openUpper_trace {before layer : CryptoLayer} {new : List Observation}
    (htrace : layer.trace = before.trace ++ new) (hupper : layer.upperOpen = before.upperOpen) :
    layer.openUpper.1.trace = before.trace ++ new ++ flips before layer.openUpper.1 := by
  rw [openUpper_fst, htrace]
  cases h : before.upperOpen <;> simp [flips, hupper, h]

theorem closeUpper_fst (layer : CryptoLayer) :
    layer.closeUpper.1 = { layer with
      upperOpen := false
      trace := layer.trace ++ if layer.upperOpen then [.closed] else [] } := by
  cases h : layer.upperOpen <;> simp [closeUpper, h, log]
  rw [← h]

theorem notifyTxReady_fst (layer : CryptoLayer) :
    layer.notifyTxReady.1 = { layer with
      trace := layer.trace ++ if layer.upperOpen then [.txReady] else [] } := by
  cases h : layer.upperOpen <;> simp [notifyTxReady, h, log]
  rw [← h]

theorem openUpper_snd {layer : CryptoLayer} {task : Task} (hmem : task ∈ layer.openUpper.2) :
    task = .upper .onLowerOpen := by
  simp only [openUpper] at hmem
  split_ifs at hmem with hopen
  · cases hmem
  · simpa using hmem

theorem closeUpper_snd {layer : CryptoLayer} {task : Task} (hmem : task ∈ layer.closeUpper.2) :
    task = .upper .onLowerClose := by
  simp only [closeUpper] at hmem
  split_ifs at hmem with hopen
  · simpa using hmem
  · cases hmem

theorem notifyTxReady_snd {layer : CryptoLayer} {task : Task}
    (hmem : task ∈ layer.notifyTxReady.2) : task = .upper .onLowerTxReady := by
  simp only [notifyTxReady] at hmem
  split_ifs at hmem with hopen
  · simpa using hmem
  · cases hmem

end CryptoLayer

/-- A required handshake touches the lower layer and the history only. -/
theorem Asks.frame {cfg : Config} {base base' : CryptoLayer} {o o' : Option Bytes}
    (hasks : Asks cfg base o base' o') :
    ∃ ready new, (ready = true → base.lowerTxReady = true) ∧
      (∀ o ∈ new, o.quiet = true ∧ o.deaf = true) ∧
      base' = { base with lowerTxReady := ready, trace := base.trace ++ new } := by
  cases hasks with
  | stay => exact ⟨base.lowerTxReady, [], id, by simp, by simp⟩
  | forget => exact ⟨base.lowerTxReady, [], id, by simp, by simp⟩
  | draw value =>
      exact ⟨base.lowerTxReady, [.drew value], id,
        by simp [Observation.quiet, Observation.deaf], rfl⟩
  | @request config init written hrole hready hrequested =>
      refine ⟨false, [.drew (Layer.freshValue init config.mode),
        .transmit ⟨cfg.ctx.frameWriter.frame written, written, .request⟩], nofun, ?_, ?_⟩
      · simp [Observation.quiet, Observation.deaf, Transmission.userData]
      · simp [CryptoLayer.sent, CryptoLayer.log]

/-! ## Moves of the transmission -/

/-- What a move means for the transmission of the upper layer's data.  The history
grows by observations that have nothing to do with it, by those named here, and by
the change of the upper layer's flag. -/
inductive TxMove (s s' : Snapshot) : Prop
  | quiet (new : List Observation) (hquiet : ∀ o ∈ new, o.quiet = true)
      (htrace : s'.base.trace = s.base.trace ++ new ++ flips s.base s'.base)
      (htx : s'.base.txState = s.base.txState) (hopen : s'.base.isOpen = s.base.isOpen)
      (hready : s'.base.lowerTxReady = true → s.base.lowerTxReady = true)
      (hstack : .afterClose ∈ s'.stack ↔ .afterClose ∈ s.stack)
  /-- a frame takes user data along, if there is any -/
  | piece (new : List Observation) (hquiet : ∀ o ∈ new, o.quiet = true)
      (transmission : Transmission) (rest : Bytes)
      (htrace : s'.base.trace =
        s.base.trace ++ (new ++ [.transmit transmission]) ++ flips s.base s'.base)
      (hsplit : s.base.txState.remainder = transmission.userData ++ rest)
      (hbound : transmission.userData.length ≤ SessionMode.maxChunk)
      (hprogress : s.base.txState.remainder ≠ [] → transmission.userData ≠ [])
      (htx : s'.base.txState = s.base.txState.beginTransmit rest)
      (hsession : s.base.active.valid = true ∨ s.base.pending.valid = true)
      (hready : s.base.lowerTxReady = true) (hsent : s'.base.lowerTxReady = false)
      (hopen : s'.base.isOpen = s.base.isOpen)
      (hstack : .afterClose ∈ s'.stack ↔ .afterClose ∈ s.stack)
  | complete (new : List Observation) (hquiet : ∀ o ∈ new, o.quiet = true)
      (htrace : s'.base.trace = s.base.trace ++ (.completed :: new) ++
        if s.base.txState.onTxComplete.1 && s.base.upperOpen then [.txReady] else [])
      (htx : s'.base.txState = s.base.txState.onTxComplete.2)
      (hupper : s'.base.upperOpen = s.base.upperOpen)
      (hopen : s.base.isOpen = true) (hopen' : s'.base.isOpen = true)
      (hrest : s.stack = []) (hstack : .afterClose ∉ s'.stack)
  | completeClosed (htrace : s'.base.trace = s.base.trace ++ [.completed])
      (htx : s'.base.txState = s.base.txState) (hupper : s'.base.upperOpen = s.base.upperOpen)
      (hopen : s.base.isOpen = false) (hopen' : s'.base.isOpen = false)
      (hrest : s.stack = []) (hrest' : s'.stack = [])
  | submit (data : Bytes) (hready : s.base.isTxReady = true)
      (htrace : s'.base.trace = s.base.trace ++ [.submit data])
      (htx : s'.base.txState = TxState.initializeWith data)
      (hupper : s'.base.upperOpen = s.base.upperOpen) (hopen : s'.base.isOpen = s.base.isOpen)
      (hstack : .afterClose ∈ s'.stack ↔ .afterClose ∈ s.stack)
  | lowerOpen (htrace : s'.base.trace = s.base.trace) (htx : s'.base.txState = s.base.txState)
      (hupper : s'.base.upperOpen = s.base.upperOpen) (hopen : s.base.isOpen = false)
      (hopen' : s'.base.isOpen = true) (hrest : s.stack = []) (hrest' : s'.stack = [])
  | lowerClose (htrace : s'.base.trace = s.base.trace ++ flips s.base s'.base)
      (htx : s'.base.txState = s.base.txState) (hupper : s'.base.upperOpen = false)
      (hopen' : s'.base.isOpen = false) (hstack : .afterClose ∈ s'.stack)
  | afterClose (htrace : s'.base.trace = s.base.trace) (htx : s'.base.txState = TxState.idle)
      (hupper : s'.base.upperOpen = s.base.upperOpen) (hopen : s'.base.isOpen = s.base.isOpen)
      (hstack : .afterClose ∈ s.stack)

namespace TxMove

/-- A change of the base class that leaves the transmission alone. -/
theorem of_log {base base' : CryptoLayer} {o o' : Option Bytes} {k k' : List Task}
    (new : List Observation) (hquiet : ∀ o ∈ new, o.quiet = true)
    (htrace : base'.trace = base.trace ++ new) (hupper : base'.upperOpen = base.upperOpen)
    (htx : base'.txState = base.txState) (hopen : base'.isOpen = base.isOpen)
    (hready : base'.lowerTxReady = true → base.lowerTxReady = true)
    (hstack : .afterClose ∈ k' ↔ .afterClose ∈ k) : TxMove ⟨base, o, k⟩ ⟨base', o', k'⟩ := by
  refine .quiet new hquiet ?_ htx hopen hready hstack
  cases h : base.upperOpen <;> simp [flips, htrace, hupper, h]

/-- A message that takes user data along. -/
theorem of_sentSession {ctx : SessionContext} {base : CryptoLayer} {slot : Slot} {now : Time}
    {rest : Bytes} {formatted : Session.Formatted} {o o' : Option Bytes} {k k' : List Task}
    (hready : base.lowerTxReady = true)
    (hformats : Session.Formats ctx (base.session slot) now base.txState.remainder rest formatted)
    (hstack : .afterClose ∈ k' ↔ .afterClose ∈ k) :
    TxMove ⟨base, o, k⟩ ⟨base.sentSession slot rest formatted, o', k'⟩ := by
  have hvalid := hformats.valid
  refine .piece [] (by simp)
    (CryptoLayer.sessionTransmission (base.session slot) formatted) rest ?_ hformats.writes.split
    hformats.writes.bounded hformats.writes.progress ?_ ?_ hready ?_ ?_ hstack
  · cases slot <;> cases h : base.upperOpen <;>
      simp [CryptoLayer.sentSession, CryptoLayer.sent, CryptoLayer.log, CryptoLayer.setSession,
        flips, h]
  · cases slot <;> rfl
  · cases slot
    · exact Or.inl hvalid
    · exact Or.inr hvalid
  · cases slot <;> rfl
  · cases slot <;> rfl

end TxMove

theorem Task.inert_ne {task : Task} (htask : task.inert = true) : task ≠ .afterClose := by
  rintro rfl
  cases htask

theorem Task.routine_ne {task : Task} (htask : task.routine = true) : task ≠ .afterClose := by
  rintro rfl
  cases htask

/-- Tasks on top that are no unfinished close. -/
theorem mem_append_iff_of_forall_ne {tasks k : List Task}
    (htasks : ∀ task ∈ tasks, task ≠ .afterClose) :
    .afterClose ∈ tasks ++ k ↔ .afterClose ∈ k := by
  rw [List.mem_append]
  exact ⟨fun h => h.elim (fun hmem => absurd rfl (htasks _ hmem)) id, Or.inr⟩

theorem afterClose_notMem_openUpper (layer : CryptoLayer) {task : Task}
    (hmem : task ∈ layer.openUpper.2) : task ≠ .afterClose := by
  rw [CryptoLayer.openUpper_snd hmem]
  nofun

/-- **What each move means for the transmission.** -/
theorem Move.tx {cfg : Config} {mayFail : Fault → Prop} {s s' : Snapshot}
    (hmove : Move cfg mayFail s s') : TxMove s s' := by
  cases hmove with
  | receive base o k messages => exact .of_log [] (by simp) (by simp) rfl rfl rfl id Iff.rfl
  | count base o k stats => exact .of_log [] (by simp) (by simp) rfl rfl rfl id Iff.rfl
  | @pop base o k task htask =>
      exact .of_log [] (by simp) (by simp) rfl rfl rfl id
        (by simp [Ne.symm (Task.inert_ne htask)])
  | @push base o k task htask =>
      exact .of_log [] (by simp) (by simp) rfl rfl rfl id
        (by simp [Ne.symm (Task.routine_ne htask)])
  | ask k hasks =>
      obtain ⟨ready, new, hready, hsilent, rfl⟩ := hasks.frame
      exact .of_log new (fun o ho => (hsilent o ho).1) rfl rfl rfl rfl hready Iff.rfl
  | @handshakeError base o k hread error frame written =>
      exact .of_log [.transmit ⟨frame, written, .handshakeError error⟩]
        (by simp [Observation.quiet, Transmission.userData]) rfl rfl rfl rfl (by rintro ⟨⟩) Iff.rfl
  | @reply base o k hread value frame written =>
      exact .of_log [.drew value, .transmit ⟨frame, written, .reply⟩]
        (by simp [Observation.quiet, Transmission.userData])
        (by simp [CryptoLayer.sent, CryptoLayer.log]) rfl rfl rfl (by rintro ⟨⟩) Iff.rfl
  | @respond base o k hread mode msg algorithms random findKey now d hrole hderives =>
      exact .of_log [.drew (Layer.freshReply cfg.ctx.backend mode msg random), .initialized d,
          .transmit ⟨cfg.ctx.frameWriter.frame d.reply, d.reply, .reply⟩]
        (by simp [Observation.quiet, Transmission.userData])
        (by simp [CryptoLayer.sent, CryptoLayer.log]) rfl rfl rfl (by rintro ⟨⟩) Iff.rfl
  | @derive base k hread config init handshake msg now d hrole hderives =>
      exact .of_log [.initialized d] (by simp [Observation.quiet]) rfl rfl rfl rfl id Iff.rfl
  | sendAuth o k hrole hread hnonce hformats =>
      exact .of_sentSession hread.1 hformats Iff.rfl
  | authFailed base o k =>
      exact .of_log [.authFormatFailed] (by simp [Observation.quiet]) rfl rfl rfl rfl id Iff.rfl
  | @verify base o k slot msg payload hvalid htag =>
      exact .of_log [.verified (base.session slot).keys.rxKey msg] (by simp [Observation.quiet])
        rfl rfl rfl rfl id Iff.rfl
  | @activate base o k config hrole hread now msg payload hverified haccepts =>
      refine .quiet [.accepted base.pending.keys.rxKey msg payload,
        .activated { base.pending with rxNonce := msg.metadata.nonce }]
        (by simp [Observation.quiet]) ?_ ?_ ?_ ?_ ?_
      · refine CryptoLayer.openUpper_trace ?_ rfl
        simp [CryptoLayer.acceptAuth, CryptoLayer.activatePending, CryptoLayer.log]
      · rw [CryptoLayer.openUpper_fst]
        rfl
      · rw [CryptoLayer.openUpper_fst]
        rfl
      · rw [CryptoLayer.openUpper_fst]
        exact id
      · rw [mem_append_iff_of_forall_ne (fun _ => afterClose_notMem_openUpper _)]
        simp
  | @answer base o k mode hrole hread now later msg payload rest formatted hverified haccepts hnonce
      hformats =>
      refine .piece [.accepted base.pending.keys.rxKey msg payload,
        .activated { base.pending with rxNonce := msg.metadata.nonce }]
        (by simp [Observation.quiet])
        (CryptoLayer.sessionTransmission (base.acceptAuth msg payload).active formatted) rest ?_
        hformats.writes.split hformats.writes.bounded hformats.writes.progress ?_
        (Or.inr haccepts.valid) hread.1 ?_ ?_ ?_
      · refine CryptoLayer.openUpper_trace ?_ rfl
        simp [CryptoLayer.sentSession, CryptoLayer.sent, CryptoLayer.setSession,
          CryptoLayer.session, CryptoLayer.acceptAuth, CryptoLayer.activatePending,
          CryptoLayer.log]
      · rw [CryptoLayer.openUpper_fst]
        rfl
      · rw [CryptoLayer.openUpper_fst]
        rfl
      · rw [CryptoLayer.openUpper_fst]
        rfl
      · rw [mem_append_iff_of_forall_ne (fun _ => afterClose_notMem_openUpper _)]
        simp
  | @leaveUnanswered base o k mode hrole hread now msg payload hverified haccepts hfault =>
      exact .of_log [.accepted base.pending.keys.rxKey msg payload,
        .activated { base.pending with rxNonce := msg.metadata.nonce }, .authFormatFailed]
        (by simp [Observation.quiet])
        (by simp [CryptoLayer.acceptAuth, CryptoLayer.activatePending, CryptoLayer.log])
        rfl rfl rfl id Iff.rfl
  | @acceptData base o k hread now msg payload hpayload hnonce hverified haccepts =>
      exact .of_log [.accepted base.active.keys.rxKey msg payload, .placed payload]
        (by simp [Observation.quiet])
        (by simp [CryptoLayer.acceptData, CryptoLayer.placePayload, CryptoLayer.log])
        rfl rfl rfl id Iff.rfl
  | consume o k hnonce hverified haccepts =>
      exact .of_log [] (by simp) (by simp) rfl rfl rfl id Iff.rfl
  | notifyRx o k hopen =>
      exact .of_log [.rxReady] (by simp [Observation.quiet]) rfl rfl rfl rfl id (by simp)
  | complete hopen hasks hdone =>
      obtain ⟨ready, new, hready, hsilent, rfl⟩ := hasks.frame
      exact .complete new (fun o ho => (hsilent o ho).1)
        (by simp [CryptoLayer.complete, CryptoLayer.log, hdone]) rfl rfl
        hopen hopen rfl (by simp)
  | @finish base _ o o' hopen hasks hdone =>
      obtain ⟨ready, new, hready, hsilent, rfl⟩ := hasks.frame
      refine .complete new (fun o ho => (hsilent o ho).1) ?_ ?_ ?_ hopen ?_ rfl ?_
      · rw [CryptoLayer.notifyTxReady_fst]
        cases h : base.upperOpen <;> simp [CryptoLayer.complete, CryptoLayer.log, hdone, h]
      · rw [CryptoLayer.notifyTxReady_fst]
        rfl
      · rw [CryptoLayer.notifyTxReady_fst]
        rfl
      · rw [CryptoLayer.notifyTxReady_fst]
        exact hopen
      · intro hmem
        rcases List.mem_append.mp hmem with hmem | hmem
        · cases CryptoLayer.notifyTxReady_snd hmem
        · simp at hmem
  | completeClosed o hopen => exact .completeClosed rfl rfl rfl hopen hopen rfl rfl
  | submit o k data hready => exact .submit data hready rfl rfl rfl rfl (by simp)
  | transmit o k hready hnonce hformats =>
      exact .of_sentSession (CryptoLayer.ready_of_canTransmit hready).2 hformats Iff.rfl
  | @transmitFailed base o k hready hfault =>
      refine .quiet [.dataFormatFailed] (by simp [Observation.quiet]) ?_ ?_ ?_ ?_ ?_
      · rw [CryptoLayer.closeUpper_fst]
        cases h : base.upperOpen <;> simp [flips, CryptoLayer.log, h]
      · rw [CryptoLayer.closeUpper_fst]
        rfl
      · rw [CryptoLayer.closeUpper_fst]
        rfl
      · rw [CryptoLayer.closeUpper_fst]
        exact id
      · refine mem_append_iff_of_forall_ne ?_
        intro task hmem
        rw [CryptoLayer.closeUpper_snd hmem]
        rintro ⟨⟩
  | discard o k hflag => exact .of_log [] (by simp) (by simp) rfl rfl rfl id Iff.rfl
  | @read base o k hfirst hpayload =>
      exact .of_log [.read base.payloadData] (by simp [Observation.quiet]) rfl rfl rfl
        rfl id Iff.rfl
  | @place base o k payload hpayload =>
      exact .of_log [.placed payload] (by simp [Observation.quiet]) rfl rfl rfl rfl id (by simp)
  | afterClose base o k => exact .afterClose rfl rfl rfl rfl (by simp)
  | lowerOpen o hopen ready => exact .lowerOpen rfl rfl rfl hopen rfl rfl rfl
  | @lowerClose base o hopen ready =>
      refine .lowerClose ?_ ?_ ?_ ?_ (by simp)
      · rw [CryptoLayer.closeUpper_fst]
        cases h : base.upperOpen <;>
          simp [flips, CryptoLayer.closeFromLower, CryptoLayer.resetBoth, h]
      · rw [CryptoLayer.closeUpper_fst]
        rfl
      · rw [CryptoLayer.closeUpper_fst]
      · rw [CryptoLayer.closeUpper_fst]
        rfl

/-! ## An unfinished close -/

/-- While a close from below is unfinished, the upper layer is closed, and no session
can be used: there is no active one, and a message that could lead to one cannot be
read, since whatever starts a handshake occupies the lower layer. -/
structure Closing (s : Snapshot) : Prop where
  upper : s.base.upperOpen = false
  active : s.base.active.valid = false
  pending : s.base.pending.valid = true → s.base.lowerTxReady = false
  outstanding : s.outstanding ≠ none → s.base.lowerTxReady = false

namespace Closing

theorem not_pending {s : Snapshot} (hclosing : Closing s) (hvalid : s.base.pending.valid = true)
    (hready : s.base.lowerTxReady = true) : False := by
  rw [hclosing.pending hvalid] at hready
  cases hready

/-- A layer that can send under one of its sessions is not being closed. -/
theorem not_mem_of_sending {s : Snapshot} (hclosing : .afterClose ∈ s.stack → Closing s)
    (hsession : s.base.active.valid = true ∨ s.base.pending.valid = true)
    (hready : s.base.lowerTxReady = true) : .afterClose ∉ s.stack := by
  intro hmem
  rcases hsession with hactive | hpending
  · rw [(hclosing hmem).active] at hactive
    cases hactive
  · exact (hclosing hmem).not_pending hpending hready

/-- A change that leaves the sessions and the upper layer's flag alone. -/
theorem of_same {base base' : CryptoLayer} {o : Option Bytes} {k k' : List Task}
    (hclosing : Closing ⟨base, o, k⟩) (hupper : base'.upperOpen = base.upperOpen)
    (hactive : base'.active.valid = base.active.valid)
    (hpending : base'.pending.valid = base.pending.valid)
    (hready : base'.lowerTxReady = true → base.lowerTxReady = true) :
    Closing ⟨base', o, k'⟩ := by
  have hlow (hbefore : base.lowerTxReady = false) : base'.lowerTxReady = false := by
    rw [Bool.eq_false_iff]
    intro hafter
    rw [hready hafter] at hbefore
    cases hbefore
  exact ⟨hupper.trans hclosing.upper, hactive.trans hclosing.active,
    fun hvalid => hlow (hclosing.pending (hpending ▸ hvalid)),
    fun houtstanding => hlow (hclosing.outstanding houtstanding)⟩

/-- A change that leaves the active session alone and occupies the lower layer. -/
theorem of_sent {base base' : CryptoLayer} {o o' : Option Bytes} {k k' : List Task}
    (hclosing : Closing ⟨base, o, k⟩) (hupper : base'.upperOpen = base.upperOpen)
    (hactive : base'.active.valid = base.active.valid) (hsent : base'.lowerTxReady = false) :
    Closing ⟨base', o', k'⟩ :=
  ⟨hupper.trans hclosing.upper, hactive.trans hclosing.active, fun _ => hsent, fun _ => hsent⟩

end Closing

theorem closing_move {cfg : Config} {mayFail : Fault → Prop} {s s' : Snapshot}
    (hmove : Move cfg mayFail s s') (hinv : .afterClose ∈ s.stack → Closing s) :
    .afterClose ∈ s'.stack → Closing s' := by
  intro hmem
  cases hmove with
  | receive => exact (hinv hmem).of_same rfl rfl rfl id
  | count => exact (hinv hmem).of_same rfl rfl rfl id
  | pop => exact (hinv (List.mem_cons_of_mem _ hmem)).of_same rfl rfl rfl id
  | push base o k htask =>
      have hmem : .afterClose ∈ k := by simpa [Ne.symm (Task.routine_ne htask)] using hmem
      exact (hinv hmem).of_same rfl rfl rfl id
  | ask k hasks =>
      have hclosing := hinv hmem
      cases hasks with
      | stay => exact hclosing
      | forget => exact ⟨hclosing.upper, hclosing.active, hclosing.pending, fun h => absurd rfl h⟩
      | draw => exact hclosing.of_same rfl rfl rfl id
      | request => exact hclosing.of_sent rfl rfl rfl
  | handshakeError => exact (hinv hmem).of_sent rfl rfl rfl
  | reply => exact (hinv hmem).of_sent rfl rfl rfl
  | respond => exact (hinv hmem).of_sent rfl rfl rfl
  | derive k hread =>
      have hlow := (hinv hmem).outstanding (by rintro ⟨⟩)
      rw [hread.1] at hlow
      cases hlow
  | sendAuth => exact (hinv hmem).of_sent rfl rfl rfl
  | authFailed => exact (hinv hmem).of_same rfl rfl rfl id
  | verify => exact (hinv hmem).of_same rfl rfl rfl id
  | activate o k hrole hread hverified haccepts =>
      rw [mem_append_iff_of_forall_ne (fun _ => afterClose_notMem_openUpper _)] at hmem
      have hmem : .afterClose ∈ k := by simpa using hmem
      exact ((hinv hmem).not_pending haccepts.valid hread.1).elim
  | answer o k hrole hread hverified haccepts =>
      rw [mem_append_iff_of_forall_ne (fun _ => afterClose_notMem_openUpper _)] at hmem
      have hmem : .afterClose ∈ k := by simpa using hmem
      exact ((hinv hmem).not_pending haccepts.valid hread.1).elim
  | leaveUnanswered o k hrole hread hverified haccepts =>
      exact ((hinv hmem).not_pending haccepts.valid hread.1).elim
  | acceptData => exact (hinv hmem).of_same rfl rfl rfl id
  | consume => exact (hinv hmem).of_same rfl rfl rfl id
  | notifyRx => exact (hinv (by simpa using hmem)).of_same rfl rfl rfl id
  | complete => simp at hmem
  | finish =>
      rcases List.mem_append.mp hmem with hmem | hmem
      · cases CryptoLayer.notifyTxReady_snd hmem
      · simp at hmem
  | completeClosed => cases hmem
  | submit => exact (hinv (by simpa using hmem)).of_same rfl rfl rfl id
  | transmit => exact (hinv hmem).of_sent rfl rfl rfl
  | transmitFailed o k hready =>
      have hmem : .afterClose ∈ k := by
        rcases List.mem_append.mp hmem with hmem | hmem
        · cases CryptoLayer.closeUpper_snd hmem
        · exact hmem
      have hvalid := (hinv hmem).active
      rw [(CryptoLayer.ready_of_canTransmit hready).1] at hvalid
      cases hvalid
  | discard => exact (hinv hmem).of_same rfl rfl rfl id
  | read => exact (hinv hmem).of_same rfl rfl rfl id
  | place => exact (hinv (List.mem_cons_of_mem _ hmem)).of_same rfl rfl rfl id
  | afterClose => exact (hinv (List.mem_cons_of_mem _ hmem)).of_same rfl rfl rfl id
  | lowerOpen => cases hmem
  | lowerClose =>
      rw [CryptoLayer.closeUpper_fst]
      exact ⟨rfl, rfl, by rintro ⟨⟩, fun h => absurd rfl h⟩

/-! ## From a submission to its completion -/

/-- The lower layer has completed a transmission since the last piece. -/
def PieceCompleted (history : List Observation) : Prop :=
  ∃ before after, history = before ++ .completed :: after ∧ chunks after = []

/-- How far the transmission of `data` is, after `history`: pieces are left or under
way, or all of them were completed and the upper layer was told so once. -/
inductive Emitting (data : Bytes) (history : List Observation) (tx : TxState) : Prop
  | sending (hready : .txReady ∉ history)
      (hdata : data = (chunks history).flatten ++ tx.remainder) (hbusy : tx.isIdle = false)
      (hlast : tx.remainder = [] → ¬ PieceCompleted history)
  | done (first between last : List Observation)
      (hhistory : history = first ++ .completed :: between ++ .txReady :: last)
      (hdata : (chunks first).flatten = data) (hbetween : chunks between = [])
      (hlast : chunks last = []) (hready : .txReady ∉ first ++ between ++ last)
      (htx : tx = TxState.idle)

namespace Emitting

variable {data : Bytes} {history new : List Observation} {tx : TxState}

theorem aside (hemitting : Emitting data history tx) (haside : ∀ o ∈ new, o.aside = true) :
    Emitting data (history ++ new) tx := by
  have hchunks := chunks_aside haside
  have htxReady : .txReady ∉ new := notMem_of_aside haside rfl
  cases hemitting with
  | sending hready hdata hbusy hlast =>
      refine .sending (by simp [hready, htxReady]) ?_ hbusy ?_
      · rw [chunks_append, hchunks, List.append_nil]
        exact hdata
      · rintro hempty ⟨before, after, heq, hafter⟩
        obtain ⟨kept, rfl, rfl⟩ := History.split_append heq (notMem_of_aside haside rfl)
        rw [chunks_append, hchunks, List.append_nil] at hafter
        exact hlast hempty ⟨before, kept, rfl, hafter⟩
  | done first between last hhistory hdata hbetween hlast hready htx =>
      refine .done first between (last ++ new) ?_ hdata hbetween ?_ ?_ htx
      · rw [hhistory]
        simp
      · rw [chunks_append, hlast, hchunks, List.append_nil]
      · simpa [htxReady] using hready

/-- A frame takes the next piece, which is not empty while the data is not complete. -/
theorem piece (hemitting : Emitting data history tx) {transmission : Transmission} {rest : Bytes}
    (hfree : tx.transmitting = false) (hsplit : tx.remainder = transmission.userData ++ rest)
    (hprogress : tx.remainder ≠ [] → transmission.userData ≠ []) :
    Emitting data (history ++ [.transmit transmission]) (tx.beginTransmit rest) := by
  cases hemitting with
  | sending hready hdata hbusy hlast =>
      have hleft : tx.remainder ≠ [] := by
        intro hempty
        simp [TxState.isIdle, hfree, hempty] at hbusy
      have hpiece := hprogress hleft
      have hbegin : tx.beginTransmit rest = ⟨true, rest⟩ := by
        simp [TxState.beginTransmit, hleft]
      rw [hbegin]
      refine .sending (by simp [hready]) ?_ (by simp [TxState.isIdle]) ?_
      · rw [chunks_append, List.flatten_append, chunks_transmit, List.append_assoc, ← hsplit]
        exact hdata
      · rintro - ⟨before, after, heq, hafter⟩
        obtain ⟨kept, rfl, rfl⟩ := History.split_append heq (by simp)
        rw [chunks_append, List.append_eq_nil_iff] at hafter
        have hflat := chunks_transmit transmission
        rw [hafter.2] at hflat
        exact hpiece hflat.symm
  | done first between last hhistory hdata hbetween hlast hready htx =>
      subst htx
      have hempty : transmission.userData = [] :=
        (List.append_eq_nil_iff.mp hsplit.symm).1
      have haside : ∀ o ∈ [Observation.transmit transmission], o.aside = true := by
        simp [Observation.aside, Observation.quiet, hempty]
      exact (Emitting.done first between last hhistory hdata hbetween hlast hready rfl).aside haside

/-- A completion is reported to the upper layer if and only if nothing is left. -/
theorem complete (hemitting : Emitting data history tx) (hquiet : ∀ o ∈ new, o.quiet = true) :
    Emitting data (history ++ ((.completed :: new) ++
      if tx.onTxComplete.1 then [.txReady] else [])) tx.onTxComplete.2 := by
  have haside := aside_of_quiet hquiet
  have hchunks := chunks_aside haside
  have hchunks' : chunks (.completed :: new) = [] := hchunks
  have htxReady : .txReady ∉ new := notMem_of_aside haside rfl
  cases hemitting with
  | sending hready hdata hbusy hlast =>
      by_cases hleft : tx.remainder = []
      · have hsent : tx.transmitting = true := by
          simpa [TxState.isIdle, hleft] using hbusy
        have hdone : tx.onTxComplete = (true, ⟨false, []⟩) := by
          simp [TxState.onTxComplete, hsent, hleft]
        rw [hdone]
        refine .done history new [] (by simp) ?_ hchunks rfl (by simp [hready, htxReady]) rfl
        rw [hdata, hleft, List.append_nil]
      · have hmore : tx.onTxComplete = (false, ⟨false, tx.remainder⟩) := by
          cases hsent : tx.transmitting <;> simp [TxState.onTxComplete, hsent, hleft]
          rw [← hsent]
        rw [hmore]
        refine .sending (by simp [hready, htxReady]) ?_ (by simp [TxState.isIdle, hleft])
          (fun h => absurd h hleft)
        simp only [Bool.false_eq_true, if_false, List.append_nil]
        rw [chunks_append, hchunks', List.append_nil]
        exact hdata
  | done first between last hhistory hdata hbetween hlast hready htx =>
      subst htx
      refine .done first between (last ++ (.completed :: new)) ?_ hdata hbetween ?_ ?_ rfl
      · rw [hhistory]
        simp [TxState.onTxComplete, TxState.idle]
      · rw [chunks_append, hlast, hchunks', List.append_nil]
      · simpa [htxReady] using hready

end Emitting

/-- The data of each submission, and how far its transmission is. -/
structure Emission (history : List Observation) (upperOpen : Bool) (tx : TxState) : Prop where
  /-- a closed upper layer was closed after its last submission -/
  closed : upperOpen = false → ∀ pre data post, history = pre ++ .submit data :: post →
    .closed ∈ post
  /-- the last submission -/
  current : ∀ pre data post, history = pre ++ .submit data :: post →
    (∀ next, .submit next ∉ post) → .closed ∉ post → data ≠ [] → Emitting data post tx
  /-- those before it -/
  past : ∀ pre data post next later,
    history = pre ++ .submit data :: post ++ .submit next :: later →
    (∀ next, .submit next ∉ post) → .closed ∉ post → data ≠ [] →
    Emitting data post TxState.idle
  bounded : ∀ chunk ∈ chunks history, chunk ≠ [] ∧ chunk.length ≤ SessionMode.maxChunk

namespace Emission

variable {history new : List Observation} {upperOpen upperOpen' : Bool} {tx tx' : TxState}

theorem start : Emission [] false TxState.idle where
  closed := by
    intro _ pre data post heq
    simp at heq
  current := by
    intro pre data post heq
    simp at heq
  past := by
    intro pre data post next later heq
    simp at heq
  bounded := nofun

/-- The history grows by something other than a submission. -/
theorem extend (hemission : Emission history upperOpen tx) (hnew : ∀ data, .submit data ∉ new)
    (hclosed : upperOpen' = false → upperOpen = false ∨ .closed ∈ new)
    (hbounded : ∀ chunk ∈ chunks new, chunk ≠ [] ∧ chunk.length ≤ SessionMode.maxChunk)
    (hstep : ∀ data post, upperOpen = true → .closed ∉ new → Emitting data post tx →
      Emitting data (post ++ new) tx') : Emission (history ++ new) upperOpen' tx' where
  closed := by
    intro hupper pre data post heq
    obtain ⟨kept, rfl, hkept⟩ := History.split_append heq (hnew data)
    rcases hclosed hupper with hbefore | hmem
    · exact List.mem_append_left _ (hemission.closed hbefore pre data kept hkept)
    · exact List.mem_append_right _ hmem
  current := by
    intro pre data post heq hlast hopen hdata
    obtain ⟨kept, rfl, hkept⟩ := History.split_append heq (hnew data)
    simp only [List.mem_append, not_or] at hlast hopen
    have hupper : upperOpen = true := by
      rw [← Bool.not_eq_false]
      intro hshut
      exact hopen.1 (hemission.closed hshut pre data kept hkept)
    exact hstep data kept hupper hopen.2
      (hemission.current pre data kept hkept (fun next => (hlast next).1) hopen.1 hdata)
  past := by
    intro pre data post next later heq
    obtain ⟨kept, rfl, hkept⟩ := History.split_append heq (hnew next)
    exact hemission.past pre data post next kept hkept
  bounded := by
    intro chunk hchunk
    rw [chunks_append] at hchunk
    rcases List.mem_append.mp hchunk with hchunk | hchunk
    · exact hemission.bounded chunk hchunk
    · exact hbounded chunk hchunk

/-- New data is taken only from an open upper layer, and when nothing is under way. -/
theorem submit (hemission : Emission history true TxState.idle) (data : Bytes) :
    Emission (history ++ [.submit data]) true (TxState.initializeWith data) where
  closed := nofun
  current := by
    intro pre other post heq hlast _ hother
    rcases History.split_concat heq with ⟨rfl, hsame, -⟩ | ⟨kept, rfl, -⟩
    · cases hsame
      refine .sending (by simp) rfl ?_ (fun hempty => absurd hempty hother)
      simp [TxState.isIdle, TxState.initializeWith, hother]
    · exact absurd (List.mem_append_right kept (List.mem_singleton_self _)) (hlast data)
  past := by
    intro pre other post next later heq hpost hopen hother
    rcases History.split_concat heq with ⟨-, -, hhistory⟩ | ⟨kept, -, hhistory⟩
    · exact hemission.current pre other post hhistory hpost hopen hother
    · exact hemission.past pre other post next kept hhistory hpost hopen hother
  bounded := by
    intro chunk hchunk
    rw [chunks_append] at hchunk
    rcases List.mem_append.mp hchunk with hchunk | hchunk
    · exact hemission.bounded chunk hchunk
    · cases hchunk

end Emission

theorem closed_mem_flips {before after : CryptoLayer} (hafter : after.upperOpen = false) :
    before.upperOpen = false ∨ .closed ∈ flips before after := by
  cases hb : before.upperOpen <;> simp [flips, hb, hafter]

/-- The transmission of a layer, and the flags that guard it. -/
structure TxInvariant (s : Snapshot) : Prop where
  closing : .afterClose ∈ s.stack → Closing s
  busy : s.base.txState.transmitting = true →
    s.base.lowerTxReady = false ∨ .afterClose ∈ s.stack
  shut : s.base.isOpen = false → s.base.txState = TxState.idle ∨ .afterClose ∈ s.stack
  emission : Emission s.base.trace s.base.upperOpen s.base.txState

/-- A closed layer that has nothing left to do transmits nothing. -/
theorem TxInvariant.idle {s : Snapshot} (hinv : TxInvariant s) (hopen : s.base.isOpen = false)
    (hrest : s.stack = []) : s.base.txState = TxState.idle := by
  rcases hinv.shut hopen with hidle | hmem
  · exact hidle
  · rw [hrest] at hmem
    cases hmem

theorem TxState.onTxComplete_transmitting (tx : TxState) :
    tx.onTxComplete.2.transmitting = false := by
  cases h : tx.transmitting <;> simp [onTxComplete, h]

theorem TxState.isIdle_eq {tx : TxState} (hidle : tx.isIdle = true) : tx = TxState.idle := by
  obtain ⟨transmitting, remainder⟩ := tx
  simpa [isIdle, idle] using hidle

theorem txInvariant_move {cfg : Config} {mayFail : Fault → Prop} {s s' : Snapshot}
    (hmove : Move cfg mayFail s s') (hinv : TxInvariant s) : TxInvariant s' := by
  have hclosing := closing_move hmove hinv.closing
  cases hmove.tx with
  | quiet new hquiet htrace htx hopen hready hstack =>
      have haside := aside_append_flips hquiet s.base s'.base
      refine ⟨hclosing, ?_, ?_, ?_⟩
      · rw [htx, hstack]
        intro hsent
        refine (hinv.busy hsent).imp_left ?_
        intro hlow
        rw [Bool.eq_false_iff]
        intro hhigh
        rw [hready hhigh] at hlow
        cases hlow
      · rw [htx, hstack, hopen]
        exact hinv.shut
      · rw [htrace, htx, List.append_assoc]
        refine hinv.emission.extend (fun data => notMem_of_aside haside rfl) ?_ ?_ ?_
        · intro hshut
          exact (closed_mem_flips hshut).imp_right (List.mem_append_right new)
        · rw [chunks_aside haside]
          nofun
        · intro data post _ _ hemitting
          exact hemitting.aside haside
  | piece new hquiet transmission rest htrace hsplit hbound hprogress htx hsession
    hready hsent hopen
      hstack =>
      have hnot := Closing.not_mem_of_sending hinv.closing hsession hready
      have hfree : s.base.txState.transmitting = false := by
        rw [Bool.eq_false_iff]
        intro hbusy
        rcases hinv.busy hbusy with hlow | hmem
        · rw [hready] at hlow
          cases hlow
        · exact hnot hmem
      have haside := aside_of_quiet hquiet
      have hflips := aside_flips s.base s'.base
      refine ⟨hclosing, fun _ => Or.inl hsent, ?_, ?_⟩
      · rw [hopen, htx, hstack]
        intro hshut
        rcases hinv.shut hshut with hidle | hmem
        · rw [hidle]
          exact Or.inl rfl
        · exact Or.inr hmem
      · rw [htrace, htx, List.append_assoc]
        refine hinv.emission.extend ?_ ?_ ?_ ?_
        · intro data hmem
          simp only [List.mem_append, List.mem_singleton, reduceCtorEq, or_false] at hmem
          exact hmem.elim (notMem_of_aside haside rfl) (notMem_of_aside hflips rfl)
        · intro hshut
          exact (closed_mem_flips hshut).imp_right (List.mem_append_right _)
        · rw [chunks_append, chunks_append, chunks_aside haside, chunks_aside hflips,
            List.nil_append, List.append_nil]
          intro chunk hchunk
          simp only [chunks, Observation.piece, List.filterMap_cons, List.filterMap_nil] at hchunk
          split at hchunk
          · cases hchunk
          · rename_i piece hpiece
            split_ifs at hpiece with hempty
            cases hpiece
            rw [List.mem_singleton.mp hchunk]
            exact ⟨by simpa using hempty, hbound⟩
        · intro data post _ _ hemitting
          have hpiece := (hemitting.aside haside).piece hfree hsplit hprogress
          simpa using hpiece.aside hflips
  | complete new hquiet htrace htx hupper hopen hopen' hrest hstack =>
      have haside := aside_of_quiet hquiet
      refine ⟨hclosing, ?_, ?_, ?_⟩
      · rw [htx, TxState.onTxComplete_transmitting]
        nofun
      · rw [hopen']
        nofun
      · rw [htrace, htx, List.append_assoc]
        refine hinv.emission.extend ?_ ?_ ?_ ?_
        · intro data hmem
          simp only [List.cons_append, List.mem_cons, List.mem_append, reduceCtorEq,
            false_or] at hmem
          rcases hmem with hmem | hmem
          · exact notMem_of_aside haside rfl hmem
          · split_ifs at hmem <;> simp at hmem
        · intro hshut
          exact Or.inl (hupper ▸ hshut)
        · have hnil : chunks (.completed :: new ++
              if s.base.txState.onTxComplete.1 && s.base.upperOpen then [.txReady] else []) =
                [] := by
            have hchunks := chunks_aside haside
            rw [chunks_append, show chunks (.completed :: new) = [] from hchunks]
            split_ifs <;> rfl
          rw [hnil]
          nofun
        · intro data post hup _ hemitting
          rw [hup, Bool.and_true]
          exact hemitting.complete hquiet
  | completeClosed htrace htx hupper hopen hopen' hrest hrest' =>
      have hidle := hinv.idle hopen hrest
      refine ⟨hclosing, ?_, ?_, ?_⟩
      · rw [htx, hidle]
        nofun
      · exact fun _ => Or.inl (htx.trans hidle)
      · rw [htrace, htx]
        refine hinv.emission.extend (by simp) (fun hshut => Or.inl (hupper ▸ hshut)) nofun ?_
        intro data post _ _ hemitting
        have hcomplete := @Emitting.complete data post [] s.base.txState hemitting nofun
        rw [hidle] at hcomplete ⊢
        exact hcomplete
  | submit data hready htrace htx hupper hopen hstack =>
      simp only [CryptoLayer.isTxReady, Bool.and_eq_true] at hready
      obtain ⟨⟨hlayer, hup⟩, hidle⟩ := hready
      refine ⟨hclosing, ?_, ?_, ?_⟩
      · rw [htx]
        nofun
      · rw [hopen, hlayer]
        nofun
      · have hemission := hinv.emission
        rw [hup, TxState.isIdle_eq hidle] at hemission
        rw [htrace, htx, hupper, hup]
        exact hemission.submit data
  | lowerOpen htrace htx hupper hopen hopen' hrest hrest' =>
      have hidle := hinv.idle hopen hrest
      refine ⟨hclosing, ?_, ?_, ?_⟩
      · rw [htx, hidle]
        nofun
      · rw [hopen']
        nofun
      · rw [htrace, htx, hupper]
        exact hinv.emission
  | lowerClose htrace htx hupper hopen' hstack =>
      have haside := aside_flips s.base s'.base
      refine ⟨hclosing, fun _ => Or.inr hstack, fun _ => Or.inr hstack, ?_⟩
      rw [htrace, htx]
      refine hinv.emission.extend (fun data => notMem_of_aside haside rfl) ?_ ?_ ?_
      · exact fun hshut => closed_mem_flips hshut
      · rw [chunks_aside haside]
        nofun
      · intro data post _ _ hemitting
        exact hemitting.aside haside
  | afterClose htrace htx hupper hopen hstack =>
      have hshut := (hinv.closing hstack).upper
      refine ⟨hclosing, ?_, ?_, ?_⟩
      · rw [htx]
        nofun
      · exact fun _ => Or.inl htx
      · rw [htrace, htx, hupper]
        have hemission := hinv.emission
        refine ⟨hemission.closed, ?_, hemission.past, hemission.bounded⟩
        intro pre data post heq _ hopened
        exact absurd (hemission.closed hshut pre data post heq) hopened

theorem txInvariant_run {cfg : Config} {labels : List Label} {machine : Machine}
    (hrun : Machine.create.run cfg labels = some machine) : TxInvariant machine.snapshot :=
  Machine.run_invariant_of_move (fun _ _ _ hmove => txInvariant_move hmove) hrun
    ⟨nofun, nofun, fun _ => Or.inl rfl, Emission.start⟩

/-! ## What the history shows -/

namespace Emitting

variable {data : Bytes} {history : List Observation} {tx : TxState}

/-- An idle transmission has sent everything. -/
theorem flatten_of_idle (hemitting : Emitting data history tx) (hidle : tx.isIdle = true) :
    (chunks history).flatten = data := by
  cases hemitting with
  | sending hready hdata hbusy hlast =>
      rw [hidle] at hbusy
      cases hbusy
  | done first between last hhistory hdata hbetween hlast hready htx =>
      have hchunks : chunks history = chunks first := by
        rw [hhistory, List.append_assoc, chunks_append]
        simp only [List.cons_append]
        rw [show chunks (.completed :: (between ++ .txReady :: last)) =
          chunks (between ++ .txReady :: last) from rfl, chunks_append, hbetween,
          show chunks (.txReady :: last) = chunks last from rfl, hlast, List.append_nil,
          List.append_nil]
      rw [hchunks, hdata]

theorem flatten_prefix (hemitting : Emitting data history tx) :
    (chunks history).flatten <+: data := by
  cases htx : tx.isIdle with
  | true => rw [hemitting.flatten_of_idle htx]
  | false =>
      cases hemitting with
      | sending hready hdata hbusy hlast => exact ⟨tx.remainder, hdata.symm⟩
      | done first between last hhistory hdata hbetween hlast hready hdone =>
          rw [hdone] at htx
          cases htx

theorem count_txReady (hemitting : Emitting data history tx) : history.count .txReady ≤ 1 := by
  cases hemitting with
  | sending hready hdata hbusy hlast => rw [List.count_eq_zero.mpr hready]; exact Nat.zero_le 1
  | done first between last hhistory hdata hbetween hlast hready htx =>
      simp only [List.mem_append, not_or] at hready
      rw [hhistory]
      simp [List.count_append, List.count_eq_zero.mpr hready.1.1,
        List.count_eq_zero.mpr hready.1.2, List.count_eq_zero.mpr hready.2]

/-- The upper layer is told behind the last piece, and behind its completion. -/
theorem txReady_split (hemitting : Emitting data history tx) {before after : List Observation}
    (hsplit : history = before ++ .txReady :: after) :
    (chunks before).flatten = data ∧ PieceCompleted before ∧ chunks after = [] := by
  cases hemitting with
  | sending hready hdata hbusy hlast =>
      rw [hsplit] at hready
      simp at hready
  | done first between last hhistory hdata hbetween hlast hready htx =>
      have heq : first ++ .completed :: between ++ .txReady :: last = before ++ .txReady :: after :=
        hhistory.symm.trans hsplit
      simp only [List.mem_append, not_or] at hready
      -- there is only one place to split at
      obtain ⟨rfl, rfl⟩ : before = first ++ .completed :: between ∧ after = last := by
        have hfront : .txReady ∉ first ++ .completed :: between := by simp [hready.1]
        obtain ⟨hbefore, -, hafter⟩ :=
          (List.append_cons_inj_of_notMem hfront hready.2).mp heq
        exact ⟨hbefore.symm, hafter.symm⟩
      refine ⟨?_, ⟨first, between, rfl, hbetween⟩, hlast⟩
      rw [chunks_append, show chunks (.completed :: between) = chunks between from rfl, hbetween,
        List.append_nil, hdata]

theorem txReady_mem (hemitting : Emitting data history tx)
    (hall : (chunks history).flatten = data) (hcompleted : PieceCompleted history) :
    .txReady ∈ history := by
  cases hemitting with
  | sending hready hdata hbusy hlast =>
      have hempty : tx.remainder = [] := by
        rw [hall] at hdata
        exact List.append_right_eq_self.mp hdata.symm
      exact absurd hcompleted (hlast hempty)
  | done first between last hhistory hdata hbetween hlast hready htx =>
      rw [hhistory]
      simp

end Emitting

/-- Of an idle transmission, the data of every submission that no close followed has been sent. -/
theorem Emission.all_sent {history pre post later : List Observation} {upperOpen : Bool}
    {tx : TxState} {data : Bytes} (hemission : Emission history upperOpen tx)
    (hidle : tx.isIdle = true) (hhistory : history = pre ++ .submit data :: post ++ later)
    (hlater : later = [] ∨ ∃ next rest, later = .submit next :: rest)
    (hpost : ∀ next, .submit next ∉ post) (hopen : .closed ∉ post) (hdata : data ≠ []) :
    (chunks post).flatten = data := by
  rcases hlater with rfl | ⟨next, rest, rfl⟩
  · rw [List.append_nil] at hhistory
    exact (hemission.current pre data post hhistory hpost hopen hdata).flatten_of_idle hidle
  · exact (hemission.past pre data post next rest hhistory hpost hopen hdata).flatten_of_idle rfl

end Ssp21
