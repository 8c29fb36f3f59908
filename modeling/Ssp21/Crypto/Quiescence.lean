import Ssp21.Crypto.StreamIntegrity

/-!
# A layer at rest

Integrity says that nothing wrong is delivered.  This module says that nothing is left behind: when
the layers are at rest, the data of the upper layers has gone all the way.

* `Machine.idle_at_rest`: no lost transmit wakeup.  An open layer with nothing left to do, over a
  lower layer that is ready, has nothing to transmit.  The exception are data that were submitted
  before the upper layer was closed: `check_transmit` is not called when the next session opens it
  again (`closedSince`).
* `Duplex.Rests`: a party at rest has sent all that was submitted to it, and has handed all that it
  has received to its upper layer.
-/

namespace Ssp21

open Wire

/-! ## Data that outlive their session -/

/-- Whether the upper layer was closed behind its last submission. -/
def closedSince (history : List Observation) : Bool :=
  history.foldl (fun closed o => match o with
    | .closed => true
    | .submit _ => false
    | _ => closed) false

theorem closedSince_append_closed (history : List Observation) :
    closedSince (history ++ [.closed]) = true := by
  simp [closedSince]

/-- Only a submission ends it. -/
theorem closedSince_append {history new : List Observation} (hclosed : closedSince history = true)
    (hnew : ∀ data, .submit data ∉ new) : closedSince (history ++ new) = true := by
  induction new using List.reverseRecOn with
  | nil => rwa [List.append_nil]
  | append_singleton new o ih =>
      have hbefore := ih (fun data hmem => hnew data (List.mem_append_left _ hmem))
      rw [← List.append_assoc, closedSince, List.foldl_append]
      cases o with
      | submit data =>
        exact absurd (List.mem_append_right _ (List.mem_singleton_self _)) (hnew data)
      | closed => rfl
      | _ => exact hbefore

theorem closedSince_of_notMem {history : List Observation} (hclosed : .closed ∉ history) :
    closedSince history = false := by
  induction history using List.reverseRecOn with
  | nil => rfl
  | append_singleton history o ih =>
      simp only [List.mem_append, not_or] at hclosed
      rw [closedSince, List.foldl_append]
      cases o with
      | closed => exact absurd (List.mem_singleton_self _) hclosed.2
      | submit data => rfl
      | _ => exact ih hclosed.1

/-- An open upper layer has a session, and data that remain belong to an open upper layer. -/
structure Backed (s : Snapshot) : Prop where
  session : s.base.upperOpen = true → s.base.active.valid = true
  opened : s.base.txState.remainder ≠ [] →
    s.base.upperOpen = true ∨ closedSince s.base.trace = true

/-- What is observed aside from a submission keeps data where they belong. -/
theorem opened_of_flips {before after : CryptoLayer} {new : List Observation}
    (hnew : ∀ data, .submit data ∉ new)
    (htrace : after.trace = before.trace ++ new ++ flips before after)
    (hopened : before.upperOpen = true ∨ closedSince before.trace = true) :
    after.upperOpen = true ∨ closedSince after.trace = true := by
  cases hafter : after.upperOpen with
  | true => exact .inl rfl
  | false =>
      right
      rw [htrace]
      rcases hopened with hbefore | hclosed
      · rw [show flips before after = [.closed] by simp [flips, hbefore, hafter]]
        exact closedSince_append_closed _
      · refine closedSince_append (closedSince_append hclosed hnew) ?_
        intro data
        exact notMem_of_aside (aside_flips before after) rfl

theorem backed_session_move {cfg : Config} {mayFail : Fault → Prop} {s s' : Snapshot}
    (hmove : Move cfg mayFail s s')
    (hsession : s.base.upperOpen = true → s.base.active.valid = true) :
    s'.base.upperOpen = true → s'.base.active.valid = true := by
  cases hmove.upper with
  | same hupper hactive =>
      rw [hupper, hactive]
      exact hsession
  | opened _ hactive => exact fun _ => hactive
  | unanswered _ hactive => exact fun _ => hactive
  | closed hupper =>
      rw [hupper]
      nofun

theorem backed_opened_move {s s' : Snapshot} (hmove : TxMove s s')
    (hopened : s.base.txState.remainder ≠ [] →
      s.base.upperOpen = true ∨ closedSince s.base.trace = true)
    (hne : s'.base.txState.remainder ≠ []) :
    s'.base.upperOpen = true ∨ closedSince s'.base.trace = true := by
  have hnone {new : List Observation} (hquiet : ∀ o ∈ new, o.quiet = true) (data : Bytes) :
      .submit data ∉ new := notMem_of_aside (aside_of_quiet hquiet) rfl
  cases hmove with
  | quiet new hquiet htrace htx =>
      rw [htx] at hne
      exact opened_of_flips (hnone hquiet) htrace (hopened hne)
  | piece new hquiet transmission rest htrace hsplit hbound hprogress htx =>
      rw [htx, TxState.beginTransmit_remainder hsplit] at hne
      refine opened_of_flips ?_ htrace (hopened ?_)
      · intro data hmem
        rcases List.mem_append.mp hmem with hmem | hmem
        · exact hnone hquiet data hmem
        · simp at hmem
      · rw [hsplit]
        exact fun hnil => hne (List.append_eq_nil_iff.mp hnil).2
  | complete new hquiet htrace htx hupper =>
      rw [htx, TxState.onTxComplete_remainder] at hne
      refine (hopened hne).imp (fun hopen => hupper.trans hopen) (fun hclosed => ?_)
      rw [htrace, List.append_assoc]
      refine closedSince_append hclosed ?_
      intro data hmem
      rcases List.mem_append.mp hmem with hmem | hmem
      · exact hnone hquiet data ((List.mem_cons.mp hmem).resolve_left nofun)
      · split_ifs at hmem
        · simp at hmem
        · cases hmem
  | completeClosed htrace htx hupper =>
      rw [htx] at hne
      refine (hopened hne).imp (fun hopen => hupper.trans hopen) (fun hclosed => ?_)
      rw [htrace]
      exact closedSince_append hclosed (by simp)
  | submit data hready htrace htx hupper =>
      simp only [CryptoLayer.isTxReady, Bool.and_eq_true] at hready
      exact .inl (hupper.trans hready.1.2)
  | lowerOpen htrace htx hupper =>
      rw [htx] at hne
      rw [htrace, hupper]
      exact hopened hne
  | lowerClose htrace htx hupper =>
      rw [htx] at hne
      refine opened_of_flips (fun _ => List.not_mem_nil) ?_ (hopened hne)
      rw [htrace, List.append_nil]
  | afterClose htrace htx =>
      rw [htx] at hne
      exact absurd rfl hne

theorem backed_run {cfg : Config} {labels : List Label} {machine : Machine}
    (hrun : Machine.create.run cfg labels = some machine) : Backed machine.snapshot :=
  Machine.run_invariant_of_move
    (fun _ _ _ hmove hbacked =>
      ⟨backed_session_move hmove hbacked.session, backed_opened_move hmove.tx hbacked.opened⟩)
    hrun ⟨nofun, fun hne => absurd rfl hne⟩

/-! ## No lost transmit wakeup -/

theorem CryptoLayer.Proceeds.closedSince {ctx : SessionContext} {base base' : CryptoLayer}
    (hproceeds : base.Proceeds ctx base') (hopen : closedSince base'.trace = false) :
    closedSince base.trace = false := by
  obtain ⟨new, htrace, hnew⟩ := hproceeds.trace
  rw [Bool.eq_false_iff]
  intro hclosed
  rw [htrace, closedSince_append hclosed (fun data hmem => hnew _ hmem)] at hopen
  cases hopen

/-- With a session, an attempt to transmit takes the lower layer or closes the upper layer. -/
theorem Layer.checkTransmit_settles {cfg : Config} {layer : Layer}
    (hcan : layer.base.canTransmitSessionData = true) (hupper : layer.base.upperOpen = true)
    (env : Env) : (layer.checkTransmit cfg env).1.base.lowerTxReady = false ∨
      closedSince (layer.checkTransmit cfg env).1.base.trace = true := by
  unfold checkTransmit
  rw [if_neg (by simp [hcan])]
  dsimp only
  split
  · right
    rw [CryptoLayer.closeUpper_fst]
    simp only [CryptoLayer.log, hupper, if_true]
    exact closedSince_append_closed _
  · left
    have hready := (CryptoLayer.ready_of_canTransmit hcan).2
    rw [CryptoLayer.lowerStartTx_ready (by exact hready), Bool.eq_false_iff]
    intro hafter
    cases ((handshakes_proceed _).onSessionNonceChange _ _ env).ready hafter

namespace Machine

/-- If there are data that can be transmitted, then an attempt to do so is still to come. -/
def Wakes (machine : Machine) : Prop :=
  machine.layer.base.isOpen = true → machine.layer.base.lowerTxReady = true →
    closedSince machine.layer.base.trace = false → machine.layer.base.txState.remainder ≠ [] →
    .checkTransmit ∈ machine.stack

namespace Wakes

variable {cfg : Config} {layer layer' : Layer} {stack stack' : List Task}

theorem of_proceeds (ctx : SessionContext) (hwakes : Wakes ⟨layer, stack⟩)
    (hproceeds : layer.base.Proceeds ctx layer'.base)
    (hstack : .checkTransmit ∈ stack → .checkTransmit ∈ stack') : Wakes ⟨layer', stack'⟩ := by
  intro hopen hready hclosed hne
  rw [hproceeds.isOpen] at hopen
  rw [hproceeds.txState hready] at hne
  exact hstack (hwakes hopen (hproceeds.ready hready) (hproceeds.closedSince hclosed) hne)

/-- The attempt leaves nothing that could be transmitted. -/
theorem checkTransmit (hbacked : Backed (snapshot ⟨layer, .checkTransmit :: stack⟩))
    (htx : TxInvariant (snapshot ⟨layer, .checkTransmit :: stack⟩)) (env : Env) :
    Wakes ⟨(layer.checkTransmit cfg env).1, (layer.checkTransmit cfg env).2 ++ stack⟩ := by
  intro hopen hready hclosed hne
  have hproceeds : layer.base.Proceeds cfg.ctx (layer.checkTransmit cfg env).1.base :=
    Layer.checkTransmit_proceeds env
  have hready' : layer.base.lowerTxReady = true := hproceeds.ready hready
  have hremains : layer.base.txState.remainder ≠ [] := by
    rwa [hproceeds.txState hready] at hne
  have hupper : layer.base.upperOpen = true := by
    refine (hbacked.opened hremains).resolve_right ?_
    rw [Bool.not_eq_true]
    exact hproceeds.closedSince hclosed
  have hvalid : layer.base.active.valid = true := hbacked.session hupper
  have hidle : layer.base.txState.transmitting = false := by
    rw [Bool.eq_false_iff]
    intro hbusy
    rcases htx.busy hbusy with hlow | hmem
    · rw [show layer.base.lowerTxReady = false from hlow] at hready'
      cases hready'
    · have hshut := (htx.closing hmem).upper
      rw [show layer.base.upperOpen = false from hshut] at hupper
      cases hupper
  have hcan : layer.base.canTransmitSessionData = true := by
    simp [CryptoLayer.canTransmitSessionData, hvalid, hready', TxState.isReadyTx,
      hidle, hremains]
  rcases @Layer.checkTransmit_settles cfg layer hcan hupper env with hbusy | hshut
  · exact absurd hready (by simp [hbusy])
  · exact absurd hclosed (by simp [hshut])

end Wakes

theorem wakes_step {cfg : Config} {machine machine' : Machine} {label : Label}
    (hwakes : Wakes machine) (hbacked : Backed machine.snapshot)
    (htx : TxInvariant machine.snapshot) (hstep : machine.step cfg label = some machine') :
    Wakes machine' := by
  cases steps_of_step hstep with
  | receive layer stack message => exact hwakes
  | lowerOpen layer ready env =>
      by_cases hopen : layer.base.isOpen = true
      · rw [Layer.onLowerOpen, if_pos hopen]
        exact hwakes
      · -- a closed layer has nothing to transmit
        have hshut : layer.base.isOpen = false := by simpa using hopen
        have hidle : layer.base.txState = TxState.idle := htx.idle hshut rfl
        intro _ hready _ hne
        rw [(Layer.onLowerOpen_proceeds hshut ready env).txState hready] at hne
        exact absurd (congrArg TxState.remainder hidle) hne
  | lowerClose layer ready =>
      by_cases hopen : layer.base.isOpen = true
      · intro hopen'
        rw [Layer.onLowerClose, if_neg (by simp [hopen])] at hopen'
        dsimp only at hopen'
        rw [CryptoLayer.closeUpper_fst] at hopen'
        cases hopen'
      · rw [Layer.onLowerClose, if_pos (by simpa using hopen)]
        exact hwakes
  | lowerTxReady layer env =>
      by_cases hopen : layer.base.isOpen = true
      · intro _ _ _ _
        rw [Layer.onLowerTxReady, if_neg (by simpa [CryptoLayer.log] using hopen)]
        dsimp only
        split_ifs <;> simp
      · intro hopen'
        rw [Layer.onLowerTxReady, if_pos (by simpa [CryptoLayer.log] using hopen)] at hopen'
        exact absurd hopen' hopen
  | lowerRxReady layer =>
      unfold Layer.onLowerRxReady
      split_ifs
      · exact hwakes.of_proceeds cfg.ctx (.refl _) (by simp)
      · exact hwakes
  | timer env => exact hwakes.of_proceeds cfg.ctx ((Layer.handshakes_proceed _).onTimer env _) id
  | startRx layer hcall =>
      obtain ⟨hopen, hready, htxState, payloads, htrace⟩ := layer.base.startRxFromUpper_frame
      intro hopen' hready' hclosed hne
      refine List.mem_append_right _ (hwakes ?_ ?_ ?_ ?_)
      · exact hopen.symm.trans hopen'
      · exact hready.symm.trans hready'
      · rw [Bool.eq_false_iff]
        intro hbefore
        have hafter : closedSince layer.base.startRxFromUpper.1.trace = true := by
          rw [htrace]
          exact closedSince_append hbefore (by simp)
        cases hafter.symm.trans hclosed
      · exact htxState ▸ hne
  | startTx layer data hcall =>
      unfold CryptoLayer.startTxFromUpper
      split_ifs
      · exact fun _ _ _ _ => List.mem_cons_self
      · exact hwakes
  | ret layer stack callback =>
      exact hwakes.of_proceeds cfg.ctx (.refl _)
        (fun hmem => (List.mem_cons.mp hmem).resolve_left (by simp))
  | @run layer task result stack env hrun =>
      have hbelow (hne : task ≠ .checkTransmit) (hmem : .checkTransmit ∈ task :: stack) :
          .checkTransmit ∈ result.2 ++ stack :=
        List.mem_append_right _ ((List.mem_cons.mp hmem).resolve_left (Ne.symm hne))
      cases task with
      | checkTransmit =>
          cases hrun
          exact .checkTransmit hbacked htx env
      | afterClose =>
          cases hrun
          exact fun _ _ _ hne => absurd rfl hne
      | _ =>
          exact hwakes.of_proceeds cfg.ctx (Layer.runTask_proceeds hrun (by simp))
            (hbelow (by simp))

theorem wakes_run {cfg : Config} {labels : List Label} {machine : Machine}
    (hrun : create.run cfg labels = some machine) : Wakes machine := by
  induction labels using List.reverseRecOn generalizing machine with
  | nil =>
      cases hrun
      nofun
  | append_singleton labels label ih =>
      obtain ⟨middle, hfirst, hlast⟩ := Runs.run_of_append hrun
      obtain ⟨next, hstep, hnil⟩ := Runs.run_cons hlast
      cases hnil
      exact wakes_step (ih hfirst) (backed_run hfirst) (txInvariant_run hfirst) hstep

theorem isIdle_of_rest {cfg : Config} {labels : List Label} {machine : Machine}
    (hrun : create.run cfg labels = some machine) (hrest : machine.stack = [])
    (hopen : machine.layer.base.isOpen = true) (hready : machine.layer.base.lowerTxReady = true)
    (hclosed : closedSince machine.layer.base.trace = false) :
    machine.layer.base.txState.isIdle = true := by
  have hremainder : machine.layer.base.txState.remainder = [] := by
    by_contra hne
    have hmem := wakes_run hrun hopen hready hclosed hne
    rw [hrest] at hmem
    cases hmem
  have htransmitting : machine.layer.base.txState.transmitting = false := by
    rw [Bool.eq_false_iff]
    intro hbusy
    rcases (txInvariant_run hrun).busy hbusy with hlow | hmem
    · rw [show machine.layer.base.lowerTxReady = false from hlow] at hready
      cases hready
    · rw [show machine.snapshot.stack = [] from hrest] at hmem
      cases hmem
  simp [TxState.isIdle, hremainder, htransmitting]

/-- **No lost transmit wakeup.**  Between events of an open layer whose lower layer is ready, and
whose upper layer was not closed since it last submitted, nothing is left to transmit, and the next
data are accepted if the upper layer is open.  `post` is what happened from the submission of `data`
to the next one or to the present; unless the upper layer was closed in it, all of the data went
out, in frames that carry it. -/
theorem idle_at_rest (cfg : Config) {labels : List Label} {machine : Machine}
    (hrun : create.run cfg labels = some machine) (hrest : machine.stack = [])
    (hopen : machine.layer.base.isOpen = true) (hready : machine.layer.base.lowerTxReady = true)
    (hclosed : closedSince machine.layer.base.trace = false) :
    machine.layer.base.txState.isIdle = true ∧
      machine.layer.base.isTxReady = machine.layer.base.upperOpen ∧
      (∀ transmission, .transmit transmission ∈ machine.layer.base.trace →
        transmission.Faithful cfg.ctx) ∧
      ∀ pre data post later, machine.layer.base.trace = pre ++ .submit data :: post ++ later →
        (later = [] ∨ ∃ next rest, later = .submit next :: rest) →
        (∀ next, .submit next ∉ post) → .closed ∉ post → data ≠ [] →
        (chunks post).flatten = data := by
  have hidle := isIdle_of_rest hrun hrest hopen hready hclosed
  refine ⟨hidle, by simp [CryptoLayer.isTxReady, hopen, hidle], faithful_run hrun, ?_⟩
  intro pre data post later htrace
  exact (txInvariant_run hrun).emission.all_sent hidle htrace

/-- Three bytes have been submitted while the answer to an auth message occupied the lower layer. -/
def emptied : List Label :=
  Emission.submitting ++ [.ret, .run (Sample.env 2), .run (Sample.env 2)]

theorem idle_at_rest_sample :
    (Sample.reached (Sample.responder 1000) (emptied.take 17)).layer.base.txState.remainder =
        [1, 2, 3] ∧
      (Sample.reached (Sample.responder 1000) emptied).layer.base.txState.isIdle = true ∧
      (Sample.reached (Sample.responder 1000) emptied).layer.base.isTxReady =
        (Sample.reached (Sample.responder 1000) emptied).layer.base.upperOpen := by
  obtain ⟨hidle, hready, -⟩ := idle_at_rest (Sample.responder 1000)
    (show create.run (Sample.responder 1000) emptied =
      some (Sample.reached (Sample.responder 1000) emptied) by decide +kernel)
    (by decide +kernel) (by decide +kernel) (by decide +kernel) (by decide +kernel)
  exact ⟨by decide +kernel, hidle, hready⟩

end Machine

/-! ## Two parties at rest -/

namespace Duplex

section Rest

variable {pairing : Pairing} {duplex duplex' : Duplex} {party other : Party} {label : Label}
  {labels : List (Party × Label)}

theorem machine_set_self (machine : Machine) (target : Party) (messages : List Bytes) :
    ((duplex.setMachine party machine).setChannel target messages).machine party = machine := by
  cases party <;> cases target <;> rfl

theorem machine_set_other (hother : other ≠ party) (machine : Machine) (target : Party)
    (messages : List Bytes) :
    ((duplex.setMachine other machine).setChannel target messages).machine party =
      duplex.machine party := by
  cases other <;> cases party <;> cases target <;> first | rfl | exact absurd rfl hother

/-- A run of both parties is a run of each. -/
theorem run_machine {start : Duplex} (hrun : start.run pairing labels = some duplex)
    (party : Party) : ∃ own, (start.machine party).run (pairing.config party) own =
      some (duplex.machine party) := by
  induction labels generalizing start with
  | nil =>
      cases hrun
      exact ⟨[], rfl⟩
  | cons label labels ih =>
      obtain ⟨next, hstep, hrest⟩ := Runs.run_cons hrun
      obtain ⟨other, label⟩ := label
      obtain ⟨own, hnext⟩ := ih hrest
      obtain ⟨machine, target, messages, hmachine, rfl⟩ : ∃ machine target messages,
          (start.machine other).step (pairing.config other) label = some machine ∧
            next = (start.setMachine other machine).setChannel target messages := by
        rcases step_cases hstep with ⟨_, rest, machine, _, _, hmachine, rfl⟩ |
          ⟨_, machine, hmachine, rfl⟩
        · exact ⟨machine, _, _, hmachine, rfl⟩
        · exact ⟨machine, _, _, hmachine, rfl⟩
      by_cases hparty : other = party
      · subst hparty
        rw [machine_set_self] at hnext
        refine ⟨label :: own, ?_⟩
        rw [Machine.run, Runs.run, hmachine]
        exact hnext
      · rw [machine_set_other hparty] at hnext
        exact ⟨own, hnext⟩

/-- A party that could go on, and has nothing to do. -/
structure Rests (duplex : Duplex) (party : Party) : Prop where
  stack : (duplex.machine party).stack = []
  isOpen : (duplex.machine party).layer.base.isOpen = true
  ready : (duplex.machine party).layer.base.lowerTxReady = true
  payload : (duplex.machine party).layer.base.payloadData = []
  channel : duplex.channel party = []

/-- A party at rest that has read everything has received all that was sent to it. -/
theorem Rests.received {store : UInt64 → Option Bytes} (hrests : duplex.Rests party)
    (hjoined : Joined pairing store duplex)
    (hrx : (duplex.machine party).layer.base.lowerRx = []) :
    (duplex.machine party).endpoint.received =
      carried (duplex.machine party.peer).endpoint.sent := by
  obtain ⟨out, back, hout, hback, hjoint⟩ := hjoined.joint
  cases party with
  | initiator =>
      have hnone : back = [] := by
        rw [show duplex.initiator.endpoint.rx = [] from hrx,
          show duplex.toInitiator = [] from hrests.channel] at hback
        exact List.map_eq_nil_iff.mp hback
      have hbackward := hjoint.backward
      rw [hnone] at hbackward
      exact (List.append_nil _).symm.trans hbackward
  | responder =>
      have hnone : out = [] := by
        rw [show duplex.responder.endpoint.rx = [] from hrx,
          show duplex.toResponder = [] from hrests.channel] at hout
        exact List.map_eq_nil_iff.mp hout
      have hforward := hjoint.forward
      rw [hnone] at hforward
      exact (List.append_nil _).symm.trans hforward

/-- A party at rest has handed all that it has received to its upper layer. -/
theorem Rests.given {store : UInt64 → Option Bytes} (hrests : duplex.Rests party)
    (hjoined : Joined pairing store duplex) :
    (reads (duplex.trace party)).flatten = (duplex.machine party).endpoint.received := by
  refine (hjoined.ledger party).settled hrests.payload ?_
  change owed (duplex.machine party).stack = []
  rw [hrests.stack]
  rfl

/-- A party at rest has sent all that was submitted to it. -/
theorem Rests.sent {store : UInt64 → Option Bytes} {labels : List Label}
    (hrests : duplex.Rests party) (hjoined : Joined pairing store duplex)
    (hrun : Machine.create.run (pairing.config party) labels = some (duplex.machine party)) :
    carried (duplex.machine party).endpoint.sent = (submitted (duplex.trace party)).flatten := by
  have hidle := Machine.isIdle_of_rest hrun hrests.stack hrests.isOpen hrests.ready
    (closedSince_of_notMem (hjoined.upper party))
  have hbalance := ((hjoined.steady party).kept.remains (hjoined.upper party)).balance
  rw [show (duplex.machine party).snapshot.base.txState = TxState.idle from
    TxState.isIdle_eq hidle, TxState.idle, List.append_nil] at hbalance
  rw [show (duplex.machine party).endpoint.sent = transmissions (duplex.trace party) from rfl,
    carried_transmissions]
  exact hbalance

end Rest

end Duplex

end Ssp21
