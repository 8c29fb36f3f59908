import Ssp21.Crypto.StreamIntegrity
import Ssp21.Crypto.Turns

/-!
# Announced payloads

A payload is put into a buffer of the layer, and the upper layer is told by `on_lower_rx_ready` that
it can read it.  No other message is read before the upper layer has done so.

* `Machine.Serves`: what a step does with the payload and with what is announced.
* `Machine.Announced`: no payload is left behind unannounced, as long as it is one for an open upper
  layer, as in an undisturbed exchange (`Duplex.clean_run`).
* `Machine.Promised`: an upper layer that is told to read finds a payload, whatever the sessions
  are.
-/

namespace Ssp21

open Wire

/-! ## What a message does -/

theorem CryptoLayer.mem_notifyRxReady {base : CryptoLayer} (hopen : base.upperOpen = true) :
    .upper .onLowerRxReady ∈ base.notifyRxReady.2 := by
  rw [notifyRxReady, if_pos hopen]
  exact List.mem_singleton_self _

section Delivers

variable {mayDrop : Bytes → Prop} {base base' : CryptoLayer} {tasks : List Task}

/-- A message leaves the payload as it is, or brings one. -/
theorem Delivers.serves (hdelivers : Delivers mayDrop base base' tasks) :
    (base'.payloadData = base.payloadData ∧ .upper .onLowerRxReady ∉ tasks) ∨
      (base'.payloadData ≠ [] ∧
        (base'.upperOpen = true → .upper .onLowerRxReady ∈ tasks)) := by
  cases hdelivers with
  | nothing hquiet => exact .inl ⟨hquiet.payloadData, List.not_mem_nil⟩
  | @data middle base' key msg payload hpayload hbefore hafter =>
      have hkept := CryptoLayer.Confined.notifyRxReady base'
      have hplaced : base'.notifyRxReady.1.payloadData = payload :=
        hkept.payloadData.trans hafter.payloadData
      refine .inr ⟨hplaced ▸ hpayload, fun hopen => ?_⟩
      exact CryptoLayer.mem_notifyRxReady (hkept.upperOpen.symm.trans hopen)
  | auth key msg payload rest hrest hbefore hafter =>
      refine .inl ⟨?_, fun hmem => ?_⟩
      · rw [CryptoLayer.openUpper_fst]
        exact hafter.payloadData.trans hbefore.payloadData
      · rcases List.mem_append.mp hmem with hopened | hmem
        · cases CryptoLayer.openUpper_snd hopened
        · rcases hrest with rfl | rfl <;> simp at hmem
  | dropped key msg payload hdrop hbefore hafter =>
      exact .inl ⟨hafter.payloadData.trans hbefore.payloadData, List.not_mem_nil⟩

end Delivers

namespace Layer

variable {cfg : Config} {layer : Layer}

theorem tryReadFromLower_serves (env : Env) :
    ((layer.tryReadFromLower cfg env).1.base.payloadData = layer.base.payloadData ∧
        .upper .onLowerRxReady ∉ (layer.tryReadFromLower cfg env).2) ∨
      ((layer.tryReadFromLower cfg env).1.base.payloadData ≠ [] ∧
        ((layer.tryReadFromLower cfg env).1.base.upperOpen = true →
          .upper .onLowerRxReady ∈ (layer.tryReadFromLower cfg env).2)) := by
  rcases @tryReadFromLower_delivers cfg layer env with
    ⟨hnone, -, hsame⟩ | ⟨base, tasks, htasks, -, hsame, hdelivers⟩
  · rw [hnone]
    exact .inl ⟨hsame, List.not_mem_nil⟩
  · rw [htasks]
    rcases hdelivers.serves with ⟨hkept, hnot⟩ | ⟨hplaced, hcallback⟩
    · refine .inl ⟨hkept.trans hsame, fun hmem => ?_⟩
      rcases List.mem_append.mp hmem with hmem | hmem
      · exact hnot hmem
      · simp at hmem
    · exact .inr ⟨hplaced, fun hopen => List.mem_append_left _ (hcallback hopen)⟩

theorem onLowerTxReady_payloadData (env : Env) :
    (layer.onLowerTxReady cfg env).1.base.payloadData = layer.base.payloadData := by
  by_cases hopen : layer.base.isOpen = true
  · have hasked := (handshakes_confined cfg.ctx).onPreTxReady layer.base.complete
      layer.initiator env
    rw [onLowerTxReady_eq hopen]
    dsimp only
    split_ifs
    · rw [CryptoLayer.notifyTxReady_fst]
      exact hasked.payloadData
    · exact hasked.payloadData
  · rw [onLowerTxReady, if_pos (by simpa [CryptoLayer.log] using hopen)]
    rfl

end Layer

/-! ## What a step does -/

namespace Machine

variable {cfg : Config} {flag : Bool} {machine machine' : Machine} {label : Label}

/-- A step leaves the payload as it is, with what is announced, or brings a payload. -/
inductive Serves (machine machine' : Machine) : Prop
  | keeps (hpayload : machine'.layer.base.payloadData = machine.layer.base.payloadData)
      (hcallback : .upper .onLowerRxReady ∈ machine'.stack ↔
        .upper .onLowerRxReady ∈ machine.stack)
  | places (hpayload : machine'.layer.base.payloadData ≠ [])
      (hcallback : machine'.layer.base.upperOpen = true →
        .upper .onLowerRxReady ∈ machine'.stack)

/-- A task is replaced by tasks that announce nothing. -/
theorem Serves.of_task {layer : Layer} {task : Task} {stack : List Task}
    {result : Layer × List Task} (hne : task ≠ .upper .onLowerRxReady)
    (hpayload : result.1.base.payloadData = layer.base.payloadData)
    (hnot : .upper .onLowerRxReady ∉ result.2) :
    Serves ⟨layer, task :: stack⟩ ⟨result.1, result.2 ++ stack⟩ := by
  refine .keeps hpayload ?_
  rw [List.mem_append, List.mem_cons]
  exact ⟨fun hmem => .inr (hmem.resolve_left hnot),
    fun hmem => .inr (hmem.resolve_left (Ne.symm hne))⟩

theorem serves_step (hstep : machine.step cfg label = some machine')
    (hstays : label.closes = false) (hcall : label.isCall = false)
    (hupper : .closed ∉ machine'.layer.base.trace) : Serves machine machine' := by
  cases steps_of_step hstep with
  | receive => exact .keeps rfl Iff.rfl
  | lowerOpen layer ready env =>
      refine .keeps ?_ Iff.rfl
      unfold Layer.onLowerOpen
      split_ifs
      · rfl
      · dsimp only
        split
        · exact ((Layer.handshakes_confined _).onHandshakeRequired _ _ env env.now).payloadData
        · rfl
  | lowerClose => cases hstays
  | lowerTxReady layer env =>
      refine .keeps (Layer.onLowerTxReady_payloadData env) (iff_of_false ?_ List.not_mem_nil)
      intro hmem
      rcases Layer.onLowerTxReady_tasks hmem with h | h | h <;> cases h
  | lowerRxReady layer =>
      unfold Layer.onLowerRxReady
      split_ifs
      · exact .keeps rfl (by simp)
      · exact .keeps rfl Iff.rfl
  | timer env => exact .keeps ((Layer.handshakes_confined _).onTimer env _).payloadData Iff.rfl
  | startRx => cases hcall
  | startTx => cases hcall
  | ret => cases hcall
  | @run layer task result stack env hrun =>
      cases Layer.ran_of_runTask hrun with
      | tryReadFromLower =>
          rcases @Layer.tryReadFromLower_serves cfg layer env with
            ⟨hsame, hnot⟩ | ⟨hplaced, hcallback⟩
          · exact .of_task (by simp) hsame hnot
          · exact .places hplaced fun hopen => List.mem_append_left _ (hcallback hopen)
      | checkTransmit =>
          refine .of_task (by simp) (Layer.checkTransmit_keepsInput env).payloadData ?_
          rw [(Layer.checkTransmit_upperOpen env hupper).1]
          exact List.not_mem_nil
      | noPayload => exact .of_task (by simp) rfl List.not_mem_nil
      | @authPayload payload hne =>
          have hkept := CryptoLayer.Confined.notifyRxReady (layer.base.placePayload payload)
          refine .places ?_ fun hopen => List.mem_append_left _ ?_
          · rw [hkept.payloadData]
            exact hne
          · exact CryptoLayer.mem_notifyRxReady (hkept.upperOpen.symm.trans hopen)
      | enterIdle | afterClose => exact .of_task (by simp) rfl List.not_mem_nil

/-- A payload is with the upper layer, or is about to be announced to it. -/
def Announced (flag : Bool) (machine : Machine) : Prop :=
  machine.layer.base.payloadData ≠ [] → flag = true ∨ .upper .onLowerRxReady ∈ machine.stack

/-- A payload that becomes available is announced, if there is an upper layer to read it. -/
theorem Announced.step (hannounced : Announced flag machine)
    (hstep : machine.step cfg label = some machine') (hstays : label.closes = false)
    (hcall : label.isCall = false) (hupper : .closed ∉ machine'.layer.base.trace)
    (hopen : machine'.layer.base.payloadData ≠ [] → machine'.layer.base.upperOpen = true) :
    Announced flag machine' := by
  intro hne
  cases serves_step hstep hstays hcall hupper with
  | keeps hpayload hcallback => exact (hannounced (hpayload ▸ hne)).imp_right hcallback.mpr
  | places hpayload hcallback => exact .inr (hcallback (hopen hne))

/-- There is a payload behind each announcement. -/
def Promised (machine : Machine) : Prop :=
  .upper .onLowerRxReady ∈ machine.stack → machine.layer.base.payloadData ≠ []

theorem Promised.step (hpromised : Promised machine)
    (hstep : machine.step cfg label = some machine') (hstays : label.closes = false)
    (hcall : label.isCall = false) (hupper : .closed ∉ machine'.layer.base.trace) :
    Promised machine' := by
  intro hmem
  cases serves_step hstep hstays hcall hupper with
  | keeps hpayload hcallback =>
      rw [hpayload]
      exact hpromised (hcallback.mp hmem)
  | places hpayload => exact hpayload

/-! ## Payloads and sessions -/

/-- Data that cannot be formatted close the upper layer. -/
theorem not_fails_data (hcoupled : machine.layer.base.upperOpen = machine.layer.base.active.valid)
    (hstep : machine.step cfg label = some machine')
    (hupper : .closed ∉ machine'.layer.base.trace) : ¬ machine.Fails cfg label .data := by
  rintro ⟨env, stack, e, rfl, hstack, hready, herror⟩
  obtain ⟨layer, tasks⟩ := machine
  cases hstack
  have hopen : layer.base.upperOpen = true := by
    rw [show layer.base.upperOpen = _ from hcoupled]
    exact (CryptoLayer.ready_of_canTransmit hready).1
  cases steps_of_step hstep with
  | @run _ _ _ _ _ hrun =>
      cases hrun
      have hnone := (Layer.checkTransmit_upperOpen env hupper).1
      simp [Layer.checkTransmit, hready, herror, CryptoLayer.closeUpper, CryptoLayer.log,
        hopen] at hnone

end Machine

namespace Duplex

variable {pairing : Pairing} {store : UInt64 → Option Bytes} {duplex duplex' : Duplex}

/-- A party without a session has nothing left for its upper layer. -/
theorem clean_step (hjoined : Joined pairing store duplex)
    (hclean : ∀ party, Clean (duplex.machine party).snapshot) {label : Party × Label}
    (hundisturbed : duplex.Undisturbed pairing label) (horderly : duplex.Orderly pairing label)
    (hstep : duplex.step pairing label = some duplex') (party : Party) :
    Clean (duplex'.machine party).snapshot := by
  obtain ⟨mover, label⟩ := label
  have hclosed : .closed ∉ duplex'.trace mover := hundisturbed.upper duplex' hstep
  -- the party that moves
  have hmoved {machine : Machine}
      (hmachine : (duplex.machine mover).step (pairing.config mover) label = some machine)
      (hupper : .closed ∉ machine.layer.base.trace) : Clean machine.snapshot := by
    have hsteady := hjoined.steady mover
    have hdata := Machine.not_fails_data hsteady.kept.coupled.coupled hmachine hupper
    have hanswer := horderly.answers.answerFits.not_fails hsteady.kept.coupled
    refine (moves_invariant (P := fun s => Snapshot.Kept (pairing.config mover) s ∧ Clean s) ?_
      (Machine.step_moves hsteady.sound hmachine).1 ⟨hsteady.kept, hclean mover⟩).2
    rintro s s' hmove ⟨hkept, hinv⟩
    exact ⟨Snapshot.kept_move hmove hanswer hkept,
      clean_move hmove hdata hanswer hkept.closing hkept.coupled hinv⟩
  rcases step_cases hstep with ⟨message, rest, machine, rfl, -, hmachine, rfl⟩ |
    ⟨-, machine, hmachine, rfl⟩
  · have hupper : .closed ∉ machine.layer.base.trace := by
      cases mover <;> exact hclosed
    exact forall_machine_set (P := fun _ machine => Clean machine.snapshot) hclean
      (hmoved hmachine hupper) _ _ party
  · have hupper : .closed ∉ machine.layer.base.trace := by
      cases mover <;> exact hclosed
    exact forall_machine_set (P := fun _ machine => Clean machine.snapshot) hclean
      (hmoved hmachine hupper) _ _ party

theorem clean_run (hcompatible : pairing.Compatible) {labels : List (Party × Label)}
    (hkeys : ∀ label ∈ labels, ∀ env ∈ label.2.env?, env.KeysFrom store)
    (hrun : create.run pairing labels = some duplex)
    (halong : Runs.Along (step pairing) (fun duplex label =>
      duplex.Undisturbed pairing label ∧ duplex.Orderly pairing label) create labels)
    (party : Party) : Clean (duplex.machine party).snapshot := by
  refine (Runs.run_invariant (fun duplex => Joined pairing store duplex ∧
    ∀ party, Clean (duplex.machine party).snapshot) ?_ hrun
    (halong.and (Runs.along_of_mem hkeys create)) ⟨joined_create, ?_⟩).2 party
  · rintro before label after ⟨hjoined, hclean⟩ ⟨⟨hundisturbed, horderly⟩, hkeys⟩ hstep
    exact ⟨hjoined.step hcompatible hundisturbed horderly hkeys hstep,
      clean_step hjoined hclean hundisturbed horderly hstep⟩
  · intro party
    cases party <;> exact ⟨fun _ => rfl, fun _ => .inl rfl, fun _ hmem =>
      absurd hmem List.not_mem_nil⟩

end Duplex

end Ssp21
