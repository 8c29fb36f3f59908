import Ssp21.Crypto.Acts

/-!
# Whose turn it is

`start_tx_from_upper` refuses data while the data before are being transmitted.  An upper layer does
not have to ask: it is told by `on_lower_open`, and by `on_lower_tx_ready` when its data are gone.

* `Machine.turns`: the callbacks that give the turn to the upper layer, and the transmission that
  keeps it from there.
* `Machine.turns_step`: while the upper layer is open there is one turn, which the layer neither
  loses nor gives twice.
-/

namespace Ssp21

open Wire

namespace Task

/-- A callback that lets the upper layer submit data. -/
def grants : Task → Bool
  | .upper .onLowerOpen | .upper .onLowerTxReady => true
  | _ => false

end Task

namespace CryptoLayer

variable (base : CryptoLayer)

theorem grants_openUpper :
    base.openUpper.2.countP Task.grants + base.upperOpen.toNat =
      base.openUpper.1.upperOpen.toNat := by
  cases hopen : base.upperOpen <;> simp [openUpper, hopen, log, Task.grants]

theorem grants_notifyTxReady :
    base.notifyTxReady.2.countP Task.grants = base.upperOpen.toNat := by
  cases hopen : base.upperOpen <;> simp [notifyTxReady, hopen, Task.grants]

theorem grants_notifyRxReady : base.notifyRxReady.2.countP Task.grants = 0 := by
  cases hopen : base.upperOpen <;> simp [notifyRxReady, hopen, Task.grants]

end CryptoLayer

/-- A message gives the turn to the upper layer exactly if it opens it. -/
theorem Delivers.grants {mayDrop : Bytes → Prop} {base base' : CryptoLayer} {tasks : List Task}
    (hdelivers : Delivers mayDrop base base' tasks) :
    tasks.countP Task.grants + base.upperOpen.toNat = base'.upperOpen.toNat := by
  cases hdelivers with
  | nothing hquiet => simp [hquiet.upperOpen]
  | @data middle base' key msg payload hpayload hbefore hafter =>
      have hupper : base'.notifyRxReady.1.upperOpen = base.upperOpen :=
        ((CryptoLayer.Confined.notifyRxReady base').upperOpen.trans hafter.upperOpen).trans
          hbefore.upperOpen
      rw [hupper, base'.grants_notifyRxReady, Nat.zero_add]
  | @auth middle base' key msg payload rest hrest hbefore hafter =>
      have hupper : base'.upperOpen = base.upperOpen := hafter.upperOpen.trans hbefore.upperOpen
      have hnone : (Task.authPayload payload :: rest).countP Task.grants = 0 := by
        rcases hrest with rfl | rfl <;> rfl
      rw [List.countP_append, hnone, Nat.add_zero, ← hupper]
      exact base'.grants_openUpper
  | dropped key msg payload hdrop hbefore hafter =>
      have hupper : base'.upperOpen = base.upperOpen := hafter.upperOpen.trans hbefore.upperOpen
      simp [hupper]

/-- No message closes the upper layer. -/
theorem Delivers.unshut {mayDrop : Bytes → Prop} {base base' : CryptoLayer} {tasks : List Task}
    (hdelivers : Delivers mayDrop base base' tasks) : .upper .onLowerClose ∉ tasks := by
  intro hmem
  cases hdelivers with
  | nothing => cases hmem
  | data => cases Layer.notifyRxReady_snd hmem
  | auth key msg payload rest hrest =>
      rcases List.mem_append.mp hmem with hopened | hmem
      · cases CryptoLayer.openUpper_snd hopened
      · rcases hrest with rfl | rfl <;> simp at hmem
  | dropped => cases hmem

namespace TxState

variable {tx : TxState}

theorem isIdle_of_complete (hdone : tx.onTxComplete.1 = true) :
    tx.isIdle = false ∧ tx.onTxComplete.2.isIdle = true := by
  cases hbusy : tx.transmitting with
  | false => simp [onTxComplete, hbusy] at hdone
  | true =>
      simp only [onTxComplete, hbusy, if_true] at hdone ⊢
      exact ⟨by simp [isIdle, hbusy], by simpa [isIdle] using hdone⟩

theorem isIdle_of_incomplete (hdone : tx.onTxComplete.1 = false) :
    tx.onTxComplete.2.isIdle = tx.isIdle := by
  cases hbusy : tx.transmitting with
  | false => simp [onTxComplete, hbusy]
  | true =>
      simp only [onTxComplete, hbusy, if_true] at hdone ⊢
      simp [isIdle, hbusy, hdone]

end TxState

namespace Layer

variable {cfg : Config} {layer : Layer}

/-- `on_lower_tx_ready` of an open layer. -/
theorem onLowerTxReady_eq (hopen : layer.base.isOpen = true) (env : Env) :
    layer.onLowerTxReady cfg env =
      let asked := onPreTxReady cfg env ⟨layer.base.complete, layer.initiator⟩
      if layer.base.txState.onTxComplete.1 then
        ({ asked with base := asked.base.notifyTxReady.1 },
          asked.base.notifyTxReady.2 ++ [.tryReadFromLower, .checkTransmit])
      else (asked, [.tryReadFromLower, .checkTransmit]) := by
  rw [onLowerTxReady, if_neg (by simpa [CryptoLayer.log] using hopen)]
  rfl

/-- The read loop leaves everything as it is, or delivers a message and goes on. -/
theorem tryReadFromLower_delivers (env : Env) :
    (layer.tryReadFromLower cfg env).2 = [] ∧
        (layer.tryReadFromLower cfg env).1.base.upperOpen = layer.base.upperOpen ∧
        (layer.tryReadFromLower cfg env).1.base.payloadData = layer.base.payloadData ∨
      ∃ base tasks, (layer.tryReadFromLower cfg env).2 = tasks ++ [.tryReadFromLower] ∧
        base.upperOpen = layer.base.upperOpen ∧ base.payloadData = layer.base.payloadData ∧
        Delivers (fun _ => True) base (layer.tryReadFromLower cfg env).1.base tasks := by
  unfold tryReadFromLower
  split_ifs with hguard
  · exact .inl ⟨rfl, rfl, rfl⟩
  · have hready := (CryptoLayer.canRead_of_guard hguard).1
    split
    · exact .inl ⟨rfl, rfl, rfl⟩
    · rename_i message messages _
      split_ifs
      · exact .inl ⟨rfl, rfl, rfl⟩
      · have hdelivers := @process_delivers cfg (fun _ => True)
          { layer with base := { layer.base with lowerRx := messages } } hready env message
          (fun _ _ _ _ => trivial)
        exact .inr ⟨{ layer.base with lowerRx := messages }, _, rfl, rfl, rfl, hdelivers⟩

theorem tryReadFromLower_grants (env : Env) :
    (layer.tryReadFromLower cfg env).2.countP Task.grants + layer.base.upperOpen.toNat =
      (layer.tryReadFromLower cfg env).1.base.upperOpen.toNat := by
  rcases @tryReadFromLower_delivers cfg layer env with
    ⟨hnone, hsame, -⟩ | ⟨base, tasks, htasks, hsame, -, hdelivers⟩
  · rw [hnone, hsame]
    exact Nat.zero_add _
  · rw [htasks, List.countP_append, show [Task.tryReadFromLower].countP Task.grants = 0 from rfl,
      Nat.add_zero, ← hsame]
    exact hdelivers.grants

theorem onLowerTxReady_tasks {env : Env} {task : Task}
    (hmem : task ∈ (layer.onLowerTxReady cfg env).2) :
    task = .upper .onLowerTxReady ∨ task = .tryReadFromLower ∨ task = .checkTransmit := by
  by_cases hopen : layer.base.isOpen = true
  · rw [onLowerTxReady_eq hopen] at hmem
    dsimp only at hmem
    split_ifs at hmem
    · rcases List.mem_append.mp hmem with hmem | hmem
      · exact .inl (CryptoLayer.notifyTxReady_snd hmem)
      · exact .inr (by simpa using hmem)
    · exact .inr (by simpa using hmem)
  · rw [onLowerTxReady, if_pos (by simpa [CryptoLayer.log] using hopen)] at hmem
    cases hmem

/-- Data that cannot be formatted close the upper layer; apart from that, nothing changes for it. -/
theorem checkTransmit_upperOpen (env : Env)
    (hupper : .closed ∉ (layer.checkTransmit cfg env).1.base.trace) :
    (layer.checkTransmit cfg env).2 = [] ∧
      (layer.checkTransmit cfg env).1.base.upperOpen = layer.base.upperOpen := by
  unfold checkTransmit at hupper ⊢
  dsimp only at hupper ⊢
  split_ifs at hupper ⊢
  · exact ⟨rfl, rfl⟩
  · split at hupper
    · cases hopen : layer.base.upperOpen with
      | true => simp [CryptoLayer.closeUpper, CryptoLayer.log, hopen] at hupper
      | false => exact ⟨by simp [CryptoLayer.closeUpper, CryptoLayer.log, hopen],
          by simp [CryptoLayer.closeUpper, CryptoLayer.log, hopen]⟩
    · refine ⟨rfl, ((handshakes_confined _).onSessionNonceChange _ _ env).upperOpen.trans ?_⟩
      unfold CryptoLayer.lowerStartTx
      split_ifs <;> rfl

end Layer

namespace Machine

/-- The turns that are not with the upper layer: a callback is to give it one, or its data are being
transmitted. -/
def turns (machine : Machine) : Nat :=
  machine.stack.countP Task.grants + (!machine.layer.base.txState.isIdle).toNat

variable {cfg : Config} {layer layer' : Layer} {stack stack' : List Task} {held : Nat}

theorem turns_of (hidle : layer'.base.txState.isIdle = layer.base.txState.isIdle)
    (hgrants : stack'.countP Task.grants + layer.base.upperOpen.toNat =
      stack.countP Task.grants + layer'.base.upperOpen.toNat)
    (hturns : turns ⟨layer, stack⟩ + held = layer.base.upperOpen.toNat) :
    turns ⟨layer', stack'⟩ + held = layer'.base.upperOpen.toNat := by
  simp only [turns, hidle] at hturns ⊢
  omega

/-- The whole data are gone, and the upper layer is told so. -/
theorem turns_lowerTxReady {env : Env}
    (hturns : turns ⟨layer, []⟩ + held = layer.base.upperOpen.toNat) :
    turns ⟨(layer.onLowerTxReady cfg env).1, (layer.onLowerTxReady cfg env).2⟩ + held =
      (layer.onLowerTxReady cfg env).1.base.upperOpen.toNat := by
  by_cases hopen : layer.base.isOpen = true
  · have hasked := (Layer.handshakes_confined cfg.ctx).onPreTxReady layer.base.complete
      layer.initiator env
    have hidle := ((Layer.handshakes_proceed cfg.ctx).onPreTxReady layer.base.complete
      layer.initiator env).idle
    rw [Layer.onLowerTxReady_eq hopen]
    generalize Layer.onPreTxReady cfg env _ = asked at hasked hidle ⊢
    have hupper : asked.base.upperOpen = layer.base.upperOpen := hasked.upperOpen
    replace hidle : asked.base.txState.isIdle = layer.base.txState.onTxComplete.2.isIdle := hidle
    have hnone : [Task.tryReadFromLower, .checkTransmit].countP Task.grants = 0 := rfl
    dsimp only
    cases hdone : layer.base.txState.onTxComplete.1 with
    | true =>
        obtain ⟨hbefore, hafter⟩ := TxState.isIdle_of_complete hdone
        rw [hafter] at hidle
        rw [if_pos rfl, CryptoLayer.notifyTxReady_fst]
        simp only [turns, List.countP_nil, hbefore] at hturns
        simp only [turns, List.countP_append, hnone, asked.base.grants_notifyTxReady, hidle, hupper]
        simp only [Bool.not_false, Bool.toNat_true, Bool.not_true, Bool.toNat_false] at hturns ⊢
        have hone := layer.base.upperOpen.toNat_le
        omega
    | false =>
        rw [if_neg (by simp)]
        rw [TxState.isIdle_of_incomplete hdone] at hidle
        exact turns_of hidle (congrArg (0 + ·.toNat) hupper.symm) hturns
  · rw [Layer.onLowerTxReady, if_pos (by simpa [CryptoLayer.log] using hopen)]
    exact hturns

/-- **The turn is kept.**  In a step of the layer, while the upper layer is not closed. -/
theorem turns_step {machine machine' : Machine} {label : Label}
    (hstep : machine.step cfg label = some machine') (hstays : label.closes = false)
    (hcall : label.isCall = false) (hunclosed : .afterClose ∉ machine.stack)
    (hupper : .closed ∉ machine'.layer.base.trace)
    (hturns : machine.turns + held = machine.layer.base.upperOpen.toNat) :
    machine'.turns + held = machine'.layer.base.upperOpen.toNat := by
  cases steps_of_step hstep with
  | receive layer stack message => exact hturns
  | lowerOpen layer ready env =>
      by_cases hopen : layer.base.isOpen = true
      · rw [Layer.onLowerOpen, if_pos hopen]
        exact hturns
      · have hopened := @Layer.onLowerOpen_proceeds cfg layer (by simpa using hopen) ready env
        refine turns_of hopened.idle ?_ hturns
        rw [Layer.onLowerOpen, if_neg hopen]
        dsimp only
        split
        · rw [((Layer.handshakes_confined _).onHandshakeRequired _ _ env env.now).upperOpen]
        · rfl
  | lowerClose => cases hstays
  | lowerTxReady layer env => exact turns_lowerTxReady hturns
  | lowerRxReady layer =>
      unfold Layer.onLowerRxReady
      split_ifs <;> exact hturns
  | timer env =>
      refine turns_of ((Layer.handshakes_proceed cfg.ctx).onTimer env _).idle ?_ hturns
      exact congrArg (0 + ·.toNat) ((Layer.handshakes_confined _).onTimer env _).upperOpen.symm
  | startRx => cases hcall
  | startTx => cases hcall
  | ret => cases hcall
  | @run layer task result stack env hrun =>
      have hclose : task ≠ .afterClose := by
        rintro rfl
        exact hunclosed List.mem_cons_self
      refine turns_of (Layer.runTask_proceeds hrun hclose).idle ?_ hturns
      cases Layer.ran_of_runTask hrun with
      | tryReadFromLower =>
          have hgrants := @Layer.tryReadFromLower_grants cfg layer env
          simp only [List.countP_append, List.countP_cons, Task.grants,
            Bool.false_eq_true, if_false]
          omega
      | checkTransmit =>
          obtain ⟨hnone, hsame⟩ := Layer.checkTransmit_upperOpen env hupper
          rw [hnone, hsame]
          rfl
      | noPayload => rfl
      | @authPayload payload hne =>
          rw [List.countP_append, CryptoLayer.grants_notifyRxReady,
            (CryptoLayer.Confined.notifyRxReady _).upperOpen]
          simp [CryptoLayer.placePayload, CryptoLayer.log, Task.grants]
      | enterIdle => rfl
      | afterClose => exact absurd rfl hclose

/-- The tasks that a step adds: none of them is the rest of a close, and the upper layer is told to
close only when it is closed. -/
theorem tasks_step {machine machine' : Machine} {label : Label}
    (hstep : machine.step cfg label = some machine') (hstays : label.closes = false) {task : Task}
    (hmem : task ∈ machine'.stack) :
    task ∈ machine.stack ∨ task ≠ .afterClose ∧
      (task = .upper .onLowerClose → .closed ∈ machine'.layer.base.trace) := by
  cases steps_of_step hstep with
  | receive => exact .inl hmem
  | lowerOpen => cases hmem
  | lowerClose => cases hstays
  | lowerTxReady layer env =>
      rcases Layer.onLowerTxReady_tasks hmem with rfl | rfl | rfl <;> exact .inr (by simp)
  | lowerRxReady layer =>
      unfold Layer.onLowerRxReady at hmem
      split_ifs at hmem
      · cases List.mem_singleton.mp hmem
        exact .inr (by simp)
      · cases hmem
  | timer => cases hmem
  | startRx layer =>
      rcases List.mem_append.mp hmem with hmem | hmem
      · cases (Layer.startRxFromUpper_untouched layer.base).2 _ hmem
        exact .inr (by simp)
      · exact .inl hmem
  | startTx layer data =>
      unfold CryptoLayer.startTxFromUpper at hmem
      split_ifs at hmem
      · rcases List.mem_cons.mp hmem with rfl | hmem
        · exact .inr (by simp)
        · exact .inl hmem
      · exact .inl hmem
  | ret => exact .inl (List.mem_cons_of_mem _ hmem)
  | @run layer head result stack env hrun =>
      rcases List.mem_append.mp hmem with hmem | hmem
      · refine .inr ?_
        cases Layer.ran_of_runTask hrun with
        | tryReadFromLower =>
            rcases @Layer.tryReadFromLower_delivers cfg layer env with
              ⟨hnone, -⟩ | ⟨base, tasks, htasks, -, -, hdelivers⟩
            · rw [hnone] at hmem
              cases hmem
            · rw [htasks] at hmem
              rcases List.mem_append.mp hmem with hmem | hmem
              · exact ⟨fun heq => hdelivers.unclosed (heq ▸ hmem),
                  fun heq => absurd (heq ▸ hmem) hdelivers.unshut⟩
              · cases List.mem_singleton.mp hmem
                simp
        | checkTransmit =>
            refine ⟨fun heq => ?_, fun _ => ?_⟩
            · cases heq.symm.trans (Layer.checkTransmit_snd hmem)
            · by_contra hupper
              rw [(Layer.checkTransmit_upperOpen env hupper).1] at hmem
              cases hmem
        | noPayload => cases hmem
        | @authPayload payload hne =>
            cases Layer.notifyRxReady_snd hmem
            simp
        | enterIdle | afterClose => cases hmem
      · exact .inl (List.mem_cons_of_mem _ hmem)

theorem unclosed_step {machine machine' : Machine} {label : Label}
    (hstep : machine.step cfg label = some machine') (hstays : label.closes = false)
    (hunclosed : .afterClose ∉ machine.stack) : .afterClose ∉ machine'.stack :=
  fun hmem => ((tasks_step hstep hstays hmem).resolve_left hunclosed).1 rfl

theorem unshut_step {machine machine' : Machine} {label : Label}
    (hstep : machine.step cfg label = some machine') (hstays : label.closes = false)
    (hupper : .closed ∉ machine'.layer.base.trace)
    (hunshut : .upper .onLowerClose ∉ machine.stack) : .upper .onLowerClose ∉ machine'.stack :=
  fun hmem => hupper (((tasks_step hstep hstays hmem).resolve_left hunshut).2 rfl)

end Machine

end Ssp21
