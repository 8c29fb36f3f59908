import Ssp21.Stack.Line

/-!
# A line at rest

The link layer notifies the crypto layer only if it finds a frame, and the crypto layer asks for the
next frame only if it can deal with it.  Nothing is left behind by this: when a stack has nothing to
do although it could go on, then its link layer has handed out everything that has arrived.

* `LinkLayer.Drained`: a link layer that has nothing left to hand out.
* `FullStack.Heeds`: if the link layer has announced something that the crypto layer can read, then
  the read loop is still to come.
* `Carries.reads_at_rest`: when both stacks on a line are at rest, both applications have
  everything.
-/

namespace Ssp21

open Wire Link

namespace LinkLayer

/-! ## A link layer with nothing left -/

/-- Nothing has arrived. -/
structure Untouched (layer : LinkLayer) : Prop where
  lower : layer.lower = []
  remainder : layer.remainder = []
  hasResult : layer.parser.hasResult = false
  idle : layer.upperIsProcessingRxData = false

variable {localAddr : UInt16} {pending : List Frame} {future : Bytes} {layer : LinkLayer}

theorem Drained.onLowerOpen (hdrained : layer.Drained) : layer.onLowerOpen.Drained :=
  ⟨hdrained.parsed, hdrained.hasResult⟩

theorem Untouched.drained (huntouched : layer.Untouched) : layer.Drained :=
  ⟨by simp [unparsed, huntouched.lower, huntouched.remainder], huntouched.hasResult⟩

theorem Untouched.startRx (huntouched : layer.Untouched) : layer.step .startRx = (layer, []) := by
  have hframe : layer.getFrame = layer := by
    rw [getFrame, if_neg (by simp [huntouched.hasResult])]
    exact getFrameLoop_empty _ huntouched.remainder huntouched.lower
  have hread : layer.parser.read = none := by
    simpa [LinkParser.read, LinkParser.hasResult] using huntouched.hasResult
  simp [step, startRxFromUpper, startRxFromUpperImpl, huntouched.idle, hframe, hread]

theorem getFrameLoop_isOpen (fuel : Nat) (layer : LinkLayer) :
    (getFrameLoop fuel layer).isOpen = layer.isOpen := by
  induction fuel generalizing layer with
  | zero => rfl
  | succ fuel ih =>
      have hturn : layer.readFrameOneIteration.2.isOpen = layer.isOpen := by
        cases hlower : layer.lower with
        | nil | cons =>
            simp only [readFrameOneIteration, lowerStartRx, hlower]
            split_ifs <;> rfl
      simp only [getFrameLoop]
      split_ifs
      · rw [ih, hturn]
      · exact hturn

theorem getFrame_isOpen (layer : LinkLayer) : layer.getFrame.isOpen = layer.isOpen := by
  unfold getFrame
  split_ifs
  · rfl
  · exact getFrameLoop_isOpen _ layer

theorem rxReady_isOpen (layer : LinkLayer) : (layer.step .rxReady).1.isOpen = layer.isOpen := by
  simp only [step, onLowerRxReady]
  split_ifs
  · exact getFrame_isOpen layer
  · rfl

theorem startRx_isOpen (layer : LinkLayer) : (layer.step .startRx).1.isOpen = layer.isOpen := by
  have himpl (layer : LinkLayer) : layer.startRxFromUpperImpl.2.isOpen = layer.isOpen := by
    unfold startRxFromUpperImpl
    dsimp only
    split <;> exact getFrame_isOpen layer
  simp only [step, startRxFromUpper]
  split_ifs <;> exact himpl _

end LinkLayer

/-! ## Reading -/

/-- The layer below opens the stack. -/
def Label.opens : Label → Bool
  | .lowerOpen _ _ => true
  | _ => false

/-- A call that leaves nothing in the way enters the read loop. -/
theorem CryptoLayer.startRxFromUpper_wakes {base : CryptoLayer}
    (hread : base.startRxFromUpper.1.canRead) : .tryReadFromLower ∈ base.startRxFromUpper.2 := by
  obtain ⟨-, hpayload⟩ := hread
  unfold startRxFromUpper at hpayload ⊢
  dsimp only at hpayload ⊢
  split_ifs at hpayload ⊢ with hflag hempty hempty
  · simp
  · exact absurd rfl hempty
  · simp
  · exact absurd (List.isEmpty_iff.mpr hpayload) hempty

namespace Machine

variable {cfg : Config} {machine machine' : Machine} {label : Label}

theorem isOpen_step (hstep : machine.step cfg label = some machine')
    (hstays : label.closes = false) :
    machine'.layer.base.isOpen = (machine.layer.base.isOpen || label.opens) := by
  have hkept {base : CryptoLayer} (hbase : base.isOpen = machine.layer.base.isOpen) :
      base.isOpen = (machine.layer.base.isOpen || false) := by rw [hbase, Bool.or_false]
  cases steps_of_step hstep with
  | receive layer stack message => exact hkept rfl
  | lowerOpen layer ready env =>
      change (layer.onLowerOpen cfg env ready).base.isOpen = (layer.base.isOpen || true)
      rw [Bool.or_true]
      by_cases hopen : layer.base.isOpen = true
      · rw [Layer.onLowerOpen, if_pos hopen]
        exact hopen
      · exact (@Layer.onLowerOpen_proceeds cfg layer (by simpa using hopen) ready env).isOpen
  | lowerClose => cases hstays
  | lowerTxReady layer env =>
      by_cases hopen : layer.base.isOpen = true
      · exact hkept (Layer.onLowerTxReady_proceeds hopen env).isOpen
      · rw [Layer.onLowerTxReady, if_pos (by simpa [CryptoLayer.log] using hopen)]
        exact hkept rfl
  | lowerRxReady layer =>
      refine hkept ?_
      change layer.onLowerRxReady.1.base.isOpen = layer.base.isOpen
      unfold Layer.onLowerRxReady
      split_ifs <;> rfl
  | timer env => exact hkept ((Layer.handshakes_confined _).onTimer env _).isOpen
  | startRx layer hcall =>
      exact hkept layer.base.startRxFromUpper_frame.1
  | startTx layer data =>
      refine hkept ?_
      change (layer.base.startTxFromUpper data).1.isOpen = layer.base.isOpen
      unfold CryptoLayer.startTxFromUpper
      split_ifs <;> rfl
  | ret => exact hkept rfl
  | run _ _ hrun => exact hkept (Layer.runTask_own hrun).1

/-- If a step of an open layer makes reading possible, then the read loop is to come; and it is not
dropped as long as reading is possible. -/
theorem wake_step (hstep : machine.step cfg label = some machine') (hinput : label.isInput = false)
    (hstays : label.closes = false) (hasks : machine.asks label = false)
    (hopen : machine.layer.base.isOpen = true) (hread : machine'.layer.base.canRead) :
    .tryReadFromLower ∈ machine'.stack ∨ (machine.layer.base.canRead ∧
      (.tryReadFromLower ∈ machine.stack → .tryReadFromLower ∈ machine'.stack)) := by
  have hkept {base : CryptoLayer} (hkeeps : machine.layer.base.KeepsInput base)
      (hcan : base.canRead) : machine.layer.base.canRead :=
    ⟨hkeeps.ready hcan.1, hkeeps.payloadData ▸ hcan.2⟩
  cases steps_of_step hstep with
  | receive => cases hinput
  | lowerOpen layer ready env =>
      rw [Layer.onLowerOpen, if_pos hopen] at hread
      exact .inr ⟨hread, id⟩
  | lowerClose => cases hstays
  | lowerTxReady layer env =>
      rw [Layer.onLowerTxReady, if_neg (by simpa [CryptoLayer.log] using hopen)]
      dsimp only
      refine .inl ?_
      split_ifs <;> simp
  | lowerRxReady => cases hinput
  | timer env =>
    exact .inr ⟨hkept ((Layer.handshakes_confined _).onTimer env _).toKeepsInput hread, id⟩
  | startRx layer hcall =>
      exact .inl (List.mem_append_left _ (CryptoLayer.startRxFromUpper_wakes hread))
  | startTx layer data =>
      refine .inr ⟨?_, List.mem_append_right _⟩
      have hkeeps : layer.base.KeepsInput (layer.base.startTxFromUpper data).1 := by
        unfold CryptoLayer.startTxFromUpper
        split_ifs <;> exact ⟨rfl, rfl, rfl, id⟩
      exact hkept hkeeps hread
  | ret layer stack callback =>
      exact .inr ⟨hread, fun hmem => (List.mem_cons.mp hmem).resolve_left (by simp)⟩
  | @run layer task result stack env hrun =>
      have hbelow (hne : task ≠ .tryReadFromLower) (hmem : .tryReadFromLower ∈ task :: stack) :
          .tryReadFromLower ∈ result.2 ++ stack :=
        List.mem_append_right _ ((List.mem_cons.mp hmem).resolve_left (Ne.symm hne))
      cases Layer.ran_of_runTask hrun with
      | tryReadFromLower =>
          -- the loop is left because nothing can be read
          have hcannot : ¬ layer.base.canRead := by simpa [asks] using hasks
          rw [Layer.tryReadFromLower, if_pos (by
            simpa [CryptoLayer.canRead, or_iff_not_imp_left] using hcannot)] at hread
          exact absurd hread hcannot
      | checkTransmit =>
          exact .inr ⟨hkept (Layer.checkTransmit_keepsInput env) hread, hbelow (by simp)⟩
      | noPayload => exact .inr ⟨hread, hbelow (by simp)⟩
      | @authPayload payload hne =>
          -- the payload is in the way
          have hplaced := hread.2
          rw [(CryptoLayer.Confined.notifyRxReady (layer.base.placePayload payload)).payloadData]
            at hplaced
          exact absurd hplaced hne
      | enterIdle | afterClose => exact .inr ⟨hread, hbelow (by simp)⟩

/-- A layer that is notified enters the read loop. -/
theorem notified_step (hstep : machine.step cfg .lowerRxReady = some machine')
    (hopen : machine.layer.base.isOpen = true) : .tryReadFromLower ∈ machine'.stack := by
  cases steps_of_step hstep with
  | lowerRxReady layer =>
      rw [Layer.onLowerRxReady, if_pos hopen]
      exact List.mem_cons_self

/-- The read loop goes on behind a message. -/
theorem loop_step {env : Env} {message : Bytes} {messages : List Bytes}
    (hstep : machine.step cfg (.run env) = some machine') (hasks : machine.asks (.run env) = true)
    (hrx : machine.layer.base.lowerRx = message :: messages) (hmessage : message ≠ []) :
    .tryReadFromLower ∈ machine'.stack := by
  obtain ⟨hhead, hread⟩ : machine.stack.head? = some .tryReadFromLower ∧
      machine.layer.base.canRead := by simpa [asks] using hasks
  cases steps_of_step hstep with
  | @run layer task result stack env hrun =>
      obtain rfl : task = .tryReadFromLower := by simpa using hhead
      cases hrun
      have hcan : ¬ (!layer.base.lowerTxReady || !layer.base.payloadData.isEmpty) = true := by
        simp [show layer.base.lowerTxReady = true from hread.1,
          show layer.base.payloadData = [] from hread.2]
      simp only [Layer.tryReadFromLower, if_neg hcan, show layer.base.lowerRx = message :: messages
        from hrx, List.isEmpty_iff, if_neg hmessage]
      simp

end Machine

theorem AbstractStack.isOpen_step {cfg : Config} {stack stack' : AbstractStack} {label : Label}
    (hstep : stack.step cfg label = some stack') (hstays : label.closes = false)
    (hunclosed : .afterClose ∉ stack.machine.stack) :
    stack'.machine.layer.base.isOpen = (stack.machine.layer.base.isOpen || label.opens) := by
  have hopen := Machine.isOpen_step (step_flagged hstep hstays hunclosed).1 hstays
  exact hopen

/-! ## A stack that reads what is announced -/

namespace FullStack

/-- If everything that has arrived is announced and the crypto layer can read, then the link layer
has nothing left, or the read loop is still to come. -/
structure Heeds (announced : Bool) (full : FullStack) : Prop where
  isOpen : full.link.isOpen = full.stack.machine.layer.base.isOpen
  unopened : full.link.isOpen = false → full.link.Untouched
  heeds : announced = true → full.link.isOpen = true → full.stack.machine.layer.base.canRead →
    full.link.Drained ∨ .tryReadFromLower ∈ full.stack.machine.stack

theorem create_heeds (localAddr remoteAddr : UInt16) :
    Heeds true (create localAddr remoteAddr) where
  isOpen := rfl
  unopened _ := ⟨rfl, rfl, rfl, rfl⟩
  heeds := nofun

section Heeds

variable {cfg : Config} {announced : Bool} {full full' : FullStack} {label : Label}
  {localAddr : UInt16} {pending : List Frame} {future : Bytes}

/-- The crypto layer makes a step in which it does not ask. -/
theorem Heeds.passes (hheeds : Heeds announced full) {stack : AbstractStack}
    (hunclosed : .afterClose ∉ full.stack.machine.stack) (hinput : label.isInput = false)
    (hstays : label.closes = false) (hasks : full.stack.machine.asks label = false)
    (hstack : full.stack.step cfg label = some stack) :
    Heeds announced ⟨if label.opens then full.link.onLowerOpen else full.link, stack⟩ := by
  obtain ⟨hflagged, -⟩ := AbstractStack.step_flagged hstack hstays hunclosed
  have hopen := AbstractStack.isOpen_step hstack hstays hunclosed
  -- a stack that was open before still heeds what is announced
  have hstill (hannounced : announced = true) (hbefore : full.link.isOpen = true)
      (hread : stack.machine.layer.base.canRead) :
      full.link.Drained ∨ .tryReadFromLower ∈ stack.machine.stack := by
    have hmachine : full.stack.flagged.layer.base.isOpen = true := hheeds.isOpen.symm.trans hbefore
    rcases Machine.wake_step hflagged hinput hstays hasks hmachine hread with hloop | ⟨hcan, hkept⟩
    · exact .inr hloop
    · exact (hheeds.heeds hannounced hbefore hcan).imp_right hkept
  cases hopens : label.opens with
  | true =>
      rw [hopens, Bool.or_true] at hopen
      refine ⟨hopen.symm, nofun, fun hannounced _ hread => ?_⟩
      cases hbefore : full.link.isOpen with
      | true => exact (hstill hannounced hbefore hread).imp_left LinkLayer.Drained.onLowerOpen
      | false => exact .inl (hheeds.unopened hbefore).drained.onLowerOpen
  | false =>
      rw [hopens, Bool.or_false] at hopen
      exact ⟨hheeds.isOpen.trans hopen.symm, hheeds.unopened, hstill⟩

/-- The crypto layer asks, and goes on reading if there was something. -/
theorem Heeds.asks (hheeds : Heeds announced full)
    (hvalid : LinkLayer.Valid localAddr pending future full.link)
    (hall : ∀ frame ∈ pending, LinkLayer.deliverable localAddr frame = true)
    {stack : AbstractStack} (hunclosed : .afterClose ∉ full.stack.machine.stack) {env : Env}
    (hasks : full.stack.machine.asks (.run env) = true)
    (hstack : (full.stack.handed (full.link.step .startRx).2).step cfg (.run env) = some stack) :
    Heeds announced ⟨(full.link.step .startRx).1, stack⟩ := by
  obtain ⟨hflagged, -⟩ := AbstractStack.step_flagged hstack rfl hunclosed
  have hopen := (AbstractStack.isOpen_step hstack rfl hunclosed).trans (Bool.or_false _)
  have hsame := LinkLayer.startRx_isOpen full.link
  refine ⟨(hsame.trans hheeds.isOpen).trans hopen.symm, fun hclosed => ?_, fun _ _ _ => ?_⟩
  · rw [hsame] at hclosed
    rw [(hheeds.unopened hclosed).startRx]
    exact hheeds.unopened hclosed
  · by_cases hnone : (full.link.step .startRx).2 = []
    · rcases hvalid.startRx with ⟨frame, rest, -, hreceived, -⟩ |
        ⟨-, -, hdrained | ⟨frame, hmem, hother⟩⟩
      · rw [hreceived] at hnone
        cases hnone
      · exact .inl hdrained
      · cases (hall frame hmem).symm.trans hother
    · obtain ⟨message, hmessages, hmessage⟩ : ∃ message,
          (full.link.step .startRx).2 = [message] ∧ message ≠ [] := by
        simp only [LinkLayer.step] at hnone ⊢
        split_ifs at hnone ⊢ with hempty
        · exact absurd rfl hnone
        · exact ⟨_, rfl, hempty⟩
      rw [hmessages] at hflagged
      exact .inr (@Machine.loop_step cfg (full.stack.handed [message]).flagged
        stack.flagged env message
        [] hflagged hasks rfl hmessage)

theorem heeds_step (hheeds : Heeds announced full)
    (hvalid : LinkLayer.Valid localAddr pending future full.link)
    (hall : ∀ frame ∈ pending, LinkLayer.deliverable localAddr frame = true)
    (hempty : full.stack.machine.layer.base.lowerRx = [])
    (hunclosed : .afterClose ∉ full.stack.machine.stack) (hstays : label.closes = false)
    (harrives : label.arrival.isSome = true → full.link.isOpen = true)
    (hsteps : Steps cfg full label full') : Heeds (Machine.announce announced label) full' := by
  cases hsteps with
  | arrives chunk =>
      have hopen := harrives rfl
      have hsame : (full.link.step (.arrive chunk)).1.isOpen = full.link.isOpen := by
        simp only [LinkLayer.step]
        split_ifs <;> rfl
      refine ⟨hsame.trans hheeds.isOpen, fun hclosed => ?_, by rintro ⟨⟩⟩
      rw [hsame, hopen] at hclosed
      cases hclosed
  | notifies hnotified hstack =>
      have hopen : full.link.isOpen = true := by
        by_contra hclosed
        simp [LinkLayer.onLowerRxReady, hclosed] at hnotified
      have hsame := LinkLayer.rxReady_isOpen full.link
      obtain ⟨machine, hmachine, rfl⟩ := Option.map_eq_some_iff.mp hstack
      have hstill := Machine.isOpen_step hmachine rfl
      rw [show Label.lowerRxReady.opens = false from rfl, Bool.or_false] at hstill
      refine ⟨(hsame.trans hheeds.isOpen).trans hstill.symm, fun hclosed => ?_,
        fun _ _ _ => .inr ?_⟩
      · rw [hsame, hopen] at hclosed
        cases hclosed
      · exact Machine.notified_step hmachine (hheeds.isOpen.symm.trans hopen)
  | waits hnotified =>
      refine ⟨(LinkLayer.rxReady_isOpen _).trans hheeds.isOpen, fun hclosed => ?_,
        fun _ hopen _ => ?_⟩
      · rw [LinkLayer.rxReady_isOpen] at hclosed
        simpa [LinkLayer.step, LinkLayer.onLowerRxReady, hclosed] using hheeds.unopened hclosed
      · rw [LinkLayer.rxReady_isOpen] at hopen
        obtain ⟨stream, taken, hstanding, -⟩ := hvalid
        refine .inl (hstanding.rxReady_drained hopen ?_)
        simpa [LinkLayer.step, LinkLayer.onLowerRxReady, hopen] using hnotified
  | passes hinput hstack =>
      have hannounce : Machine.announce announced label = announced := by
        cases label with
        | receive chunk => cases hinput
        | lowerRxReady => cases hinput
        | _ => rfl
      rw [hannounce]
      cases hasks : full.stack.machine.asks label with
      | true =>
          cases label with
          | run env =>
              simp only [below, hasks, if_true] at hstack ⊢
              exact hheeds.asks hvalid hall hunclosed hasks hstack
          | _ => cases hasks
      | false =>
          have hbelow : full.below label =
              (if label.opens then full.link.onLowerOpen else full.link, []) := by
            cases label with
            | lowerOpen ready env => rfl
            | lowerClose ready => cases hstays
            | _ => simp [below, hasks, Label.opens]
          rw [hbelow, handed_nil hempty] at hstack
          rw [hbelow]
          exact hheeds.passes hunclosed hinput hstays hasks hstack

end Heeds

end FullStack

/-! ## Two stacks at rest -/

namespace Line

/-- Bytes arrive only at a stack that is open. -/
def ArrivesOpen (line : Line) (label : Party × Label) : Prop :=
  label.2.arrival.isSome = true → (line.side label.1).link.isOpen = true

/-- A station that could go on, and has nothing to do. -/
structure Rests (line : Line) (party : Party) : Prop where
  stack : (line.side party).stack.machine.stack = []
  isOpen : (line.side party).stack.machine.layer.base.isOpen = true
  ready : (line.side party).stack.machine.layer.base.lowerTxReady = true
  payload : (line.side party).stack.machine.layer.base.payloadData = []
  wire : line.wire party = []

section Rest

variable {pairing : Pairing} {addr : Party → UInt16} {line line' : Line} {duplex : Duplex}
  {party : Party} {label : Label} {labels : List (Party × Label)}

/-- The frames to a station are for this station. -/
theorem Carried.deliverable {side : FullStack} {wire : Bytes} {machine : Machine}
    {channel : List Bytes} (h : Carried pairing addr party side wire machine channel) :
    ∀ frame ∈ channel.map (frameTo addr party),
      LinkLayer.deliverable (addr party) frame = true := by
  intro frame hmem
  obtain ⟨message, hmessage, rfl⟩ := List.mem_map.mp hmem
  have hmessage := h.messages message hmessage
  simp [LinkLayer.deliverable, frameTo, hmessage]

/-- What a station announces in its own calls. -/
theorem heeds_calls (hlinked : Linked pairing addr) (hcarries : Carries pairing addr line duplex)
    {announced : Bool} (hheeds : (line.side party).Heeds announced) {calls : List Label}
    (hrun : line.run pairing (calls.map (Prod.mk party)) = some line')
    (hundisturbed : Runs.Along (step pairing) (Undisturbed pairing) line
      (calls.map (Prod.mk party)))
    (horderly : Runs.Along (step pairing) (Orderly pairing) line (calls.map (Prod.mk party)))
    (harrives : Runs.Along (step pairing) ArrivesOpen line (calls.map (Prod.mk party))) :
    (line'.side party).Heeds (calls.foldl Machine.announce announced) := by
  induction calls generalizing line duplex announced with
  | nil =>
      cases hrun
      exact hheeds
  | cons label calls ih =>
      obtain ⟨next, hstep, hrest⟩ := Runs.run_cons hrun
      obtain ⟨_, -, -, hnext⟩ := carries_step hlinked hcarries hundisturbed.1 horderly.1 hstep
      have hcarried := hcarries party
      have hheard := FullStack.heeds_step hheeds hcarried.frames
        hcarried.deliverable hcarried.empty hcarried.unclosed hundisturbed.1.stays harrives.1
        (FullStack.steps_of_step (side_step hstep).1)
      exact ih hnext hheard hrest (hundisturbed.2 next hstep) (horderly.2 next hstep)
        (harrives.2 next hstep)

/-- A station at rest has handed all frames to its crypto layer. -/
theorem Rests.carried (hrests : line.Rests party) (hcarries : Carries pairing addr line duplex)
    (hheeds : (line.side party).Heeds true) : duplex.Rests party := by
  have hcarried := hcarries party
  have hopen : (line.side party).link.isOpen = true := hheeds.isOpen.trans hrests.isOpen
  have hdrained : (line.side party).link.Drained := by
    refine (hheeds.heeds rfl hopen ⟨hrests.ready, hrests.payload⟩).resolve_right ?_
    rw [hrests.stack]
    exact List.not_mem_nil
  have hframes := hcarried.frames
  rw [hrests.wire] at hframes
  have hnone := hdrained.pending_eq_nil hframes
  obtain ⟨hstack, hisOpen, hready, hpayload, -⟩ := hrests
  refine ⟨?_, ?_, ?_, ?_, List.map_eq_nil_iff.mp hnone⟩
  all_goals rw [hcarried.machine]
  · exact hstack
  · exact hisOpen
  · exact hready
  · exact hpayload

/-- Stations at rest have read everything that was submitted. -/
theorem Carries.reads_at_rest {store : UInt64 → Option Bytes} {messages : List (Party × Label)}
    (hcarries : Carries pairing addr line duplex) (hjoined : Duplex.Joined pairing store duplex)
    (hmessages : Duplex.create.run pairing messages = some duplex)
    (hheeds : ∀ party, (line.side party).Heeds true) (hrests : ∀ party, line.Rests party)
    (party : Party) :
    (reads (line.trace party)).flatten = (submitted (line.trace party.peer)).flatten := by
  have hrest (party : Party) : duplex.Rests party := (hrests party).carried hcarries (hheeds party)
  have hempty : (duplex.machine party).layer.base.lowerRx = [] := by
    rw [(hcarries party).machine]
    exact (hcarries party).empty
  obtain ⟨own, hpeer⟩ : ∃ own, Machine.create.run (pairing.config party.peer) own =
      some (duplex.machine party.peer) := by
    have hmachine := Duplex.run_machine hmessages party.peer
    cases party <;> exact hmachine
  have hall : (reads (duplex.trace party)).flatten =
      (submitted (duplex.trace party.peer)).flatten :=
    calc (reads (duplex.trace party)).flatten
        = (duplex.machine party).endpoint.received := (hrest party).given hjoined
      _ = carried (duplex.machine party.peer).endpoint.sent :=
          (hrest party).received hjoined hempty
      _ = (submitted (duplex.trace party.peer)).flatten := (hrest party.peer).sent hjoined hpeer
  rw [Duplex.trace, Duplex.trace, (hcarries party).machine, (hcarries party.peer).machine] at hall
  exact hall

theorem create_heeds (addr : Party → UInt16) (party : Party) :
    ((create addr).side party).Heeds true := by
  cases party <;> exact FullStack.create_heeds _ _

end Rest

end Line

end Ssp21
