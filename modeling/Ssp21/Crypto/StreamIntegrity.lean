import Ssp21.Crypto.Renegotiation

/-!
# Streams across renegotiations

The payloads that one upper layer reads, put together, are a front part of what the other upper
layer has submitted.  Three accounts make up the way of a byte:

* `Remains`: what a layer has sent and what it has still to send is what was submitted to it.
* `Joint`, of the previous module: what the peer has received and what is on the way is what was
  sent.
* `Endpoint.Ledger`: what the upper layer has read and what waits for it is what was received.
-/

namespace Ssp21

open Wire

/-! ## From the upper layer to the lower layer -/

/-- What has been sent and what remains is what was submitted, and while something remains the upper
layer is open. -/
structure Remains (s : Snapshot) : Prop where
  balance : (chunks s.base.trace).flatten ++ s.base.txState.remainder =
    (submitted s.base.trace).flatten
  opened : s.base.txState.remainder ≠ [] → s.base.upperOpen = true

/-- The history grows by observations that have nothing to do with user data. -/
theorem Remains.extend {s s' : Snapshot} (hremains : Remains s) (new : List Observation)
    (hchunks : chunks new = []) (hsubmitted : submitted new = [])
    (htrace : s'.base.trace = s.base.trace ++ new)
    (htx : s'.base.txState.remainder = s.base.txState.remainder)
    (hopen : s.base.upperOpen = true → s'.base.upperOpen = true) : Remains s' where
  balance := by
    rw [htrace, chunks_append, submitted_append, hchunks, hsubmitted, htx, List.append_nil,
      List.append_nil]
    exact hremains.balance
  opened hne := by
    rw [htx] at hne
    exact hopen (hremains.opened hne)

/-- The upper layer stays open while no closing is observed. -/
theorem upperOpen_of_flips {before after : CryptoLayer} {history : List Observation}
    (hclosed : .closed ∉ history ++ flips before after) (hopen : before.upperOpen = true) :
    after.upperOpen = true := by
  cases hafter : after.upperOpen with
  | true => rfl
  | false => simp [flips, hopen, hafter] at hclosed

theorem remains_move {s s' : Snapshot} (hmove : TxMove s s')
    (hclosing : .afterClose ∈ s.stack → Closing s) (hclosed : .closed ∉ s'.base.trace)
    (hremains : Remains s) : Remains s' := by
  cases hmove with
  | quiet new hquiet htrace htx hopen hready hstack =>
      have haside := aside_append_flips hquiet s.base s'.base
      rw [htrace] at hclosed
      exact hremains.extend _ (chunks_aside haside) (submitted_aside haside)
        (htrace.trans (List.append_assoc ..)) (by rw [htx]) (upperOpen_of_flips hclosed)
  | piece new hquiet transmission rest htrace hsplit hbound hprogress htx =>
      have hbefore := aside_of_quiet hquiet
      have hafter := aside_flips s.base s'.base
      have hrest : s'.base.txState.remainder = rest := by
        rw [htx, TxState.beginTransmit_remainder hsplit]
      constructor
      · have hbalance := hremains.balance
        rw [hsplit] at hbalance
        rw [htrace, chunks_append, chunks_append, chunks_append, submitted_append, submitted_append,
          submitted_append, chunks_aside hbefore, chunks_aside hafter, submitted_aside hbefore,
          submitted_aside hafter, hrest]
        have hsubmitted : submitted [.transmit transmission] = [] := rfl
        simpa [hsubmitted, chunks_transmit] using hbalance
      · intro hne
        rw [hrest] at hne
        rw [htrace] at hclosed
        refine upperOpen_of_flips hclosed (hremains.opened ?_)
        rw [hsplit]
        exact fun hnil => hne (List.append_eq_nil_iff.mp hnil).2
  | complete new hquiet htrace htx hupper =>
      have haside := aside_of_quiet hquiet
      refine hremains.extend _ ?_ ?_ (htrace.trans (List.append_assoc ..))
        (by rw [htx, TxState.onTxComplete_remainder]) (by rw [hupper]; exact id)
      · rw [chunks_append, ← List.singleton_append, chunks_append, chunks_aside haside]
        split_ifs <;> rfl
      · rw [submitted_append, ← List.singleton_append, submitted_append, submitted_aside haside]
        split_ifs <;> rfl
  | completeClosed htrace htx hupper =>
      exact hremains.extend [.completed] rfl rfl htrace (by rw [htx])
        (by rw [hupper]; exact id)
  | submit data hready htrace htx hupper =>
      -- data is taken only when nothing remains of what was taken before
      simp only [CryptoLayer.isTxReady, Bool.and_eq_true] at hready
      have hbalance := hremains.balance
      rw [TxState.isIdle_eq hready.2, TxState.idle, List.append_nil] at hbalance
      constructor
      · have hchunks : chunks [.submit data] = [] := rfl
        have hsubmitted : submitted [.submit data] = [data] := rfl
        rw [htrace, htx, chunks_append, submitted_append, hchunks, hsubmitted, List.append_nil,
          List.flatten_append, hbalance, List.flatten_singleton]
        rfl
      · intro _
        rw [hupper]
        exact hready.1.2
  | lowerOpen htrace htx hupper =>
      exact hremains.extend [] rfl rfl (by rw [htrace, List.append_nil]) (by rw [htx])
        (by rw [hupper]; exact id)
  | lowerClose htrace htx hupper =>
      have haside := aside_flips s.base s'.base
      rw [htrace] at hclosed
      exact hremains.extend _ (chunks_aside haside) (submitted_aside haside) htrace (by rw [htx])
        (upperOpen_of_flips hclosed)
  | afterClose htrace htx hupper hopen hstack =>
      -- the upper layer is closed already, so that nothing remains
      have hnone : s.base.txState.remainder = [] := by
        by_contra hne
        have hopened := hremains.opened hne
        rw [(hclosing hstack).upper] at hopened
        cases hopened
      exact hremains.extend [] rfl rfl (by rw [htrace, List.append_nil])
        (by rw [htx, hnone]; rfl) (by rw [hupper]; exact id)

/-! ## From a received message to the upper layer -/

/-- What has been read and what waits is what was received. -/
structure Endpoint.Ledger (e : Endpoint) : Prop where
  balance : e.given ++ (if e.lent then [] else e.payload) ++ e.owed = e.received
  lent : e.lent = true → e.payload ≠ []
  placed : e.owed ≠ [] → e.payload = []

namespace Endpoint.Ledger

variable {cfg : Config} {store : UInt64 → Option Bytes} {e e' : Endpoint}
  {new : List Transmission}

theorem not_lent (hledger : e.Ledger) (hempty : e.payload = []) : e.lent = false := by
  cases hlent : e.lent with
  | false => rfl
  | true => exact absurd hempty (hledger.lent hlent)

/-- With nothing waiting, all that was received has been read. -/
theorem settled (hledger : e.Ledger) (hempty : e.payload = []) (howed : e.owed = []) :
    e.given = e.received := by
  have hbalance := hledger.balance
  rw [hledger.not_lent hempty, hempty, howed] at hbalance
  simpa using hbalance

theorem act (hledger : e.Ledger) (hact : Act cfg store e new e') : e'.Ledger := by
  have ⟨hbalance, hlent, hplaced⟩ := hledger
  cases hact with
  -- a message is read only when nothing waits for the upper layer
  | activate hrole hrx hstate hread hnonce haccepts hempty howed =>
      have hnot := hledger.not_lent hempty
      refine ⟨?_, hlent, fun _ => hempty⟩
      simp [hnot, hempty, hledger.settled hempty howed]
  | answer hrole hrx hread hnonce haccepts hempty howed =>
      have hnot := hledger.not_lent hempty
      refine ⟨?_, hlent, fun _ => hempty⟩
      simp [hnot, hempty, hledger.settled hempty howed]
  | accept hrx hread hnonce haccepts hempty howed =>
      have hnot := hledger.not_lent hempty
      refine ⟨?_, ?_, fun hne => absurd howed hne⟩
      · simp [hnot, howed, hledger.settled hempty howed]
      · simp [hnot]
  | place howed =>
      have hnot := hledger.not_lent (hplaced howed)
      refine ⟨?_, ?_, fun hne => absurd rfl hne⟩
      · rw [hnot, hplaced howed] at hbalance
        simpa [hnot] using hbalance
      · simp [hnot]
  | read hfirst hpayload =>
      refine ⟨?_, fun _ => hpayload, hplaced⟩
      rw [hfirst] at hbalance
      simpa using hbalance
  | discard hlast =>
      refine ⟨?_, by simp, fun _ => rfl⟩
      rw [hlast] at hbalance
      simpa using hbalance
  | _ => exact ⟨hbalance, hlent, hplaced⟩

theorem acts (hledger : e.Ledger) (hacts : Acts cfg store e new e') : e'.Ledger := by
  induction hacts with
  | refl => exact hledger
  | tail _ hlast ih => exact ih.act hlast

theorem given_front (hledger : e.Ledger) : e.given <+: e.received := by
  rw [← hledger.balance, List.append_assoc]
  exact List.prefix_append _ _

end Endpoint.Ledger

/-! ## One party -/

/-- What the moves of a party keep, if every auth message can be answered. -/
structure Snapshot.Kept (cfg : Config) (s : Snapshot) : Prop where
  closing : .afterClose ∈ s.stack → Closing s
  coupled : Coupled cfg s
  remains : .closed ∉ s.base.trace → Remains s

theorem Snapshot.kept_move {cfg : Config} {mayFail : Fault → Prop} {s s' : Snapshot}
    (hmove : Move cfg mayFail s s') (hanswer : ¬ mayFail .answer) (hkept : Snapshot.Kept cfg s) :
    Snapshot.Kept cfg s' where
  closing := closing_move hmove hkept.closing
  coupled := coupled_move hmove hanswer hkept.coupled
  remains hclosed := by
    obtain ⟨new, hnew⟩ := hmove.trace_extends
    refine remains_move hmove.tx hkept.closing hclosed (hkept.remains fun hmem => hclosed ?_)
    rw [hnew]
    exact List.mem_append_left _ hmem

namespace Machine

/-- What a party keeps to between the steps. -/
structure Steady (cfg : Config) (machine : Machine) : Prop where
  sound : Sound cfg machine.layer
  kept : Snapshot.Kept cfg machine.snapshot
  unclosed : .afterClose ∉ machine.stack
  punctual : Punctual machine.layer.base machine.stack

section Steady

variable {cfg : Config} {store : UInt64 → Option Bytes} {machine machine' : Machine} {label : Label}

theorem create_steady (cfg : Config) : Steady cfg create where
  sound := create_sound cfg
  kept := ⟨by rintro ⟨⟩, ⟨rfl, by rintro _ ⟨⟩⟩, fun _ => ⟨rfl, fun hne => absurd rfl hne⟩⟩
  unclosed := by rintro ⟨⟩
  punctual := .of_none rfl

theorem Steady.fit (hsteady : Steady cfg machine) (hclosed : .closed ∉ machine.layer.base.trace) :
    machine.Fit cfg :=
  ⟨hsteady.kept.coupled, (hsteady.kept.remains hclosed).opened, hsteady.unclosed,
    hsteady.punctual⟩

theorem Steady.extends (hsteady : Steady cfg machine)
    (hstep : machine.step cfg label = some machine') :
    ∃ new, machine'.layer.base.trace = machine.layer.base.trace ++ new := by
  obtain ⟨hmoves, -⟩ := step_moves hsteady.sound hstep
  exact moves_trace_extends hmoves

theorem Steady.step (hsteady : Steady cfg machine) (hconforms : machine.Conforms cfg store label)
    (hexpects : machine.endpoint.Expects cfg) (hstep : machine.step cfg label = some machine') :
    Steady cfg machine' := by
  obtain ⟨hmoves, hsound⟩ := step_moves hsteady.sound hstep
  have hkept : Snapshot.Kept cfg machine'.snapshot :=
    moves_invariant (fun _ _ hmove => Snapshot.kept_move hmove
      (hconforms.answers.answerFits.not_fails hsteady.kept.coupled)) hmoves hsteady.kept
  obtain ⟨hunclosed, hpunctual⟩ := prompt_step hstep hconforms.stays hsteady.kept.coupled.coupled
    hexpects hsteady.unclosed hsteady.punctual
  exact ⟨hsound, hkept, hunclosed, hpunctual⟩

/-- The arrival of a message. -/
theorem endpoint_receive {message : Bytes}
    (hstep : machine.step cfg (.receive message) = some machine') :
    machine'.endpoint = { machine.endpoint with rx := machine.endpoint.rx ++ [message] } := by
  cases steps_of_step hstep with
  | receive => rfl

end Steady

end Machine

/-! ## Two parties -/

section Joint

variable {pairing : Pairing} {store : UInt64 → Option Bytes}
  {initiator responder initiator' responder' : Endpoint} {out back new : List Transmission}
  {channel : List Bytes}

theorem Joint.responder_acts (hcompatible : pairing.Compatible)
    (hjoint : Joint pairing store initiator responder out back)
    (hacts : Endpoint.Acts (pairing.config .responder) store responder new responder')
    (hout : out.map Transmission.written = responder.rx ++ channel) :
    ∃ out', out'.map Transmission.written = responder'.rx ++ channel ∧
      Joint pairing store initiator responder' out' (back ++ new) := by
  -- the channel behind the messages that have arrived stays as it is
  induction hacts with
  | refl =>
      rw [List.append_nil]
      exact ⟨out, hout, hjoint⟩
  | tail _ hlast ih =>
      obtain ⟨out', hout', hjoint'⟩ := ih
      rw [← List.append_assoc]
      exact hjoint'.responder_act hcompatible hlast hout'

theorem Joint.initiator_acts (hcompatible : pairing.Compatible)
    (hjoint : Joint pairing store initiator responder out back)
    (hacts : Endpoint.Acts (pairing.config .initiator) store initiator new initiator')
    (hback : back.map Transmission.written = initiator.rx ++ channel) :
    ∃ back', back'.map Transmission.written = initiator'.rx ++ channel ∧
      Joint pairing store initiator' responder (out ++ new) back' := by
  induction hacts with
  | refl =>
      rw [List.append_nil]
      exact ⟨back, hback, hjoint⟩
  | tail _ hlast ih =>
      obtain ⟨back', hback', hjoint'⟩ := ih
      rw [← List.append_assoc]
      exact hjoint'.initiator_act hcompatible hlast hback'

/-- The answer to an auth message carries data only if the initiator has an active session. -/
theorem Joint.initiator_expects (hcompatible : pairing.Compatible)
    (hjoint : Joint pairing store initiator responder out back)
    (hback : back.map Transmission.written = initiator.rx ++ channel) :
    initiator.Expects (pairing.config .initiator) := by
  intro message rest msg payload hrx hread hnonce hstate hpayload hne
  obtain ⟨transmission, back, rfl, rfl, -⟩ := first_of_rx hback hrx
  cases hjoint.phase.initiator_reads hcompatible with
  | data msg' hread' hnonce' =>
      cases hread.symm.trans hread'
      exact absurd hnonce hnonce'
  | reply hforeign => exact absurd hread (hforeign msg)
  | answer msg' hread' _ _ hadmits hdata =>
      cases hread.symm.trans hread'
      have heq : payload = transmission.userData :=
        Except.ok.inj (hpayload.symm.trans hadmits.opens.authentic)
      rw [heq] at hne
      exact hdata hne

theorem Joint.responder_expects (hjoint : Joint pairing store initiator responder out back) :
    responder.Expects (pairing.config .responder) := by
  intro message rest msg payload _ _ _ hstate
  rw [hjoint.idle] at hstate
  cases hstate

end Joint

namespace Duplex

/-- A step is the arrival of the next message of a channel, or a step of a party by itself. -/
theorem step_cases {pairing : Pairing} {duplex duplex' : Duplex} {party : Party} {label : Label}
    (hstep : duplex.step pairing (party, label) = some duplex') :
    (∃ message rest machine, label = .receive message ∧ duplex.channel party = message :: rest ∧
      (duplex.machine party).step (pairing.config party) label = some machine ∧
      duplex' = (duplex.setMachine party machine).setChannel party rest) ∨
    ((∀ message, label ≠ .receive message) ∧ ∃ machine,
      (duplex.machine party).step (pairing.config party) label = some machine ∧
      duplex' = (duplex.setMachine party machine).setChannel party.peer
        (duplex.channel party.peer ++ sentSince (duplex.machine party) machine)) := by
  cases label with
  | receive message =>
      simp only [step] at hstep
      cases hchannel : duplex.channel party with
      | nil =>
          rw [hchannel] at hstep
          cases hstep
      | cons next rest =>
          rw [hchannel] at hstep
          obtain ⟨rfl, hstep⟩ := Option.ite_none_right_eq_some.mp hstep
          obtain ⟨machine, hmachine, rfl⟩ := Option.map_eq_some_iff.mp hstep
          exact .inl ⟨next, rest, machine, rfl, rfl, hmachine, rfl⟩
  | _ =>
      obtain ⟨machine, hmachine, rfl⟩ := Option.map_eq_some_iff.mp hstep
      exact .inr ⟨by rintro _ ⟨⟩, machine, hmachine, rfl⟩

/-- Two parties in a run, each by itself and with what is between them. -/
structure Joined (pairing : Pairing) (store : UInt64 → Option Bytes) (duplex : Duplex) : Prop where
  upper : ∀ party, .closed ∉ duplex.trace party
  steady : ∀ party, (duplex.machine party).Steady (pairing.config party)
  ledger : ∀ party, (duplex.machine party).endpoint.Ledger
  joint : ∃ out back,
    out.map Transmission.written = duplex.responder.endpoint.rx ++ duplex.toResponder ∧
    back.map Transmission.written = duplex.initiator.endpoint.rx ++ duplex.toInitiator ∧
    Joint pairing store duplex.initiator.endpoint duplex.responder.endpoint out back

section Joined

variable {pairing : Pairing} {store : UInt64 → Option Bytes} {duplex duplex' : Duplex}

theorem joined_create : Joined pairing store create where
  upper party := by
    cases party <;> simp [trace, machine, create, Machine.create, Layer.create, CryptoLayer.create]
  steady party := by
    cases party <;> exact Machine.create_steady _
  ledger party := by
    cases party <;> exact ⟨rfl, by rintro ⟨⟩, fun hne => absurd rfl hne⟩
  joint := ⟨[], [], rfl, rfl, .settled (.inr ⟨rfl, rfl, rfl⟩) (.inr ⟨rfl, rfl, rfl⟩)
    (.resting (.inl rfl)), rfl, rfl, rfl, rfl⟩

theorem Joined.expects (hcompatible : pairing.Compatible) (hjoined : Joined pairing store duplex)
    (party : Party) : (duplex.machine party).endpoint.Expects (pairing.config party) := by
  obtain ⟨out, back, -, hback, hjoint⟩ := hjoined.joint
  cases party with
  | initiator => exact hjoint.initiator_expects hcompatible hback
  | responder => exact hjoint.responder_expects

/-- What goes into a channel is what the acts of the step have sent. -/
theorem sentSince_eq {cfg : Config} {machine machine' : Machine} {new : List Transmission}
    (hextends : ∃ more, machine'.layer.base.trace = machine.layer.base.trace ++ more)
    (hacts : Endpoint.Acts cfg store machine.endpoint new machine'.endpoint) :
    sentSince machine machine' = new.map Transmission.written := by
  obtain ⟨more, hmore⟩ := hextends
  have hsent : transmissions machine'.layer.base.trace =
      transmissions machine.layer.base.trace ++ new := hacts.sent_eq
  rw [hmore, transmissions, List.filterMap_append] at hsent
  rw [sentSince, hmore, List.drop_left, transmissions, List.append_cancel_left hsent]

/-- The other party is as before. -/
theorem forall_machine_set {P : Party → Machine → Prop}
    (hbefore : ∀ party, P party (duplex.machine party))
    {party : Party} {machine : Machine} (hmachine : P party machine) (target : Party)
    (messages : List Bytes) (other : Party) :
    P other (((duplex.setMachine party machine).setChannel target messages).machine other) := by
  have hother := hbefore other
  cases party <;> cases target <;> cases other <;> first | exact hmachine | exact hother

theorem Joined.receive (hjoined : Joined pairing store duplex) {party : Party} {message : Bytes}
    {rest : List Bytes} {machine : Machine} (hchannel : duplex.channel party = message :: rest)
    (hstep : (duplex.machine party).step (pairing.config party) (.receive message) = some machine)
    (hupper : .closed ∉ machine.layer.base.trace)
    (hsteady : machine.Steady (pairing.config party)) :
    Joined pairing store ((duplex.setMachine party machine).setChannel party rest) := by
  have hendpoint := Machine.endpoint_receive hstep
  obtain ⟨hbalance, hlent, hplaced⟩ := hjoined.ledger party
  have hledger : machine.endpoint.Ledger := by
    rw [hendpoint]
    exact ⟨hbalance, hlent, hplaced⟩
  refine ⟨forall_machine_set (P := fun _ machine => .closed ∉ machine.layer.base.trace)
      hjoined.upper hupper party rest,
    forall_machine_set hjoined.steady hsteady party rest,
    forall_machine_set (P := fun _ machine => machine.endpoint.Ledger) hjoined.ledger hledger party
      rest, ?_⟩
  -- the message is still on the way until it is read, now in front of the layer
  obtain ⟨out, back, hout, hback, hphase, hidle, hentering, hforward, hbackward⟩ := hjoined.joint
  refine ⟨out, back, ?_⟩
  cases party with
  | initiator =>
      refine ⟨hout, ?_, ?_⟩
      · change back.map _ = machine.endpoint.rx ++ rest
        rw [hback, hendpoint, show duplex.toInitiator = message :: rest from hchannel]
        exact List.append_cons ..
      · change Joint pairing store machine.endpoint _ _ _
        rw [hendpoint]
        exact ⟨hphase, hidle, hentering, hforward, hbackward⟩
  | responder =>
      refine ⟨?_, hback, ?_⟩
      · change out.map _ = machine.endpoint.rx ++ rest
        rw [hout, hendpoint, show duplex.toResponder = message :: rest from hchannel]
        exact List.append_cons ..
      · change Joint pairing store _ machine.endpoint _ _
        rw [hendpoint]
        exact ⟨hphase, hidle, hentering, hforward, hbackward⟩

theorem Joined.acts (hcompatible : pairing.Compatible) (hjoined : Joined pairing store duplex)
    {party : Party} {machine : Machine} {new : List Transmission}
    (hacts : Endpoint.Acts (pairing.config party) store (duplex.machine party).endpoint new
      machine.endpoint)
    (hupper : .closed ∉ machine.layer.base.trace)
    (hsteady : machine.Steady (pairing.config party)) :
    Joined pairing store ((duplex.setMachine party machine).setChannel party.peer
      (duplex.channel party.peer ++ new.map Transmission.written)) := by
  refine ⟨forall_machine_set (P := fun _ machine => .closed ∉ machine.layer.base.trace)
      hjoined.upper hupper _ _,
    forall_machine_set hjoined.steady hsteady _ _,
    forall_machine_set (P := fun _ machine => machine.endpoint.Ledger) hjoined.ledger
      ((hjoined.ledger party).acts hacts) _ _, ?_⟩
  obtain ⟨out, back, hout, hback, hjoint⟩ := hjoined.joint
  cases party with
  | initiator =>
      obtain ⟨back', hback', hjoint'⟩ := hjoint.initiator_acts hcompatible hacts hback
      refine ⟨out ++ new, back', ?_, hback', hjoint'⟩
      rw [List.map_append, hout, List.append_assoc]
      rfl
  | responder =>
      obtain ⟨out', hout', hjoint'⟩ := hjoint.responder_acts hcompatible hacts hout
      refine ⟨out', back ++ new, hout', ?_, hjoint'⟩
      rw [List.map_append, hback, List.append_assoc]
      rfl

/-- **A step keeps two parties joined.** -/
theorem Joined.step (hcompatible : pairing.Compatible) (hjoined : Joined pairing store duplex)
    {label : Party × Label} (hundisturbed : duplex.Undisturbed pairing label)
    (horderly : duplex.Orderly pairing label) (hkeys : ∀ env ∈ label.2.env?, env.KeysFrom store)
    (hstep : duplex.step pairing label = some duplex') : Joined pairing store duplex' := by
  obtain ⟨party, label⟩ := label
  have hconforms : (duplex.machine party).Conforms (pairing.config party) store label :=
    ⟨hundisturbed.stays, hkeys, hundisturbed.inTime, horderly.withholds, horderly.patient,
      horderly.answers⟩
  have hopen : .closed ∉ duplex'.trace party := hundisturbed.upper duplex' hstep
  have hexpects := hjoined.expects hcompatible party
  rcases step_cases hstep with ⟨message, rest, machine, rfl, hchannel, hmachine, rfl⟩ |
    ⟨harrives, machine, hmachine, rfl⟩
  · have hupper : .closed ∉ machine.layer.base.trace := by
      cases party <;> exact hopen
    exact hjoined.receive hchannel hmachine hupper
      ((hjoined.steady party).step hconforms hexpects hmachine)
  · have hupper : .closed ∉ machine.layer.base.trace := by
      cases party <;> exact hopen
    obtain ⟨new, hacts⟩ := Machine.step_acts hmachine harrives hconforms hupper
      ((hjoined.steady party).fit (hjoined.upper party))
    rw [sentSince_eq ((hjoined.steady party).extends hmachine) hacts]
    exact hjoined.acts hcompatible hacts hupper
      ((hjoined.steady party).step hconforms hexpects hmachine)

/-- A run in which every step meets the conditions. -/
theorem joined_run (hcompatible : pairing.Compatible) {labels : List (Party × Label)}
    (hkeys : ∀ label ∈ labels, ∀ env ∈ label.2.env?, env.KeysFrom store)
    (hrun : create.run pairing labels = some duplex)
    (hundisturbed : Runs.Along (step pairing) (Undisturbed pairing) create labels)
    (horderly : Runs.Along (step pairing) (Orderly pairing) create labels) :
    Joined pairing store duplex := by
  have hkeysAlong : Runs.Along (step pairing)
      (fun _ label => ∀ env ∈ label.2.env?, env.KeysFrom store) create labels :=
    Runs.along_of_mem hkeys create
  refine Runs.run_invariant (Joined pairing store) ?_ hrun
    ((hundisturbed.and horderly).and hkeysAlong) joined_create
  rintro before label after hjoined ⟨⟨hundisturbed, horderly⟩, hkeys⟩ hstep
  exact hjoined.step hcompatible hundisturbed horderly hkeys hstep

end Joined

/-! ## Both ends of a stream -/

/-- The user data in the frames of a history. -/
theorem carried_transmissions (history : List Observation) :
    carried (transmissions history) = (chunks history).flatten := by
  induction history with
  | nil => rfl
  | cons o history ih =>
      rw [← List.singleton_append, chunks_append, List.flatten_append, ← ih, transmissions,
        List.filterMap_append, carried_append]
      congr 1
      cases o with
      | transmit transmission =>
          rw [chunks_transmit]
          exact List.append_nil _
      | _ => rfl

/-- What a party has received, its peer has sent. -/
theorem Joined.received_front {pairing : Pairing} {store : UInt64 → Option Bytes} {duplex : Duplex}
    (hjoined : Joined pairing store duplex) (party : Party) :
    (duplex.machine party).endpoint.received <+:
      carried (duplex.machine party.peer).endpoint.sent := by
  obtain ⟨out, back, -, -, hjoint⟩ := hjoined.joint
  cases party with
  | initiator => exact ⟨_, hjoint.backward⟩
  | responder => exact ⟨_, hjoint.forward⟩

/-- What a party has sent was submitted to it. -/
theorem Joined.sent_front {pairing : Pairing} {store : UInt64 → Option Bytes} {duplex : Duplex}
    (hjoined : Joined pairing store duplex) (party : Party) :
    carried (duplex.machine party).endpoint.sent <+: (submitted (duplex.trace party)).flatten := by
  have hremains := (hjoined.steady party).kept.remains (hjoined.upper party)
  refine ⟨(duplex.machine party).layer.base.txState.remainder, ?_⟩
  rw [show (duplex.machine party).endpoint.sent = transmissions (duplex.trace party) from rfl,
    carried_transmissions]
  exact hremains.balance

/-- **Stream integrity.**  An initiator and a responder that are configured for each other are
joined by two reliable channels.  In every run in which the lower layers stay open, messages are in
time and no upper layer is closed, and in which no renegotiation is disturbed (`Orderly`), what the
upper layer of either party reads is a front part of what was submitted on the other side. -/
theorem stream_integrity (pairing : Pairing) (hcompatible : pairing.Compatible)
    (store : UInt64 → Option Bytes) (labels : List (Party × Label))
    (hkeys : ∀ label ∈ labels, ∀ env ∈ label.2.env?, env.KeysFrom store) (duplex : Duplex)
    (hrun : create.run pairing labels = some duplex)
    (hundisturbed : Runs.Along (step pairing) (Undisturbed pairing) create labels)
    (horderly : Runs.Along (step pairing) (Orderly pairing) create labels) (party : Party) :
    (reads (duplex.trace party)).flatten <+: (submitted (duplex.trace party.peer)).flatten := by
  have hjoined := joined_run hcompatible hkeys hrun hundisturbed horderly
  have hread : (reads (duplex.trace party)).flatten <+: (duplex.machine party).endpoint.received :=
    (hjoined.ledger party).given_front
  exact (hread.trans (hjoined.received_front party)).trans (hjoined.sent_front party.peer)

/-! ## A run with a renegotiation -/

namespace Renegotiated

open Ssp21.Sample (suite key env)

/-- The parties of the sample handshake, with a renegotiation after the second message. -/
def pairing : Pairing :=
  let sample := Ssp21.Sample.pairing
  let params := { sample.initiatorConfig.params with nonceRenegotiationTriggerValue := 2 }
  { sample with initiatorConfig := { sample.initiatorConfig with params := params } }

theorem sample_decrypts : (Sodium.sample.backend []).Decrypts := by
  constructor
  · intro bytes
    simp [Sodium.backend]
  · intro key nonce ad cleartext result destLength _ hencrypt hroom
    cases hencrypt
    have htag : (Sodium.Concrete.tag key (Sodium.gcmNonce nonce) ad cleartext).take
        Consts.aesGcmTagLength = Sodium.Concrete.tag key (Sodium.gcmNonce nonce) ad cleartext :=
      List.take_of_length_le (Sodium.Concrete.tag_length _ _ _ _).le
    simp [Sodium.backend, Sodium.sample, htag, hroom]

theorem pairing_compatible : pairing.Compatible where
  agree := .sharedSecret suite key
  commutes := MirroredSessions.sample_commutes []
  decrypts := sample_decrypts
  initiatorRoom := by decide
  responderRoom := by decide

/-- One step of a script.  Random values are filled with a seed. -/
inductive Cue
  | lowerOpen (seed : UInt8)
  | lowerTxReady (seed : UInt8)
  | lowerRxReady
  | arrival
  | run (seed : UInt8)
  | ret
  | startRx
  | startTx (data : Bytes)

/-- The label of a cue, if `next` is the message that arrives next. -/
def Cue.label (next : Bytes) : Cue → Label
  | lowerOpen seed => .lowerOpen true (env seed)
  | lowerTxReady seed => .lowerTxReady (env seed)
  | lowerRxReady => .lowerRxReady
  | arrival => .receive next
  | run seed => .run (env seed)
  | ret => .ret
  | startRx => .startRx
  | startTx data => .startTx data

/-- The labels of a script. -/
def labels : Duplex → List (Party × Cue) → List (Party × Label)
  | _, [] => []
  | duplex, (party, cue) :: script =>
      let label := (party, cue.label ((duplex.channel party).headD []))
      label ::
        match duplex.step pairing label with
        | none => []
        | some next => labels next script

theorem labels_keysFrom (duplex : Duplex) (script : List (Party × Cue)) :
    ∀ label ∈ labels duplex script, ∀ env ∈ label.2.env?, env.KeysFrom (fun _ => none) := by
  induction script generalizing duplex with
  | nil => simp [labels]
  | cons entry script ih =>
      obtain ⟨party, cue⟩ := entry
      intro label hmem
      rcases List.mem_cons.mp hmem with rfl | hmem
      · intro env henv
        cases cue with
        | lowerOpen seed | lowerTxReady seed | run seed =>
            cases henv
            exact ⟨by rintro _ ⟨⟩, by rintro _ _ ⟨⟩⟩
        | _ => cases henv
      · split at hmem
        · cases hmem
        · exact ih _ label hmem

def cues (party : Party) (list : List Cue) : List (Party × Cue) :=
  list.map fun cue => (party, cue)

/-- A message arrives and is read. -/
def arrives (party : Party) (list : List Cue) : List (Party × Cue) :=
  cues party (.arrival :: .lowerRxReady :: list)

/-- The lower layer is done with a frame. -/
def done (party : Party) (seed : UInt8) : List (Party × Cue) :=
  cues party [.lowerTxReady seed, .run seed, .run seed]

/-- A handshake, and a first byte. -/
def opening : List (Party × Cue) :=
  cues .initiator [.lowerOpen 1] ++ cues .responder [.lowerOpen 2] ++
    arrives .responder [.run 2, .run 2] ++ done .responder 2 ++ done .initiator 1 ++
    arrives .initiator [.run 1, .run 1] ++ done .initiator 1 ++
    arrives .responder [.run 2, .ret, .run 2, .run 2] ++ done .responder 2 ++
    arrives .initiator [.run 1, .ret, .run 1, .run 1, .run 1, .startTx [65], .run 1]

/-- The next request and its reply.  The initiator sends the next auth message. -/
def renegotiation : List (Party × Cue) :=
  cues .initiator [.lowerTxReady 3, .ret, .run 1, .run 1] ++
    arrives .responder [.run 2, .startRx, .ret, .run 2, .startRx, .run 2] ++
    arrives .responder [.run 4, .run 2] ++ done .responder 2 ++ done .initiator 1 ++
    arrives .initiator [.run 1, .run 1] ++ done .initiator 1

/-- A second byte is submitted and goes out under the old session. -/
def byteBetween : List (Party × Cue) :=
  cues .initiator [.startTx [66], .run 1]

def answer : List (Party × Cue) :=
  arrives .responder [.run 2, .run 2, .run 2] ++ done .responder 2

/-- The responder reads the second byte, for which it has no session any more. -/
def refusal : List (Party × Cue) :=
  arrives .responder [.run 2, .run 2] ++ cues .initiator [.lowerTxReady 1, .ret, .run 1, .run 1]

/-- The initiator reads the answer and sends a last byte. -/
def ending : List (Party × Cue) :=
  arrives .initiator [.run 1, .run 1, .run 1, .run 1, .startTx [67], .run 1] ++
    arrives .responder [.run 2, .startRx, .ret, .run 2]

def orderly : List (Party × Label) :=
  labels create (opening ++ renegotiation ++ answer ++ ending)

/-- Two bytes, one before the renegotiation and one behind it. -/
theorem stream_integrity_renegotiated : ∃ duplex,
    create.run pairing orderly = some duplex ∧ reads (duplex.trace .responder) = [[65], [67]] ∧
      (reads (duplex.trace .responder)).flatten <+:
        (submitted (duplex.trace .initiator)).flatten := by
  have hreads : (create.run pairing orderly).map (fun duplex => reads (duplex.trace .responder)) =
      some [[65], [67]] := by decide +kernel
  obtain ⟨duplex, hrun, hduplex⟩ := Option.map_eq_some_iff.mp hreads
  exact ⟨duplex, hrun, hduplex, stream_integrity pairing pairing_compatible (fun _ => none) orderly
    (labels_keysFrom create _) duplex hrun (by decide +kernel) (by decide +kernel) .responder⟩

def lossy : List (Party × Label) :=
  labels create (opening ++ renegotiation ++ byteBetween ++ answer ++ refusal ++ ending)

/-- The byte that is submitted while the answer to the auth message is on its way is lost, although
nothing disturbs the run: the initiator sends it under the old session, behind the auth message. -/
theorem byte_lost_in_renegotiation :
    pairing.Compatible ∧
    (∀ label ∈ lossy, ∀ env ∈ label.2.env?, env.KeysFrom (fun _ => none)) ∧
    Runs.Along (step pairing) (Undisturbed pairing) create lossy ∧
    ∃ duplex, create.run pairing lossy = some duplex ∧
      reads (duplex.trace .responder) = [[65], [67]] ∧
      submitted (duplex.trace .initiator) = [[65], [66], [67]] ∧
      ¬ (reads (duplex.trace .responder)).flatten <+:
        (submitted (duplex.trace .initiator)).flatten := by
  have hstreams : (create.run pairing lossy).map (fun duplex =>
      (reads (duplex.trace .responder), submitted (duplex.trace .initiator))) =
        some ([[65], [67]], [[65], [66], [67]]) := by decide +kernel
  obtain ⟨duplex, hrun, hduplex⟩ := Option.map_eq_some_iff.mp hstreams
  obtain ⟨hreads, hsubmitted⟩ := Prod.mk.inj hduplex
  refine ⟨pairing_compatible, labels_keysFrom create _, by decide +kernel, duplex, hrun, hreads,
    hsubmitted, ?_⟩
  rw [hreads, hsubmitted]
  decide

end Renegotiated

end Duplex

end Ssp21
