import Ssp21.Crypto.Quiescence
import Ssp21.Stack.FullStack

/-!
# Two full stacks on a line

The full stacks of an initiator and of a responder are joined by a line that carries bytes in both
directions.  A line cuts the bytes into chunks as it likes; it loses, duplicates and reorders
nothing.

* `Line.step`: a step of one stack.  A chunk that arrives is the next one of the line, and what the
  frame writer has written goes into the line to the other side.
* `Carries`: the line and two parties over channels of messages.  The frames of the messages that
  are in a channel are partly in the line, and partly in the link layer that reads from it.
* `carries_step`, `carries_run`: a step of the line is a few steps of the parties, so that what
  holds for two parties over channels holds for two stacks on a line.
-/

namespace Ssp21

open Wire Link

/-- The link layer's part of a step takes the frames whose payloads it returns. -/
theorem FullStack.below_valid {full : FullStack} {label : Label} {localAddr : UInt16}
    {pending : List Frame} {future : Bytes}
    (h : LinkLayer.Valid localAddr pending future full.link) (hstays : label.closes = false) :
    ∃ seen rest, pending = seen ++ rest ∧ (full.below label).2 = seen.map Frame.payload ∧
      LinkLayer.Valid localAddr rest future (full.below label).1 := by
  cases label with
  | lowerOpen ready env => exact ⟨[], pending, rfl, rfl, h.onLowerOpen⟩
  | lowerClose ready => cases hstays
  | run env =>
      simp only [below]
      split_ifs
      · rcases h.startRx with ⟨frame, rest, hpending, hreceived, hnext⟩ | ⟨hreceived, hnext, -⟩
        · exact ⟨[frame], rest, hpending, hreceived, hnext⟩
        · exact ⟨[], pending, rfl, hreceived, hnext⟩
      · exact ⟨[], pending, rfl, rfl, h⟩
  | _ => exact ⟨[], pending, rfl, rfl, h⟩

/-! ## The line -/

structure Line where
  initiator : FullStack
  responder : FullStack
  toInitiator : Bytes
  toResponder : Bytes
  deriving DecidableEq, Repr

namespace Line

/-- A line between two stations. -/
def create (addr : Party → UInt16) : Line where
  initiator := FullStack.create (addr .initiator) (addr .responder)
  responder := FullStack.create (addr .responder) (addr .initiator)
  toInitiator := []
  toResponder := []

def side (line : Line) : Party → FullStack
  | .initiator => line.initiator
  | .responder => line.responder

/-- The bytes on the way to a station. -/
def wire (line : Line) : Party → Bytes
  | .initiator => line.toInitiator
  | .responder => line.toResponder

def setSide (line : Line) (party : Party) (side : FullStack) : Line :=
  match party with
  | .initiator => { line with initiator := side }
  | .responder => { line with responder := side }

def setWire (line : Line) (party : Party) (bytes : Bytes) : Line :=
  match party with
  | .initiator => { line with toInitiator := bytes }
  | .responder => { line with toResponder := bytes }

def trace (line : Line) (party : Party) : List Observation :=
  (line.side party).stack.machine.layer.base.trace

/-- The frames that a stack has handed down since an earlier state. -/
def bytesSince (before after : Machine) : Bytes :=
  ((transmissions (after.layer.base.trace.drop before.layer.base.trace.length)).map
    Transmission.frame).flatten

def step (pairing : Pairing) (line : Line) : Party × Label → Option Line
  | (party, .receive chunk) =>
      if chunk <+: line.wire party then
        ((line.side party).step (pairing.config party) (.receive chunk)).map (fun side =>
          (line.setSide party side).setWire party ((line.wire party).drop chunk.length))
      else none
  | (party, label) =>
      ((line.side party).step (pairing.config party) label).map (fun side =>
        (line.setSide party side).setWire party.peer
          (line.wire party.peer ++ bytesSince (line.side party).stack.machine side.stack.machine))

def run (pairing : Pairing) (line : Line) (labels : List (Party × Label)) : Option Line :=
  Runs.run (step pairing) line labels

/-- The frame writers of two stations that talk to each other. -/
def Linked (pairing : Pairing) (addr : Party → UInt16) : Prop :=
  ∀ party, (pairing.config party).ctx.frameWriter =
    .link (addr party.peer) (addr party) (UInt16.ofNat maxConfigPayloadSize)

/-- As `Duplex.Undisturbed`, for the message that the link layer returns in the step. -/
structure Undisturbed (pairing : Pairing) (line : Line) (label : Party × Label) : Prop where
  stays : label.2.closes = false
  inTime : ((line.side label.1).served label.2).stack.machine.ReadsInTime (pairing.config label.1)
    label.2
  upper : ∀ next ∈ line.step pairing label, .closed ∉ next.trace label.1

/-- As `Duplex.Orderly`. -/
structure Orderly (pairing : Pairing) (line : Line) (label : Party × Label) : Prop where
  withholds : (line.side label.1).stack.machine.Withholds label.2
  patient : (line.side label.1).stack.machine.Patient label.2
  answers : ((line.side label.1).served label.2).stack.machine.Answers (pairing.config label.1)
    label.2

instance (pairing : Pairing) (line : Line) (label : Party × Label) :
    Decidable (line.Orderly pairing label) :=
  decidable_of_iff ((line.side label.1).stack.machine.Withholds label.2 ∧
      (line.side label.1).stack.machine.Patient label.2 ∧
      ((line.side label.1).served label.2).stack.machine.Answers (pairing.config label.1) label.2)
    ⟨fun ⟨hwithholds, hpatient, hanswers⟩ => ⟨hwithholds, hpatient, hanswers⟩,
      fun ⟨hwithholds, hpatient, hanswers⟩ => ⟨hwithholds, hpatient, hanswers⟩⟩

/-! ## The line and the channels -/

/-- The frame of a message to a station. -/
def frameTo (addr : Party → UInt16) (party : Party) (message : Bytes) : Frame :=
  ⟨addr party, addr party.peer, message⟩

/-- A stack with the bytes on the way to it, and a party with the messages on the way to it.  The
frames of the messages are in the line, or in the link layer behind it. -/
structure Carried (pairing : Pairing) (addr : Party → UInt16) (party : Party) (side : FullStack)
    (wire : Bytes) (machine : Machine) (channel : List Bytes) : Prop where
  machine : machine = side.stack.flagged
  unclosed : .afterClose ∉ side.stack.machine.stack
  empty : side.stack.machine.layer.base.lowerRx = []
  upper : .closed ∉ side.stack.machine.layer.base.trace
  faithful : Machine.AllFaithful (pairing.config party).ctx side.stack.machine.layer.base.trace
  frames : LinkLayer.Valid (addr party) (channel.map (frameTo addr party)) wire side.link
  messages : ∀ message ∈ channel, message ≠ []

/-- Two parties over channels do the same as two stacks on a line. -/
def Carries (pairing : Pairing) (addr : Party → UInt16) (line : Line) (duplex : Duplex) : Prop :=
  ∀ party, Carried pairing addr party (line.side party) (line.wire party) (duplex.machine party)
    (duplex.channel party)

theorem carries_create (pairing : Pairing) (addr : Party → UInt16) :
    Carries pairing addr (create addr) Duplex.create := by
  have hside (party : Party) (remote : UInt16) :
      Carried pairing addr party (FullStack.create (addr party) remote) [] Machine.create [] :=
    ⟨rfl, List.not_mem_nil, rfl, List.not_mem_nil, nofun, LinkLayer.create_valid _ _, nofun⟩
  intro party
  cases party <;> exact hside _ _

end Line

/-! ## Fields behind an update -/

theorem Party.peer_peer (party : Party) : party.peer.peer = party := by
  cases party <;> rfl

/-- What holds for one party and for the other one holds for both. -/
theorem Party.forall_of_peer {P : Party → Prop} {party : Party} (hself : P party)
    (hpeer : P party.peer) (other : Party) : P other := by
  cases party <;> cases other <;> first | exact hself | exact hpeer

section Updates

variable {line : Line} {party : Party}

theorem Line.side_set_self (side : FullStack) (target : Party) (bytes : Bytes) :
    ((line.setSide party side).setWire target bytes).side party = side := by
  cases party <;> cases target <;> rfl

theorem Line.side_set_peer (side : FullStack) (target : Party) (bytes : Bytes) :
    ((line.setSide party side).setWire target bytes).side party.peer = line.side party.peer := by
  cases party <;> cases target <;> rfl

theorem Line.wire_set_self (side : FullStack) (target : Party) (bytes : Bytes) :
    ((line.setSide party side).setWire target bytes).wire target = bytes := by
  cases party <;> cases target <;> rfl

theorem Line.wire_set_peer (side : FullStack) (target : Party) (bytes : Bytes) :
    ((line.setSide party side).setWire target bytes).wire target.peer = line.wire target.peer := by
  cases party <;> cases target <;> rfl

theorem Line.wire_set_back (side : FullStack) (bytes : Bytes) :
    ((line.setSide party side).setWire party.peer bytes).wire party = line.wire party := by
  cases party <;> rfl

theorem Duplex.channel_set_self {duplex : Duplex} (machine : Machine) (target : Party)
    (messages : List Bytes) :
    ((duplex.setMachine party machine).setChannel target messages).channel target = messages := by
  cases party <;> cases target <;> rfl

theorem Duplex.channel_set_peer {duplex : Duplex} (machine : Machine) (target : Party)
    (messages : List Bytes) :
    ((duplex.setMachine party machine).setChannel target messages).channel target.peer =
      duplex.channel target.peer := by
  cases party <;> cases target <;> rfl

theorem Duplex.channel_set_back {duplex : Duplex} (machine : Machine) (messages : List Bytes) :
    ((duplex.setMachine party machine).setChannel party.peer messages).channel party =
      duplex.channel party := by
  cases party <;> rfl

theorem Duplex.machine_set_peer {duplex : Duplex} (machine : Machine) (target : Party)
    (messages : List Bytes) :
    ((duplex.setMachine party machine).setChannel target messages).machine party.peer =
      duplex.machine party.peer := by
  cases party <;> cases target <;> rfl

end Updates

/-! ## One step -/

theorem Machine.withRx_nil {machine : Machine} (hempty : machine.layer.base.lowerRx = []) :
    machine.withRx [] = machine := by
  obtain ⟨⟨base, initiator⟩, tasks⟩ := machine
  obtain ⟨isOpen, processing, active, pending, statistics, txState, payload, upperOpen, ready, rx,
    trace⟩ := base
  cases hempty
  rfl

namespace Duplex

/-- The messages that a link layer returns are received from the channel. -/
theorem run_receives {pairing : Pairing} {duplex : Duplex} {party : Party}
    {messages rest : List Bytes} (hlength : messages.length ≤ 1)
    (hchannel : duplex.channel party = messages ++ rest)
    (hempty : (duplex.machine party).layer.base.lowerRx = []) :
    ∃ before, duplex.run pairing ((messages.map Label.receive).map (Prod.mk party)) = some before ∧
      before.machine party = (duplex.machine party).withRx messages ∧
      before.channel party = rest ∧ before.machine party.peer = duplex.machine party.peer ∧
      before.channel party.peer = duplex.channel party.peer := by
  cases messages with
  | nil => exact ⟨duplex, rfl, (Machine.withRx_nil hempty).symm, hchannel, rfl, rfl⟩
  | cons message messages =>
      obtain rfl : messages = [] := by simpa using hlength
      have hreceived : (duplex.machine party).step (pairing.config party) (.receive message) =
          some ((duplex.machine party).withRx [message]) := by
        simp only [Machine.step, hempty, List.nil_append]
        rfl
      refine ⟨_, ?_, machine_set_self _ party rest, channel_set_self _ party rest,
        machine_set_peer _ party rest, channel_set_peer _ party rest⟩
      simp only [List.map_cons, List.map_nil, run, Runs.run, step, hchannel, List.singleton_append,
        if_true, hreceived, Option.map_some]

theorem step_of_machine {pairing : Pairing} {duplex : Duplex} {party : Party} {label : Label}
    {machine : Machine} (harrives : ∀ message, label ≠ .receive message)
    (hmachine : (duplex.machine party).step (pairing.config party) label = some machine) :
    duplex.step pairing (party, label) =
      some ((duplex.setMachine party machine).setChannel party.peer
        (duplex.channel party.peer ++ sentSince (duplex.machine party) machine)) := by
  rw [step.eq_2 pairing duplex party label harrives, hmachine]
  rfl

end Duplex

namespace Line

section Step

variable {pairing : Pairing} {addr : Party → UInt16} {line line' : Line} {duplex : Duplex}
  {party : Party} {label : Label}

theorem step_cases (hstep : line.step pairing (party, label) = some line') :
    (∃ chunk, label = .receive chunk ∧ chunk <+: line.wire party ∧
      line' = (line.setSide party
          ⟨((line.side party).link.step (.arrive chunk)).1, (line.side party).stack⟩).setWire party
        ((line.wire party).drop chunk.length)) ∨
    ((∀ chunk, label ≠ .receive chunk) ∧ ∃ side,
      (line.side party).step (pairing.config party) label = some side ∧
      line' = (line.setSide party side).setWire party.peer (line.wire party.peer ++
        bytesSince (line.side party).stack.machine side.stack.machine)) := by
  cases label with
  | receive chunk =>
      obtain ⟨hfront, hstep⟩ := Option.ite_none_right_eq_some.mp hstep
      obtain ⟨side, hside, rfl⟩ := Option.map_eq_some_iff.mp hstep
      cases hside
      exact .inl ⟨chunk, rfl, hfront, rfl⟩
  | _ =>
      obtain ⟨side, hside, rfl⟩ := Option.map_eq_some_iff.mp hstep
      exact .inr ⟨nofun, side, hside, rfl⟩

/-- A step of one station leaves the other one as it is. -/
theorem side_step (hstep : line.step pairing (party, label) = some line') :
    (line.side party).step (pairing.config party) label = some (line'.side party) ∧
      line'.side party.peer = line.side party.peer := by
  rcases step_cases hstep with ⟨chunk, rfl, -, rfl⟩ | ⟨-, side, hside, rfl⟩
  · rw [side_set_self, side_set_peer]
    exact ⟨rfl, rfl⟩
  · rw [side_set_self, side_set_peer]
    exact ⟨hside, rfl⟩

/-- The bytes of frames are those of the frames of their messages. -/
theorem frames_eq_encodeAll (hlinked : Linked pairing addr) {new : List Transmission}
    (hframed : ∀ transmission ∈ new,
      (pairing.config party).ctx.frameWriter.Framed transmission) :
    (new.map Transmission.frame).flatten =
      LinkLayer.encodeAll ((new.map Transmission.written).map (frameTo addr party.peer)) := by
  rw [LinkLayer.encodeAll, List.map_map, List.map_map]
  refine congrArg List.flatten (List.map_congr_left fun transmission hmem => ?_)
  rw [(hframed transmission hmem).frame, hlinked party]
  simp only [Function.comp_apply, frameTo, Party.peer_peer]
  rfl

/-- A chunk arrives at a link layer; the parties do nothing. -/
theorem carries_arrives (hcarries : Carries pairing addr line duplex) {chunk : Bytes}
    (hfront : chunk <+: line.wire party) :
    Carries pairing addr
      ((line.setSide party
          ⟨((line.side party).link.step (.arrive chunk)).1, (line.side party).stack⟩).setWire party
        ((line.wire party).drop chunk.length)) duplex := by
  obtain ⟨rest, hrest⟩ := hfront
  obtain ⟨hmachine, hunclosed, hempty, hupper, hfaithful, hvalid, hmessages⟩ := hcarries party
  rw [← hrest] at hvalid ⊢
  rw [List.drop_left]
  refine @Party.forall_of_peer _ party ?_ ?_
  · rw [side_set_self, wire_set_self]
    exact ⟨hmachine, hunclosed, hempty, hupper, hfaithful, hvalid.arrive, hmessages⟩
  · rw [side_set_peer, wire_set_peer]
    exact hcarries party.peer

/-- A stack that gets the first messages of its channel makes a step. -/
theorem carries_acts (hlinked : Linked pairing addr) (hcarries : Carries pairing addr line duplex)
    {messages rest : List Bytes} {link : LinkLayer} {stack : AbstractStack}
    (hlength : messages.length ≤ 1) (hchannel : duplex.channel party = messages ++ rest)
    (hframes : LinkLayer.Valid (addr party) (rest.map (frameTo addr party)) (line.wire party) link)
    (hstays : label.closes = false) (harrives : ∀ message, label ≠ .receive message)
    (hstack : ((line.side party).stack.handed messages).step (pairing.config party) label =
      some stack)
    (hempty : stack.machine.layer.base.lowerRx = [])
    (hupper : .closed ∉ stack.machine.layer.base.trace) :
    ∃ before after, duplex.run pairing ((messages.map Label.receive).map (Prod.mk party)) =
        some before ∧
      before.machine party = ((line.side party).stack.handed messages).flagged ∧
      before.step pairing (party, label) = some after ∧
      Carries pairing addr
        ((line.setSide party ⟨link, stack⟩).setWire party.peer (line.wire party.peer ++
          bytesSince (line.side party).stack.machine stack.machine)) after := by
  obtain ⟨hmachine, hunclosed, hempty', -, hfaithful, -, hmessages⟩ := hcarries party
  have hnothing : (duplex.machine party).layer.base.lowerRx = [] := by
    rw [hmachine]
    exact hempty'
  obtain ⟨before, hreceived, hhanded, hrest, hpeer, hpeerChannel⟩ :=
    @Duplex.run_receives pairing duplex party messages rest hlength hchannel hnothing
  rw [hmachine] at hhanded
  replace hhanded : before.machine party = ((line.side party).stack.handed messages).flagged :=
    hhanded
  obtain ⟨hflagged, hunclosed'⟩ := AbstractStack.step_flagged hstack hstays hunclosed
  have hstep : before.step pairing (party, label) =
      some ((before.setMachine party stack.flagged).setChannel party.peer
        (duplex.channel party.peer ++
          Duplex.sentSince ((line.side party).stack.handed messages).flagged stack.flagged)) := by
    rw [← hhanded] at hflagged ⊢
    rw [← hpeerChannel]
    exact Duplex.step_of_machine harrives hflagged
  refine ⟨before, _, hreceived, hhanded, hstep, ?_⟩
  have hfaithful' : Machine.AllFaithful (pairing.config party).ctx stack.flagged.layer.base.trace :=
    Machine.faithful_step
      (show Machine.AllFaithful _
        ((line.side party).stack.handed messages).flagged.layer.base.trace from hfaithful) hflagged
  -- what the step has sent
  have hnew : ∀ transmission ∈ transmissions (stack.machine.layer.base.trace.drop
      (line.side party).stack.machine.layer.base.trace.length),
      (pairing.config party).ctx.frameWriter.Framed transmission := by
    intro transmission hmem
    obtain ⟨o, ho, heq⟩ := List.mem_filterMap.mp hmem
    cases o <;> cases heq
    exact (hfaithful' transmission (List.mem_of_mem_drop ho)).framed
  have hbytes : bytesSince (line.side party).stack.machine stack.machine =
      LinkLayer.encodeAll ((Duplex.sentSince ((line.side party).stack.handed messages).flagged
        stack.flagged).map (frameTo addr party.peer)) := frames_eq_encodeAll hlinked hnew
  refine @Party.forall_of_peer _ party ?_ ?_
  · rw [side_set_self, wire_set_back, Duplex.machine_set_self, Duplex.channel_set_back, hrest]
    refine ⟨rfl, hunclosed', hempty, hupper, hfaithful', hframes, fun message hmem => ?_⟩
    exact hmessages message (hchannel ▸ List.mem_append_right _ hmem)
  · rw [side_set_peer, wire_set_self, Duplex.machine_set_peer, Duplex.channel_set_self,
      hpeer, hbytes]
    obtain ⟨hmachine, hunclosed, hempty, hupper, hfaithful, hframes, hmessages⟩ :=
      hcarries party.peer
    refine ⟨hmachine, hunclosed, hempty, hupper, hfaithful, ?_, fun message hmem => ?_⟩
    · rw [List.map_append]
      refine hframes.extend fun frame hmem => ?_
      obtain ⟨message, hmessage, rfl⟩ := List.mem_map.mp hmem
      obtain ⟨transmission, htransmission, rfl⟩ := List.mem_map.mp hmessage
      have hfits := (hnew transmission htransmission).fits
      rw [hlinked party] at hfits
      exact hfits
    · rcases List.mem_append.mp hmem with hold | hsent
      · exact hmessages message hold
      · obtain ⟨transmission, htransmission, rfl⟩ := List.mem_map.mp hsent
        exact (hnew transmission htransmission).nonempty

/-- What a step of two parties is to meet. -/
def Compliant (pairing : Pairing) (duplex : Duplex) (label : Party × Label) : Prop :=
  duplex.Undisturbed pairing label ∧ duplex.Orderly pairing label

theorem compliant_receive (hupper : .closed ∉ duplex.trace party) (message : Bytes) :
    Compliant pairing duplex (party, .receive message) := by
  refine ⟨⟨rfl, nofun, fun next hnext => ?_⟩, ⟨nofun, nofun, nofun⟩⟩
  rcases Duplex.step_cases hnext with ⟨_, rest, machine, -, -, hmachine, rfl⟩ | ⟨harrives, -⟩
  · cases hmachine
    rw [Duplex.trace, Duplex.machine_set_self]
    exact hupper
  · exact absurd rfl (harrives message)

theorem along_receives (hupper : .closed ∉ duplex.trace party) {messages : List Bytes}
    (hlength : messages.length ≤ 1) :
    Runs.Along (Duplex.step pairing) (Compliant pairing) duplex
      ((messages.map Label.receive).map (Prod.mk party)) := by
  cases messages with
  | nil => exact trivial
  | cons message messages =>
      obtain rfl : messages = [] := by simpa using hlength
      exact ⟨compliant_receive hupper message, fun _ _ => trivial⟩

/-- The same under the conditions on the step. -/
theorem carries_passes (hlinked : Linked pairing addr) (hcarries : Carries pairing addr line duplex)
    (hundisturbed : line.Undisturbed pairing (party, label))
    (horderly : line.Orderly pairing (party, label)) {messages rest : List Bytes} {link : LinkLayer}
    {stack : AbstractStack} (hlength : messages.length ≤ 1)
    (hchannel : duplex.channel party = messages ++ rest)
    (hserved : ((line.side party).served label).stack = (line.side party).stack.handed messages)
    (hframes : LinkLayer.Valid (addr party) (rest.map (frameTo addr party)) (line.wire party) link)
    (harrives : ∀ message, label ≠ .receive message)
    (hstack : ((line.side party).stack.handed messages).step (pairing.config party) label =
      some stack)
    (hempty : stack.machine.layer.base.lowerRx = [])
    (hupper : .closed ∉ stack.machine.layer.base.trace) :
    ∃ duplex', duplex.run pairing ((messages.map Label.receive ++ [label]).map (Prod.mk party)) =
        some duplex' ∧
      Runs.Along (Duplex.step pairing) (Compliant pairing) duplex
        ((messages.map Label.receive ++ [label]).map (Prod.mk party)) ∧
      Carries pairing addr
        ((line.setSide party ⟨link, stack⟩).setWire party.peer (line.wire party.peer ++
          bytesSince (line.side party).stack.machine stack.machine)) duplex' := by
  obtain ⟨before, after, hreceived, hhanded, hlast, hcarries'⟩ :=
    carries_acts hlinked hcarries hlength hchannel hframes hundisturbed.stays harrives hstack hempty
      hupper
  rw [List.map_append]
  refine ⟨after, Runs.run_concat hreceived hlast, ?_, hcarries'⟩
  have htrace : .closed ∉ duplex.trace party := by
    rw [Duplex.trace, (hcarries party).machine]
    exact (hcarries party).upper
  refine (along_receives htrace hlength).append fun state hstate => ⟨?_, fun _ _ => trivial⟩
  cases hreceived.symm.trans hstate
  have hinTime := hundisturbed.inTime
  have hanswers := horderly.answers
  simp only [hserved] at hinTime hanswers
  -- neither the flag nor the messages matter for the other conditions
  refine ⟨⟨hundisturbed.stays, ?_, fun next hnext => ?_⟩, ⟨?_, ?_, ?_⟩⟩
  · simp only [hhanded]
    exact hinTime
  · cases hlast.symm.trans hnext
    rw [Duplex.trace, (hcarries' party).machine]
    exact (hcarries' party).upper
  · simp only [hhanded]
    exact horderly.withholds
  · simp only [hhanded]
    exact horderly.patient
  · simp only [hhanded]
    exact hanswers

/-- The link layer looks for a frame; the parties do nothing. -/
theorem carries_waits (hcarries : Carries pairing addr line duplex) {link : LinkLayer}
    (hframes : LinkLayer.Valid (addr party) ((duplex.channel party).map (frameTo addr party))
      (line.wire party) link) :
    Carries pairing addr
      ((line.setSide party ⟨link, (line.side party).stack⟩).setWire party.peer
        (line.wire party.peer ++ bytesSince (line.side party).stack.machine
          (line.side party).stack.machine)) duplex := by
  have hnothing : bytesSince (line.side party).stack.machine (line.side party).stack.machine =
      [] := by
    rw [bytesSince, List.drop_length]
    rfl
  obtain ⟨hmachine, hunclosed, hempty, hupper, hfaithful, -, hmessages⟩ := hcarries party
  rw [hnothing, List.append_nil]
  refine @Party.forall_of_peer _ party ?_ ?_
  · rw [side_set_self, wire_set_back]
    exact ⟨hmachine, hunclosed, hempty, hupper, hfaithful, hframes, hmessages⟩
  · rw [side_set_peer, wire_set_self]
    exact hcarries party.peer

/-- **A step of the line is a few steps of the parties**, in which nothing disturbs them. -/
theorem carries_step (hlinked : Linked pairing addr) (hcarries : Carries pairing addr line duplex)
    (hundisturbed : line.Undisturbed pairing (party, label))
    (horderly : line.Orderly pairing (party, label))
    (hstep : line.step pairing (party, label) = some line') :
    ∃ duplex', duplex.run pairing (((line.side party).calls label).map (Prod.mk party)) =
        some duplex' ∧
      Runs.Along (Duplex.step pairing) (Compliant pairing) duplex
        (((line.side party).calls label).map (Prod.mk party)) ∧
      Carries pairing addr line' duplex' := by
  have hupper := hundisturbed.upper line' hstep
  have hempty := (hcarries party).empty
  rcases step_cases hstep with ⟨chunk, rfl, hfront, rfl⟩ | ⟨harrives, side, hside, rfl⟩
  · exact ⟨duplex, rfl, trivial, carries_arrives hcarries hfront⟩
  · rw [trace, side_set_self] at hupper
    have hsteps := FullStack.steps_of_step hside
    have hempty' := (FullStack.step_refines hempty hsteps).2
    cases hsteps with
    | arrives chunk => exact absurd rfl (harrives chunk)
    | notifies hnotified hstack =>
        have hframes := (hcarries party).frames.rxReady
        rw [← FullStack.handed_nil hempty] at hstack
        rw [FullStack.calls, if_pos hnotified]
        exact carries_passes hlinked hcarries hundisturbed horderly
          (show ([] : List Bytes).length ≤ 1 from Nat.zero_le 1) rfl rfl hframes harrives hstack
          hempty' hupper
    | waits hnotified =>
        rw [FullStack.calls, if_neg (by simp [hnotified])]
        exact ⟨duplex, rfl, trivial,
          carries_waits hcarries (hcarries party).frames.rxReady⟩
    | passes hinput hstack =>
        obtain ⟨seen, others, hpending, hreturned, hnext⟩ :=
          FullStack.below_valid (hcarries party).frames hundisturbed.stays
        obtain ⟨messages, rest, hchannel, rfl, rfl⟩ := List.map_eq_append_iff.mp hpending
        -- the payload of the frame of a message is the message
        have hmessages : ((line.side party).below label).2 = messages := by
          rw [hreturned, List.map_map]
          exact List.map_id messages
        have hlength := (FullStack.below_length (line.side party) label).trans
          (show (if _ then 1 else 0) ≤ 1 by split_ifs <;> simp)
        rw [hmessages] at hstack hlength
        rw [FullStack.calls_passes hinput, hmessages]
        refine carries_passes hlinked hcarries hundisturbed horderly hlength hchannel ?_
          hnext harrives
          hstack hempty' hupper
        rw [FullStack.served, hmessages]

end Step

/-! ## Whole runs -/

theorem joined_of_compliant {pairing : Pairing} (hcompatible : pairing.Compatible)
    {store : UInt64 → Option Bytes} {messages : List (Party × Label)} {duplex : Duplex}
    (hkeys : ∀ label ∈ messages, ∀ env ∈ label.2.env?, env.KeysFrom store)
    (hrun : Duplex.create.run pairing messages = some duplex)
    (halong : Runs.Along (Duplex.step pairing) (Compliant pairing) Duplex.create messages) :
    Duplex.Joined pairing store duplex :=
  Duplex.joined_run hcompatible hkeys hrun (halong.mono fun _ _ hcompliant => hcompliant.1)
    (halong.mono fun _ _ hcompliant => hcompliant.2)

/-- **What holds for two parties holds on the line.** -/
theorem carries_run {pairing : Pairing} {addr : Party → UInt16} (hlinked : Linked pairing addr)
    {store : UInt64 → Option Bytes} {labels : List (Party × Label)} {line line' : Line}
    {duplex : Duplex} (hcarries : Carries pairing addr line duplex)
    (hkeys : ∀ label ∈ labels, ∀ env ∈ label.2.env?, env.KeysFrom store)
    (hrun : line.run pairing labels = some line')
    (hundisturbed : Runs.Along (step pairing) (Undisturbed pairing) line labels)
    (horderly : Runs.Along (step pairing) (Orderly pairing) line labels) :
    ∃ messages duplex', duplex.run pairing messages = some duplex' ∧
      (∀ label ∈ messages, ∀ env ∈ label.2.env?, env.KeysFrom store) ∧
      Runs.Along (Duplex.step pairing) (Compliant pairing) duplex messages ∧
      Carries pairing addr line' duplex' := by
  induction labels generalizing line duplex with
  | nil =>
      cases hrun
      exact ⟨[], duplex, rfl, nofun, trivial, hcarries⟩
  | cons label labels ih =>
      obtain ⟨next, hstep, hrest⟩ := Runs.run_cons hrun
      obtain ⟨party, label⟩ := label
      obtain ⟨middle, hfirst, halong, hnext⟩ :=
        carries_step hlinked hcarries hundisturbed.1 horderly.1 hstep
      obtain ⟨messages, last, hmessages, hkeys', halong', hlast⟩ :=
        ih hnext (fun other hmem => hkeys other (List.mem_cons_of_mem _ hmem)) hrest
          (hundisturbed.2 next hstep) (horderly.2 next hstep)
      refine ⟨_, last, Runs.run_append hfirst hmessages, ?_, halong.append fun state hstate => ?_,
        hlast⟩
      · intro other hmem
        rcases List.mem_append.mp hmem with hnow | hlater
        · obtain ⟨call, hcall, rfl⟩ := List.mem_map.mp hnow
          intro env henv
          exact hkeys (party, label) List.mem_cons_self env
            (FullStack.env_of_mem_calls hcall henv)
        · exact hkeys' other hlater
      · cases hfirst.symm.trans hstate
        exact halong'

/-- What is read has been submitted on the other side, in this order. -/
theorem Carries.reads_front {pairing : Pairing} {addr : Party → UInt16} {line : Line}
    {duplex : Duplex} {store : UInt64 → Option Bytes} (hcarries : Carries pairing addr line duplex)
    (hjoined : Duplex.Joined pairing store duplex) (party : Party) :
    (reads (line.trace party)).flatten <+: (submitted (line.trace party.peer)).flatten := by
  have hread : (reads (duplex.trace party)).flatten <+: (duplex.machine party).endpoint.received :=
    (hjoined.ledger party).given_front
  have hall := (hread.trans (hjoined.received_front party)).trans (hjoined.sent_front party.peer)
  rw [Duplex.trace, Duplex.trace, (hcarries party).machine, (hcarries party.peer).machine] at hall
  exact hall

end Line

end Ssp21
