import Ssp21.Crypto.Provenance

/-!
# Two parties and a network

An initiator and a responder take steps in any order.  The network between them is not
restricted: every party may receive any bytes at any time, so messages can be dropped,
duplicated, delayed, reordered, replayed and made up.

`Network.log` is the common history.  An entry of it belongs to one party; the entries of
a party are the history of its layer (`Network.trace_eq`).  What the cryptography
guarantees is stated about the log: `Unforgeable` says that a tag is found right only for
a message that was sealed under the key before.
-/

namespace Ssp21

open Wire

inductive Party
  | initiator
  | responder
  deriving DecidableEq, Repr

/-- The configurations of two parties that use the same primitives. -/
structure Pairing where
  initiatorContext : SessionContext
  initiatorConfig : InitiatorConfig
  responderContext : SessionContext
  responderMode : ResponderMode
  backend_eq : responderContext.backend = initiatorContext.backend

namespace Pairing

def config (pairing : Pairing) : Party → Config
  | .initiator => ⟨pairing.initiatorContext, .initiator pairing.initiatorConfig⟩
  | .responder => ⟨pairing.responderContext, .responder pairing.responderMode⟩

def backend (pairing : Pairing) : CryptoBackend :=
  pairing.initiatorContext.backend

theorem config_backend (pairing : Pairing) (party : Party) :
    (pairing.config party).ctx.backend = pairing.backend := by
  cases party with
  | initiator => rfl
  | responder => exact pairing.backend_eq

end Pairing

structure Network where
  initiator : Machine
  responder : Machine
  log : List (Party × Observation)
  deriving DecidableEq, Repr

namespace Network

def create : Network := ⟨Machine.create, Machine.create, []⟩

def machine (network : Network) : Party → Machine
  | .initiator => network.initiator
  | .responder => network.responder

def setMachine (network : Network) (party : Party) (machine : Machine) : Network :=
  match party with
  | .initiator => { network with initiator := machine }
  | .responder => { network with responder := machine }

/-- The history of a party's layer. -/
def trace (network : Network) (party : Party) : List Observation :=
  (network.machine party).layer.base.trace

/-- One step of one party; what it observes joins the log. -/
def step (pairing : Pairing) (network : Network) (label : Party × Label) : Option Network :=
  ((network.machine label.1).step (pairing.config label.1) label.2).map (fun machine =>
    { network.setMachine label.1 machine with
      log := network.log ++
        (machine.layer.base.trace.drop (network.trace label.1).length).map
          (fun o => (label.1, o)) })

def run (pairing : Pairing) (network : Network) (labels : List (Party × Label)) : Option Network :=
  Runs.run (step pairing) network labels

/-! ## The part of a party -/

theorem trace_setMachine (network : Network) (party : Party) (machine : Machine)
    (log : List (Party × Observation)) (other : Party) :
    ({ network.setMachine party machine with log := log } : Network).machine other =
      if other = party then machine else network.machine other := by
  cases party <;> cases other <;> rfl

/-- What the log and the labels of a run say about a party. -/
structure Reached (pairing : Pairing) (network : Network) (party : Party) : Prop where
  run : ∃ labels, Machine.create.run (pairing.config party) labels = some (network.machine party)
  trace : History.valuesAt party network.log = network.trace party

theorem valuesAt_tagged (party other : Party) (history : List Observation) :
    History.valuesAt other (history.map (fun o => (party, o))) =
      if other = party then history else [] := by
  induction history with
  | nil => simp [History.valuesAt]
  | cons o history ih =>
      by_cases hparty : other = party
      · subst hparty
        simpa [History.valuesAt_cons_self] using ih
      · have hne : party ≠ other := fun heq => hparty heq.symm
        rw [List.map_cons, ← List.singleton_append, History.valuesAt_append,
          History.valuesAt_other hne, ih, if_neg hparty, if_neg hparty]
        rfl

end Network

/-- A step of a run only adds to the history. -/
theorem Machine.step_extends {cfg : Config} {labels : List Label} {machine machine' : Machine}
    (hrun : create.run cfg labels = some machine) {label : Label}
    (hstep : machine.step cfg label = some machine') :
    ∃ new, machine'.layer.base.trace = machine.layer.base.trace ++ new := by
  have hsound : Sound cfg machine.layer :=
    Runs.run_invariant (fun machine => Sound cfg machine.layer)
      (fun _ _ _ hsound _ hstep => (step_moves hsound hstep).2) hrun
      (Runs.along_of_forall (fun _ _ => trivial) create labels) (create_sound cfg)
  obtain ⟨hmoves, -⟩ := step_moves hsound hstep
  exact moves_trace_extends hmoves

namespace Network

variable {pairing : Pairing}

/-- One step is a step of one party, and adds the party's observations to the log. -/
theorem reached_step {network network' : Network} {label : Party × Label}
    (hstep : network.step pairing label = some network')
    (hreached : ∀ party, Reached pairing network party) (party : Party) :
    Reached pairing network' party := by
  obtain ⟨machine, hmachine, rfl⟩ := Option.map_eq_some_iff.mp hstep
  obtain ⟨labels, hrun⟩ := (hreached label.1).run
  obtain ⟨new, hnew⟩ := Machine.step_extends hrun hmachine
  have hdrop : machine.layer.base.trace.drop (network.trace label.1).length = new := by
    rw [hnew, trace, List.drop_left]
  by_cases hparty : party = label.1
  · subst hparty
    refine ⟨⟨labels ++ [label.2], ?_⟩, ?_⟩
    · rw [trace_setMachine, if_pos rfl]
      exact Runs.run_concat hrun hmachine
    · rw [History.valuesAt_append, (hreached label.1).trace, valuesAt_tagged, if_pos rfl, hdrop,
        trace, trace, trace_setMachine, if_pos rfl, hnew]
  · refine ⟨?_, ?_⟩
    · rw [trace_setMachine, if_neg hparty]
      exact (hreached party).run
    · rw [History.valuesAt_append, (hreached party).trace, valuesAt_tagged, if_neg hparty,
        List.append_nil, trace, trace, trace_setMachine, if_neg hparty]

/-- **A run of the network is a run of each party, and the log is made of their
histories.** -/
theorem reached_run {labels : List (Party × Label)} {network : Network}
    (hrun : create.run pairing labels = some network) (party : Party) :
    Reached pairing network party := by
  refine Runs.run_invariant (fun network => ∀ party, Reached pairing network party) ?_ hrun
    (Runs.along_of_forall (fun _ _ => trivial) create labels) ?_ party
  · intro network label network' hreached _ hstep
    exact reached_step hstep hreached
  · intro party
    refine ⟨⟨[], ?_⟩, ?_⟩
    · cases party <;> rfl
    · cases party <;> rfl

theorem mem_trace {labels : List (Party × Label)} {network : Network}
    (hrun : create.run pairing labels = some network) {party : Party} {o : Observation} :
    o ∈ network.trace party ↔ (party, o) ∈ network.log := by
  rw [← (reached_run hrun party).trace]
  exact History.mem_valuesAt

/-- A split of the log at an entry is one of the history of its party. -/
theorem trace_split {network : Network} {party : Party} (hreached : Reached pairing network party)
    {before after : List (Party × Observation)} {o : Observation}
    (hlog : network.log = before ++ (party, o) :: after) :
    network.trace party = History.valuesAt party before ++ o :: History.valuesAt party after := by
  rw [← hreached.trace, hlog, History.valuesAt_append, History.valuesAt_cons_self]

end Network

/-! ## Unforgeable tags -/

/-- A message that was sealed under a key, whether the lower layer took it or not. -/
def Observation.seals (key : Bytes) : Observation → Option Session.Formatted
  | .transmit ⟨_, _, .session key' formatted⟩ => if key' = key then some formatted else none
  | .refused ⟨_, _, .session key' formatted⟩ => if key' = key then some formatted else none
  | _ => none

/-- The messages that either party has sealed under a key. -/
def produced (key : Bytes) (log : List (Party × Observation)) : List Session.Formatted :=
  log.filterMap (fun entry => entry.2.seals key)

/-- The key and the message, if a tag was found right. -/
def Observation.verifies : Observation → Option (Bytes × SessionData)
  | .verified key msg => some (key, msg)
  | _ => none

/-- A tag is found right only for a message that had been sealed under the key: one with
the same metadata and ciphertext. -/
def SealedBefore (before : List (Party × Observation)) (entry : Party × Observation) : Prop :=
  ∀ checked ∈ entry.2.verifies, ∃ formatted ∈ produced checked.1 before,
    formatted.message.metadata = checked.2.metadata ∧
      formatted.message.userData = checked.2.userData

instance (before : List (Party × Observation)) (entry : Party × Observation) :
    Decidable (SealedBefore before entry) :=
  inferInstanceAs (Decidable (∀ checked ∈ entry.2.verifies, _))

/-- The ideal primitive: no tag of the log was forged. -/
def Unforgeable (log : List (Party × Observation)) : Prop :=
  History.Preceded SealedBefore log

instance (log : List (Party × Observation)) : Decidable (Unforgeable log) :=
  inferInstanceAs (Decidable (History.Preceded SealedBefore log))

/-- What was sealed under a key is in the history of one of the parties. -/
theorem mem_produced {key : Bytes} {log : List (Party × Observation)}
    {formatted : Session.Formatted} (hmem : formatted ∈ produced key log) :
    ∃ party o, (party, o) ∈ log ∧ o.seals key = some formatted := by
  obtain ⟨⟨party, o⟩, hentry, hseals⟩ := List.mem_filterMap.mp hmem
  exact ⟨party, o, hentry, hseals⟩

theorem Unforgeable.of_append {before after : List (Party × Observation)}
    (hideal : Unforgeable (before ++ after)) : Unforgeable before := by
  intro earlier entry rest heq
  refine hideal earlier entry (rest ++ after) ?_
  rw [heq, List.append_assoc, List.cons_append]

/-- An unforged tag, in the history of the party that checked it. -/
theorem Unforgeable.sealed {log : List (Party × Observation)} (hideal : Unforgeable log)
    {party : Party} {key : Bytes} {msg : SessionData}
    (hmem : (party, .verified key msg) ∈ log) :
    ∃ formatted ∈ produced key log, formatted.message.metadata = msg.metadata ∧
      formatted.message.userData = msg.userData := by
  obtain ⟨before, after, rfl⟩ := List.append_of_mem hmem
  obtain ⟨formatted, hformatted, hsame⟩ := hideal before _ after rfl (key, msg) rfl
  refine ⟨formatted, ?_, hsame⟩
  rw [produced, List.filterMap_append]
  exact List.mem_append_left _ hformatted

/-! ## The sample handshake between two parties -/

namespace Sample

def pairing : Pairing where
  initiatorContext := ctx 1000
  initiatorConfig := ⟨⟨milliseconds 5000, milliseconds 5000, 60000, 30000⟩, ⟨100, 60000⟩,
    .sharedSecret suite key⟩
  responderContext := ctx 1000
  responderMode := .sharedSecret key
  backend_eq := rfl

def labelled (party : Party) (labels : List Label) : List (Party × Label) :=
  labels.map (fun label => (party, label))

/-- The responder's answer to the auth message. -/
def answer : Bytes := frame (reached (responder 1000) (opening ⟨100, 60000⟩)) 1

/-- Request, reply, auth message and its answer; the responder is given its auth message
twice. -/
def exchange : List (Party × Label) :=
  labelled .initiator requesting ++ labelled .responder (replying ⟨100, 60000⟩) ++
    labelled .initiator ((authenticating ⟨100, 60000⟩).drop 1) ++
    labelled .responder ((opening ⟨100, 60000⟩).drop 8 ++ [.ret, .run (env 2), .run (env 2),
      .lowerTxReady (env 2), .run (env 2), .run (env 2), .receive (auth ⟨100, 60000⟩),
      .lowerRxReady, .run (env 2), .run (env 2)]) ++
    labelled .initiator [.lowerTxReady (env 1), .run (env 1), .run (env 1),
      .receive answer, .lowerRxReady, .run (env 1)]

def network : Network := (Network.create.run pairing exchange).getD Network.create

theorem network_run : Network.create.run pairing exchange = some network := by
  decide +kernel

end Sample

end Ssp21
