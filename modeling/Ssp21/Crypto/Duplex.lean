import Ssp21.Crypto.Network
import Ssp21.Crypto.MirroredSessions
import Ssp21.Crypto.Receiving

/-!
# Two parties over reliable channels

An initiator and a responder are joined by two channels, which lose, duplicate and reorder
nothing.  A channel holds the messages that one lower layer has accepted and the other has not
received yet; how they are framed on the way is the business of the lower layers.

* `Duplex.step`: a step of one party.  A message arrives only if it is the next one of its
  channel, and what the party hands to its lower layer goes into the other channel.
* `Undisturbed` says what is expected of the surroundings, and `Orderly` what a run has to avoid
  so that nothing is lost when the session is renegotiated.
-/

namespace Ssp21

open Wire

def Party.peer : Party → Party
  | .initiator => .responder
  | .responder => .initiator

namespace Observation

/-- The frame that the lower layer has accepted. -/
def transmission : Observation → Option Transmission
  | .transmit transmission => some transmission
  | _ => none

/-- The payload of a message that passes all checks. -/
def receipt : Observation → Option Bytes
  | .accepted _ _ payload => some payload
  | _ => none

end Observation

/-- The frames that the lower layer has accepted. -/
def transmissions (history : List Observation) : List Transmission :=
  history.filterMap Observation.transmission

/-- The payloads of the messages that pass all checks. -/
def received (history : List Observation) : List Bytes :=
  history.filterMap Observation.receipt

structure Duplex where
  initiator : Machine
  responder : Machine
  toInitiator : List Bytes
  toResponder : List Bytes
  deriving DecidableEq, Repr

namespace Duplex

def create : Duplex := ⟨Machine.create, Machine.create, [], []⟩

def machine (duplex : Duplex) : Party → Machine
  | .initiator => duplex.initiator
  | .responder => duplex.responder

/-- The messages on the way to a party. -/
def channel (duplex : Duplex) : Party → List Bytes
  | .initiator => duplex.toInitiator
  | .responder => duplex.toResponder

def setMachine (duplex : Duplex) (party : Party) (machine : Machine) : Duplex :=
  match party with
  | .initiator => { duplex with initiator := machine }
  | .responder => { duplex with responder := machine }

def setChannel (duplex : Duplex) (party : Party) (messages : List Bytes) : Duplex :=
  match party with
  | .initiator => { duplex with toInitiator := messages }
  | .responder => { duplex with toResponder := messages }

def trace (duplex : Duplex) (party : Party) : List Observation :=
  (duplex.machine party).layer.base.trace

/-- The messages of the frames that a layer has handed down since an earlier state. -/
def sentSince (before after : Machine) : List Bytes :=
  (transmissions (after.layer.base.trace.drop before.layer.base.trace.length)).map
    Transmission.written

def step (pairing : Pairing) (duplex : Duplex) : Party × Label → Option Duplex
  | (party, .receive message) =>
      match duplex.channel party with
      | [] => none
      | next :: rest =>
          if next = message then
            ((duplex.machine party).step (pairing.config party) (.receive message)).map
              (fun machine => (duplex.setMachine party machine).setChannel party rest)
          else none
  | (party, label) =>
      ((duplex.machine party).step (pairing.config party) label).map (fun machine =>
        (duplex.setMachine party machine).setChannel party.peer
          (duplex.channel party.peer ++ sentSince (duplex.machine party) machine))

def run (pairing : Pairing) (duplex : Duplex) (labels : List (Party × Label)) : Option Duplex :=
  Runs.run (step pairing) duplex labels

end Duplex

/-! ## Conditions on a step -/

namespace Machine

/-- If the step reads a message whose tag is right, then the message is in time: the session
that it belongs to has started, and its time to live has not passed. -/
def ReadsInTime (cfg : Config) (machine : Machine) (label : Label) : Prop :=
  let base := machine.layer.base
  ∀ env ∈ label.running, machine.stack.head? = some .tryReadFromLower → base.canRead →
    ∀ message ∈ base.lowerRx.head?, ∀ msg ∈ (SessionData.read message).toOption,
    let session := base.session (if msg.metadata.nonce = 0 then .pending else .active)
    session.valid = true →
    (SessionMode.read cfg.ctx.backend session.algorithms.sessionMode session.keys.rxKey msg
      cfg.ctx.payloadBufferLength).isOk = true →
    session.parameters.sessionStart ≤ env.now ∧
      env.now - session.parameters.sessionStart ≤ milliseconds msg.metadata.validUntilMs

/-- The initiator waits for the answer to the auth message of its pending session. -/
def awaitsAnswer (machine : Machine) : Bool :=
  machine.layer.initiator.handshakeState = .waitForAuthReply && machine.layer.base.pending.valid

/-- While it waits for the answer to its auth message, the initiator finds nothing to transmit
under its old session. -/
def Withholds (machine : Machine) (label : Label) : Prop :=
  ∀ _ ∈ label.running, machine.stack.head? = some .checkTransmit → machine.awaitsAnswer = true →
    machine.layer.base.canTransmitSessionData = false

/-- The timer that fires, if it is one that is armed. -/
def fires (machine : Machine) : Label → Option Timer
  | .timer id _ => machine.layer.initiator.timers.find? (fun timer => timer.id = id)
  | _ => none

/-- No response timer fires while the initiator waits for a message. -/
def Patient (machine : Machine) (label : Label) : Prop :=
  ∀ timer ∈ machine.fires label, timer.kind = .response →
    machine.layer.initiator.handshakeState ≠ .waitForBeginReply ∧
      machine.layer.initiator.handshakeState ≠ .waitForAuthReply

/-- If the step makes a responder accept an auth message, then the answer can be formatted. -/
def Answers (cfg : Config) (machine : Machine) (label : Label) : Prop :=
  let base := machine.layer.base
  ∀ env ∈ label.running, machine.stack.head? = some .tryReadFromLower →
    cfg.role.isResponder = true → base.canRead →
    ∀ message ∈ base.lowerRx.head?, ∀ msg ∈ (SessionData.read message).toOption,
    ∀ payload ∈ (SessionMode.read cfg.ctx.backend base.pending.algorithms.sessionMode
      base.pending.keys.rxKey msg cfg.ctx.payloadBufferLength).toOption,
    msg.metadata.nonce = 0 →
    Session.Accepts cfg.ctx SessionNonceMode.equalToZero base.pending msg env.now payload →
    base.pending.CanFormat cfg.ctx env.later base.txState.remainder

theorem Answers.answerFits {cfg : Config} {machine : Machine} {label : Label}
    (hanswers : machine.Answers cfg label) : machine.AnswerFits cfg label :=
  fun env henv hhead hrole hread _ => hanswers env henv hhead hrole hread

instance (cfg : Config) (machine : Machine) (label : Label) :
    Decidable (machine.ReadsInTime cfg label) :=
  inferInstanceAs (Decidable (∀ env ∈ label.running, _))

instance (machine : Machine) (label : Label) : Decidable (machine.Withholds label) :=
  inferInstanceAs (Decidable (∀ env ∈ label.running, _))

instance (machine : Machine) (label : Label) : Decidable (machine.Patient label) :=
  inferInstanceAs (Decidable (∀ timer ∈ machine.fires label, _))

instance (cfg : Config) (machine : Machine) (label : Label) :
    Decidable (machine.Answers cfg label) :=
  inferInstanceAs (Decidable (∀ env ∈ label.running, _))

end Machine

/-- The environment of a step, if it has one. -/
def Label.env? : Label → Option Env
  | .lowerOpen _ env | .lowerTxReady env | .timer _ env | .run env => some env
  | _ => none

/-- Both ends of a quantum key distribution hand out the keys of one store. -/
structure Env.KeysFrom (store : UInt64 → Option Bytes) (env : Env) : Prop where
  record : ∀ record ∈ env.keyRecord, ∀ key ∈ record.key, store record.id = some key
  lookup : ∀ id, ∀ secret ∈ env.findKey id, store id = some secret

namespace Duplex

/-- What a step is expected to meet: the lower layers stay open, messages are in time, and no
upper layer is closed. -/
structure Undisturbed (pairing : Pairing) (duplex : Duplex) (label : Party × Label) : Prop where
  stays : label.2.closes = false
  inTime : (duplex.machine label.1).ReadsInTime (pairing.config label.1) label.2
  upper : ∀ next ∈ duplex.step pairing label, .closed ∉ next.trace label.1

/-- What a step has to avoid so that a renegotiation loses nothing. -/
structure Orderly (pairing : Pairing) (duplex : Duplex) (label : Party × Label) : Prop where
  withholds : (duplex.machine label.1).Withholds label.2
  patient : (duplex.machine label.1).Patient label.2
  answers : (duplex.machine label.1).Answers (pairing.config label.1) label.2

instance (pairing : Pairing) (duplex : Duplex) (label : Party × Label) :
    Decidable (duplex.Undisturbed pairing label) :=
  decidable_of_iff (label.2.closes = false ∧
      (duplex.machine label.1).ReadsInTime (pairing.config label.1) label.2 ∧
      ∀ next ∈ duplex.step pairing label, .closed ∉ next.trace label.1)
    ⟨fun ⟨hstays, htime, hupper⟩ => ⟨hstays, htime, hupper⟩,
      fun ⟨hstays, htime, hupper⟩ => ⟨hstays, htime, hupper⟩⟩

instance (pairing : Pairing) (duplex : Duplex) (label : Party × Label) :
    Decidable (duplex.Orderly pairing label) :=
  decidable_of_iff ((duplex.machine label.1).Withholds label.2 ∧
      (duplex.machine label.1).Patient label.2 ∧
      (duplex.machine label.1).Answers (pairing.config label.1) label.2)
    ⟨fun ⟨hwithholds, hpatient, hanswers⟩ => ⟨hwithholds, hpatient, hanswers⟩,
      fun ⟨hwithholds, hpatient, hanswers⟩ => ⟨hwithholds, hpatient, hanswers⟩⟩

end Duplex

end Ssp21
