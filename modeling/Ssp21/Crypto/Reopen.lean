import Ssp21.Crypto.Alike

/-!
# Closing and reopening the cryptographic layer

A closed layer is alike to a new one if the close has stopped every timer: an initiator
then has no stray timers, and a responder never has one.
-/

namespace Ssp21

open Wire

/-! ## The members of an initiator in a responder -/

namespace Layer

variable {cfg : Config} {layer : Layer}

theorem onSessionNonceChange_responder (hrole : cfg.role.isResponder = true) (env : Env)
    (layer : Layer) : layer.onSessionNonceChange cfg env = layer := by
  unfold onSessionNonceChange
  split
  · rfl
  · rename_i config hinitiator
    rw [hinitiator] at hrole
    cases hrole

theorem onPreTxReady_responder (hrole : cfg.role.isResponder = true) (env : Env) (layer : Layer) :
    layer.onPreTxReady cfg env = layer := by
  unfold onPreTxReady
  split
  · rename_i config hinitiator
    rw [hinitiator] at hrole
    cases hrole
  · rfl

theorem replyWithHandshakeError_initiator (ctx : SessionContext) (error : HandshakeError) :
    (layer.replyWithHandshakeError ctx error).initiator = layer.initiator := by
  unfold replyWithHandshakeError
  split <;> rfl

theorem onRequest_initiator (ctx : SessionContext) (mode : ResponderMode) (env : Env)
    (msg : RequestHandshakeBegin) (rawMsg : Bytes) :
    (layer.onRequest ctx mode env msg rawMsg).initiator = layer.initiator := by
  unfold onRequest
  split_ifs
  · exact replyWithHandshakeError_initiator _ _
  · dsimp only
    split
    · exact replyWithHandshakeError_initiator _ _
    · rfl

theorem onAuthSession_initiator (ctx : SessionContext) (env : Env) (msg : SessionData) :
    (layer.onAuthSession ctx env msg).1.initiator = layer.initiator := by
  unfold onAuthSession
  split_ifs
  · exact replyWithHandshakeError_initiator _ _
  · dsimp only
    split
    · rfl
    · split <;> rfl

theorem onSessionData_initiator (hrole : cfg.role.isResponder = true) (env : Env)
    (msg : SessionData) : (layer.onSessionData cfg env msg).1.initiator = layer.initiator := by
  unfold onSessionData
  dsimp only
  split
  · rfl
  · rw [onSessionNonceChange_responder hrole]

theorem process_initiator (hrole : cfg.role.isResponder = true) (env : Env) (message : Bytes) :
    (layer.process cfg env message).1.initiator = layer.initiator := by
  have hnot {config : InitiatorConfig} (hinitiator : cfg.role = .initiator config) : False := by
    rw [hinitiator] at hrole
    cases hrole
  unfold process
  split
  · rfl
  · split
    · rename_i config _ hinitiator
      exact (hnot hinitiator).elim
    · rename_i config _ hinitiator
      exact (hnot hinitiator).elim
    · split
      · exact replyWithHandshakeError_initiator _ _
      · exact onRequest_initiator _ _ _ _ _
    · split
      · rfl
      · unfold onSessionMessage
        split_ifs
        · split
          · rename_i config hinitiator
            exact (hnot hinitiator).elim
          · exact onAuthSession_initiator _ _ _
        · exact onSessionData_initiator hrole _ _
    · rfl

theorem runTask_initiator (hrole : cfg.role.isResponder = true) (env : Env) {task : Task}
    (hidle : layer.initiator.handshakeState = .idle) {result : Layer × List Task}
    (hrun : layer.runTask cfg env task = some result) : result.1.initiator = layer.initiator := by
  cases ran_of_runTask hrun with
  | tryReadFromLower =>
      unfold tryReadFromLower
      split_ifs
      · rfl
      · split
        · rfl
        · split_ifs
          · rfl
          · exact process_initiator hrole _ _
  | checkTransmit =>
      unfold checkTransmit
      split_ifs
      · rfl
      · dsimp only
        split
        · rfl
        · rw [onSessionNonceChange_responder hrole]
  | noPayload => rfl
  | authPayload => rfl
  | enterIdle =>
      show { layer.initiator with handshakeState := .idle } = layer.initiator
      rw [← hidle]
  | afterClose => rfl

theorem onLowerTxReady_initiator (hrole : cfg.role.isResponder = true) (env : Env) :
    (layer.onLowerTxReady cfg env).1.initiator = layer.initiator := by
  unfold onLowerTxReady
  dsimp only
  rw [onPreTxReady_responder hrole]
  split_ifs <;> rfl

end Layer

namespace Machine

/-- A responder leaves the members of an initiator alone. -/
theorem responder_initiator {cfg : Config} (hrole : cfg.role.isResponder = true)
    {labels : List Label} {machine : Machine} (hrun : create.run cfg labels = some machine) :
    machine.layer.initiator = InitiatorState.create := by
  have hstep (state : Machine) (label : Label) (next : Machine)
      (hinv : state.layer.initiator = InitiatorState.create)
      (hnext : state.step cfg label = some next) :
      next.layer.initiator = InitiatorState.create := by
    cases steps_of_step hnext with
    | receive => exact hinv
    | lowerOpen layer ready env =>
        unfold Layer.onLowerOpen
        split_ifs
        · exact hinv
        · dsimp only
          split
          · rename_i config hinitiator
            rw [hinitiator] at hrole
            cases hrole
          · exact hinv
    | lowerClose layer ready =>
        unfold Layer.onLowerClose
        split_ifs
        · exact hinv
        · dsimp only
          split
          · rename_i config hinitiator
            rw [hinitiator] at hrole
            cases hrole
          · exact hinv
    | lowerTxReady layer env => exact (Layer.onLowerTxReady_initiator hrole env).trans hinv
    | lowerRxReady layer =>
        unfold Layer.onLowerRxReady
        split_ifs <;> exact hinv
    | @timer layer timer id env hfind hdue =>
        -- a responder has no timers
        rw [show layer.initiator.timers = [] by rw [hinv]; rfl] at hfind
        cases hfind
    | startRx => exact hinv
    | startTx => exact hinv
    | ret => exact hinv
    | @run layer task result stack env hrun =>
        exact (Layer.runTask_initiator hrole env (by rw [hinv]; rfl) hrun).trans hinv
  exact Runs.run_invariant (fun machine => machine.layer.initiator = InitiatorState.create)
    (fun state label next hinv _ hnext => hstep state label next hinv hnext) hrun
    (Runs.along_of_forall (fun _ _ => trivial) _ _) rfl

/-! ## The law -/

/-- A new layer over a lower layer that is ready or not, and has received messages. -/
def fresh (ready : Bool) (messages : List Bytes) : Machine :=
  ⟨⟨{ CryptoLayer.create with lowerTxReady := ready, lowerRx := messages },
    InitiatorState.create⟩, []⟩

/-- The lower layer closes the layer, and the upper layer returns from its callback
without a call. -/
def closing (machine : Machine) (ready : Bool) (env : Env) : List Label :=
  .lowerClose ready :: ((if machine.layer.base.upperOpen then [.ret] else []) ++ [.run env])

/-- A close of an open layer that has no stray timers leaves a layer like a new one. -/
theorem closed_alike {cfg : Config} {labels : List Label} {machine closed : Machine} {ready : Bool}
    {env : Env} (hrun : create.run cfg labels = some machine)
    (halong : Runs.Along (step cfg) (fun machine label => ¬ machine.ReadsNestedAnswer label) create
      labels)
    (hopen : machine.layer.base.isOpen = true)
    (hclose : machine.run cfg (machine.closing ready env) = some closed) :
    Alike cfg closed.layer.base.trace closed.layer.initiator.nextTimer closed
      (fresh ready closed.layer.base.lowerRx) := by
  obtain ⟨next, hstep, hrest⟩ := Runs.run_cons hclose
  obtain ⟨layer, stack⟩ := machine
  obtain ⟨rfl, ⟨⟩⟩ := Option.ite_none_right_eq_some.mp hstep
  have hopen' : layer.base.isOpen = true := hopen
  have hinitiator : InitiatorState.Alike cfg (layer.onLowerClose cfg ready).1.initiator.nextTimer
      (layer.onLowerClose cfg ready).1.initiator InitiatorState.create := by
    rw [Layer.onLowerClose, if_neg (by simp [hopen'])]
    dsimp only
    split
    · rename_i config hrole
      have htimers := (timersHeld_run hrole hrun halong).reset_timers
      exact .of_timers ⟨rfl, rfl, htimers, (Nat.zero_add _).symm⟩ rfl rfl
        (by simp [InitiatorState.create])
    · rename_i mode hrole
      rw [show layer.initiator = InitiatorState.create from
        responder_initiator (by rw [hrole]; rfl) hrun]
      exact .of_timers ⟨rfl, rfl, rfl, rfl⟩ rfl rfl (by simp [InitiatorState.create])
  rw [Layer.onLowerClose, if_neg (by simp [hopen'])] at hinitiator
  have hclosed : closed = ⟨⟨{ (layer.base.closeFromLower ready).closeUpper.1 with
      txState := TxState.idle, upperIsProcessingRxData := false },
      (layer.onLowerClose cfg ready).1.initiator⟩, []⟩ := by
    cases hup : layer.base.upperOpen <;>
      simpa [hup, Runs.run, step, push, Layer.onLowerClose, hopen', CryptoLayer.closeUpper,
        CryptoLayer.closeFromLower, CryptoLayer.resetBoth, Layer.runTask, eq_comm] using hrest
  rw [hclosed, Layer.onLowerClose, if_neg (by simp [hopen']), CryptoLayer.closeUpper_fst]
  refine ⟨⟨?_, hinitiator⟩, rfl⟩
  exact ⟨rfl, rfl, Or.inr ⟨rfl, rfl⟩, Or.inr ⟨rfl, rfl⟩, rfl, rfl, rfl, rfl, rfl,
    (List.append_nil _).symm⟩

/-- **A closed layer behaves as a new one.**  Take any history that ends in a close of an
open layer, the upper layer making no calls from inside its close callback, such that no
answer was read while an accepted auth message was being handled.  Whatever happens
later could have happened to a new layer over the same lower layer, and the other way
round, with the same frames, payloads and notifications; only timers have other names. -/
theorem reopened_layer_as_new (cfg : Config) {labels : List Label} {machine closed : Machine}
    {ready : Bool} {env : Env} (hrun : create.run cfg labels = some machine)
    (halong : Runs.Along (step cfg) (fun machine label => ¬ machine.ReadsNestedAnswer label) create
      labels)
    (hopen : machine.layer.base.isOpen = true)
    (hclose : machine.run cfg (machine.closing ready env) = some closed) :
    let new := fresh ready closed.layer.base.lowerRx
    let rename := Label.rename closed.layer.initiator.nextTimer
    (∀ later new', new.run cfg later = some new' →
      ∃ closed', closed.run cfg (later.map rename) = some closed' ∧
        closed'.layer.base.trace = closed.layer.base.trace ++ new'.layer.base.trace ∧
        closed'.stack = new'.stack) ∧
    (∀ later closed', closed.run cfg later = some closed' →
      ∃ later' new', later = later'.map rename ∧ new.run cfg later' = some new' ∧
        closed'.layer.base.trace = closed.layer.base.trace ++ new'.layer.base.trace ∧
        closed'.stack = new'.stack) := by
  have halike := closed_alike hrun halong hopen hclose
  refine ⟨?_, ?_⟩
  · intro later new' hlater
    obtain ⟨closed', hlater', hlayer, hstack⟩ := run_alike halike hlater
    exact ⟨closed', hlater', hlayer.base.trace, hstack⟩
  · intro later closed' hlater
    obtain ⟨later', new', hlabels, hlater', hlayer, hstack⟩ := run_alike_back halike hlater
    exact ⟨later', new', hlabels, hlater', hlayer.base.trace, hstack⟩

/-- The state behind a run from a state. -/
def behind (cfg : Config) (machine : Machine) (labels : List Label) : Machine :=
  (machine.run cfg labels).getD machine

/-- The state behind a run that ends in a close. -/
def shut (cfg : Config) (labels : List Label) : Machine :=
  (Sample.reached cfg labels).behind cfg
    ((Sample.reached cfg labels).closing false (Sample.env 1))

/-- The initiator is opened and completes a handshake. -/
def establishing : List Label :=
  Sample.authenticating ⟨100, 60000⟩ ++ [.lowerTxReady (Sample.env 1), .run (Sample.env 1),
    .run (Sample.env 1), .receive (TimersHeld.authReply ⟨100, 60000⟩), .lowerRxReady,
    .run (Sample.env 1), .ret, .run (Sample.env 1), .run (Sample.env 1), .run (Sample.env 1)]

theorem returning_run : create.run (Sample.initiator ⟨100, 60000⟩) TimersHeld.returning =
    some (Sample.reached (Sample.initiator ⟨100, 60000⟩) TimersHeld.returning) := by
  decide +kernel

theorem shut_run : (Sample.reached (Sample.initiator ⟨100, 60000⟩) TimersHeld.returning).run
    (Sample.initiator ⟨100, 60000⟩) ((Sample.reached (Sample.initiator ⟨100, 60000⟩)
      TimersHeld.returning).closing false (Sample.env 1)) =
    some (shut (Sample.initiator ⟨100, 60000⟩) TimersHeld.returning) := by
  decide +kernel

theorem establishing_run :
    (fresh false (shut (Sample.initiator ⟨100, 60000⟩) TimersHeld.returning).layer.base.lowerRx).run
      (Sample.initiator ⟨100, 60000⟩) establishing =
    some ((fresh false []).behind (Sample.initiator ⟨100, 60000⟩) establishing) := by
  decide +kernel

theorem reopened_layer_as_new_sample :
    let closed := shut (Sample.initiator ⟨100, 60000⟩) TimersHeld.returning
    let new := (fresh false []).behind (Sample.initiator ⟨100, 60000⟩) establishing
    new.layer.base.upperOpen = true ∧ closed.layer.initiator.nextTimer ≠ 0 ∧
      ∃ closed', closed.run (Sample.initiator ⟨100, 60000⟩)
          (establishing.map (Label.rename closed.layer.initiator.nextTimer)) = some closed' ∧
        closed'.layer.base.trace = closed.layer.base.trace ++ new.layer.base.trace ∧
        closed'.stack = new.stack :=
  ⟨by decide +kernel, by decide +kernel,
    (reopened_layer_as_new (Sample.initiator ⟨100, 60000⟩) returning_run (by decide +kernel)
      (by decide +kernel) shut_run).1 establishing _ establishing_run⟩

/-- An initiator that renegotiates early. -/
def eager : Config :=
  ⟨Sample.ctx 1000, .initiator ⟨⟨milliseconds 5000, milliseconds 5000, 60000, 2⟩, ⟨100, 60000⟩,
    .sharedSecret Sample.suite Sample.key⟩⟩

/-- Its upper layer reads inside the callback that opens it, which leaves a retry timer;
the next handshake gives the handle another value. -/
def straying : List Label :=
  TimersHeld.readingInside ++
    [.startTx [42], .run (Sample.env 1), .lowerTxReady (Sample.env 1), .ret,
    .run (Sample.env 1), .run (Sample.env 1)]

/-- Five seconds later. -/
def late : Env :=
  { Sample.env 1 with now := milliseconds 5000, later := milliseconds 5000 }

/-- The retry timer survives the close.  A new layer that goes through the same events has
no timer that is due, but the old one sends another request. -/
theorem stray_timer_after_reopen :
    let closed := shut eager straying
    let old := closed.behind eager establishing
    let new := (fresh false []).behind eager establishing
    (create.run eager straying = some (Sample.reached eager straying) ∧
      (Sample.reached eager straying).layer.base.isOpen = true ∧
      (Sample.reached eager straying).run eager
        ((Sample.reached eager straying).closing false (Sample.env 1)) = some closed) ∧
    (closed.run eager establishing = some old ∧
      (fresh false closed.layer.base.lowerRx).run eager establishing = some new ∧
      old.layer.base.trace = closed.layer.base.trace ++ new.layer.base.trace) ∧
    (∀ timer ∈ new.layer.initiator.timers, late.now < timer.due) ∧
    old.step eager (.timer 3 late) = some (old.behind eager [.timer 3 late]) ∧
      Sample.frame (old.behind eager [.timer 3 late]) 6 = Sample.request ⟨100, 60000⟩ ∧
      Sample.frame old 6 = [] := by
  decide +kernel

/-- A responder is closed, and its upper layer reads the request all the same. -/
def readingClosed : List Label :=
  [.lowerOpen true (Sample.env 2), .lowerClose true, .run (Sample.env 2),
    .receive (Sample.request ⟨100, 60000⟩), .startRx, .run (Sample.env 2), .run (Sample.env 2)]

/-- The layer is opened, and the auth message arrives. -/
def authArrives : List Label :=
  [.lowerOpen true (Sample.env 2), .receive (Sample.auth ⟨100, 60000⟩), .lowerRxReady,
    .run (Sample.env 2)]

/-- A close has to find the layer open.  Another close is ignored, so it leaves the session
of a request that was read in between; a new layer does not accept the auth message. -/
theorem pending_session_survives_second_close :
    let cfg := Sample.responder 1000
    let closed := (Sample.reached cfg readingClosed).behind cfg [.lowerClose true]
    create.run cfg (readingClosed ++ [.lowerClose true]) = some closed ∧
      (closed.behind cfg authArrives).layer.base.upperOpen = true ∧
      ((fresh closed.layer.base.lowerTxReady closed.layer.base.lowerRx).behind cfg
        authArrives).layer.base.upperOpen = false ∧
      ((fresh closed.layer.base.lowerTxReady closed.layer.base.lowerRx).run cfg
        authArrives).isSome = true := by
  decide +kernel

end Machine

end Ssp21
