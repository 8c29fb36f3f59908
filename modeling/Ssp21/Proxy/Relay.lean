import Ssp21.Crypto.Turns
import Ssp21.Proxy.Session
import Ssp21.Stack.LineAtRest

/-!
# The data path of a session

A session puts a full stack between two TCP sockets: `AsioLowerLayer` has the one that leads to the
other proxy, `AsioUpperLayer` the one of the application.  Both keep no data of their own.  A slice
that a socket has read stays in the buffer of the socket, which is free for the next read when the
stack has finished with the slice.

* `Relay.step`: what an event of the sockets, of the executor or of the stack makes of a session.
  What becomes of a session whose sockets fail is a matter of `Session`.
* `Paced`, `Sound`: the upper layer reads from the application exactly when it has the turn, and it
  is writing to the application exactly while the stack lends it a payload.
* `Awaits`: the lower layer reads from the line exactly when the link layer has used up everything.
-/

namespace Ssp21

open Wire Link

/-! ## Steps of a full stack, once more -/

theorem AbstractStack.trace_step {cfg : Config} {stack stack' : AbstractStack} {label : Label}
    (hstep : stack.step cfg label = some stack') :
    stack.machine.layer.base.trace <+: stack'.machine.layer.base.trace := by
  by_cases hstart : label = .startRx
  · subst hstart
    obtain ⟨-, heq⟩ := Option.ite_none_right_eq_some.mp hstep
    rw [← Option.some.inj heq]
    simp only [startRxFromUpper]
    split_ifs <;> simp [CryptoLayer.log]
  · rw [step.eq_2 cfg stack label hstart] at hstep
    obtain ⟨machine, hmachine, rfl⟩ := Option.map_eq_some_iff.mp hstep
    cases hcall : label.isCall with
    | false =>
        obtain ⟨new, htrace, -⟩ := Machine.own_step hmachine hcall
        exact ⟨new, htrace.symm⟩
    | true =>
        obtain ⟨⟨layer, tasks⟩, flag, due⟩ := stack
        cases Machine.steps_of_step hmachine with
        | startTx layer data =>
            simp only [CryptoLayer.startTxFromUpper]
            split_ifs <;> simp [CryptoLayer.log]
        | ret => exact List.prefix_rfl
        | startRx => exact absurd rfl hstart
        | _ => cases hcall

/-- A timer fires, or the layer below is ready again. -/
def Label.isTick : Label → Bool
  | .lowerTxReady _ | .timer _ _ => true
  | _ => false

/-- Neither does the stack go on, nor does a timer fire. -/
def Label.isPlain : Label → Bool
  | .run _ | .timer _ _ => false
  | _ => true

namespace FullStack

variable {cfg : Config} {full full' : FullStack} {label : Label}

/-- Without a call from above, the crypto layer makes a step on its own, or none. -/
theorem machine_step (hsteps : Steps cfg full label full') (hcall : label.isCall = false) :
    (label.isInput = true ∧ full'.stack = full.stack) ∨ ∃ messages,
      (full.stack.machine.withRx messages).step cfg label = some full'.stack.machine ∧
      full'.stack.upperIsProcessingRxData = full.stack.upperIsProcessingRxData := by
  have hforward {stack stack' : AbstractStack} (hstack : stack.step cfg label = some stack') :
      stack.machine.step cfg label = some stack'.machine ∧
        stack'.upperIsProcessingRxData = stack.upperIsProcessingRxData := by
    have hstart : label ≠ .startRx := by
      rintro rfl
      cases hcall
    rw [AbstractStack.step.eq_2 cfg stack label hstart] at hstack
    obtain ⟨machine, hmachine, rfl⟩ := Option.map_eq_some_iff.mp hstack
    exact ⟨hmachine, rfl⟩
  cases hsteps with
  | arrives => exact .inl ⟨rfl, rfl⟩
  | notifies hnotified hstack =>
      obtain ⟨hmachine, hflag⟩ := hforward hstack
      exact .inr ⟨full.stack.machine.layer.base.lowerRx, hmachine, hflag⟩
  | waits => exact .inl ⟨rfl, rfl⟩
  | passes hinput hstack =>
      obtain ⟨hmachine, hflag⟩ := hforward hstack
      exact .inr ⟨(full.below label).2, hmachine, hflag⟩

theorem isOpen_step (hsteps : Steps cfg full label full') (hstays : label.closes = false)
    (hcall : label.isCall = false) :
    full'.stack.machine.layer.base.isOpen =
      (full.stack.machine.layer.base.isOpen || label.opens) := by
  rcases machine_step hsteps hcall with ⟨hinput, hsame⟩ | ⟨messages, hmachine, -⟩
  · have hopens : label.opens = false := by
      cases label with
      | lowerOpen => cases hinput
      | _ => rfl
    rw [hsame, hopens, Bool.or_false]
  · have hopen := Machine.isOpen_step hmachine hstays
    exact hopen

/-- The link layer takes no part in a step of the timers, or when a frame has been sent. -/
theorem link_step (hsteps : Steps cfg full label full')
    (hlabel : label.isTick = true) : full'.link = full.link := by
  cases hsteps with
  | passes hinput hstack =>
      cases label with
      | lowerTxReady | timer => rfl
      | _ => cases hlabel
  | _ => cases hlabel

/-- A call from above stays above the link layer. -/
theorem call_step (hempty : full.stack.machine.layer.base.lowerRx = [])
    (hstep : full.step cfg label = some full') (hcall : label.isCall = true) :
    full.stack.step cfg label = some full'.stack ∧ full'.link = full.link := by
  have hbelow : full.below label = (full.link, []) := by
    cases label with
    | startRx | startTx | ret => rfl
    | _ => cases hcall
  cases steps_of_step hstep with
  | passes hinput hstack =>
      rw [hbelow, handed_nil hempty] at hstack
      exact ⟨hstack, by rw [hbelow]⟩
  | _ => cases hcall

/-- A stack that is not closed does not close its crypto layer. -/
theorem allCalls_stay {labels : List Label} (hrun : full.run cfg labels = some full')
    (hstays : ∀ label ∈ labels, label.closes = false) :
    ∀ label ∈ full.allCalls cfg labels, label.closes = false := by
  intro label hmem
  cases hinput : label.isInput with
  | true =>
      cases label with
      | lowerClose => cases hinput
      | _ => rfl
  | false =>
      have hother : label ∈ others (full.allCalls cfg labels) :=
        List.mem_filter.mpr ⟨hmem, by simp [hinput]⟩
      rw [others_allCalls hrun] at hother
      exact hstays label (List.mem_filter.mp hother).1

/-- The history of a stack only grows. -/
theorem trace_step (hstep : full.step cfg label = some full') :
    full.stack.machine.layer.base.trace <+: full'.stack.machine.layer.base.trace := by
  cases steps_of_step hstep with
  | arrives => exact List.prefix_rfl
  | notifies hnotified hstack => exact AbstractStack.trace_step hstack
  | waits => exact List.prefix_rfl
  | passes hinput hstack =>
      have hgrows := AbstractStack.trace_step hstack
      exact hgrows

theorem trace_run {labels : List Label} (hrun : full.run cfg labels = some full') :
    full.stack.machine.layer.base.trace <+: full'.stack.machine.layer.base.trace := by
  induction labels generalizing full with
  | nil =>
      cases hrun
      exact List.prefix_rfl
  | cons label labels ih =>
      obtain ⟨next, hstep, hrest⟩ := Runs.run_cons hrun
      exact (trace_step hstep).trans (ih hrest)

end FullStack

/-- Before it is opened, the layer stays as it is without a call from above. -/
theorem Machine.unopened_step {cfg : Config} {machine machine' : Machine} {label : Label}
    (hstep : machine.step cfg label = some machine') (hstays : label.closes = false)
    (hcall : label.isCall = false)
    (hunopened : machine.layer.base.isOpen = false →
      machine.stack = [] ∧ machine.layer.base.upperOpen = false)
    (hshut : machine'.layer.base.isOpen = false) :
    machine'.stack = [] ∧ machine'.layer.base.upperOpen = false := by
  have hopen := isOpen_step hstep hstays
  rw [hshut] at hopen
  obtain ⟨hbefore, hopens⟩ := Bool.or_eq_false_iff.mp hopen.symm
  obtain ⟨hrest, hupper⟩ := hunopened hbefore
  cases steps_of_step hstep with
  | receive => exact ⟨hrest, hupper⟩
  | lowerOpen => cases hopens
  | lowerClose => cases hstays
  | lowerTxReady layer env =>
      rw [Layer.onLowerTxReady, if_pos (by simpa [CryptoLayer.log] using hbefore)]
      exact ⟨rfl, hupper⟩
  | lowerRxReady layer =>
      rw [Layer.onLowerRxReady, if_neg (by simpa using hbefore)]
      exact ⟨rfl, hupper⟩
  | timer env => exact ⟨rfl, ((Layer.handshakes_confined _).onTimer env _).upperOpen.trans hupper⟩
  | startRx => cases hcall
  | startTx => cases hcall
  | ret => cases hcall
  | run => cases hrest

/-! ## A link layer that has looked for a frame -/

namespace LinkLayer

variable {localAddr : UInt16} {stream : Bytes} {taken : List LinkParser.Result} {layer : LinkLayer}

/-- A layer that has nothing left finds nothing. -/
theorem Standing.startRx_hasResult (h : Standing localAddr stream taken layer)
    (hdrained : layer.Drained) : (layer.step .startRx).1.parser.hasResult = false := by
  obtain ⟨hremainder, hlower⟩ := h.unparsed_eq_nil hdrained.parsed
  have hidle : layer.upperIsProcessingRxData = false := by
    cases h.place with
    | collecting front hidle => exact hidle
    | offered front result hidle => exact hidle
    | lent front result _ _ _ _ hread =>
        cases (LinkParser.hasResult_of_read hread).symm.trans hdrained.hasResult
  have huntouched : layer.Untouched := ⟨hlower, hremainder, hdrained.hasResult, hidle⟩
  rw [huntouched.startRx]
  exact hdrained.hasResult

end LinkLayer

namespace Proxy

/-! ## The sockets -/

/-- The sockets of a session.  Whether the one to the other proxy is writing is part of the stack:
`is_tx_ready` of the lower layer is `!get_is_tx_active()`. -/
structure Sockets where
  /-- `is_rx_active` of the socket to the other proxy -/
  lowerRx : Bool
  /-- the socket of the application, what was read from it and what was written to it -/
  upper : AsioTcpSocketWrapper
  taken : List Bytes
  given : List Bytes
  deriving DecidableEq, Repr

namespace Sockets

def create : Sockets := ⟨false, IAsioSocketWrapper.create, [], []⟩

/-- The socket of the application is read, and written. -/
def reading (sockets : Sockets) : Bool := sockets.upper.isActive.rx

def writing (sockets : Sockets) : Bool := sockets.upper.isActive.tx

/-- `start_rx_from_socket` of the application's socket. -/
def startRxFromSocket (sockets : Sockets) : Sockets :=
  { sockets with upper := IAsioSocketWrapper.start .rx sockets.upper }

/-- `start_tx_to_socket` of the application's socket, which may refuse the data. -/
def startTxToSocket (data : Bytes) (sockets : Sockets) : Sockets :=
  if !sockets.upper.isOpen || sockets.writing then sockets
  else { sockets with
    upper := IAsioSocketWrapper.start .tx sockets.upper
    given := sockets.given ++ [data] }

end Sockets

/-- What a read returns that succeeds: at least a byte, and not more than `rx_buffer` holds. -/
def Received (data : Bytes) : Prop :=
  data ≠ [] ∧ data.length ≤ minFrameSize + maxConfigPayloadSize

instance (data : Bytes) : Decidable (Received data) :=
  inferInstanceAs (Decidable (_ ∧ _))

namespace AsioUpperLayer

/-- `try_read_from_crypto`, behind the call of `start_rx_from_upper`. -/
def tryReadFromCrypto (stack : AbstractStack) (sockets : Sockets) : Sockets :=
  if stack.upperIsProcessingRxData then
    sockets.startTxToSocket stack.machine.layer.base.payloadData
  else sockets

/-- What a callback calls of the stack, before it returns. -/
def calls (sockets : Sockets) : Callback → List Label
  | .onLowerRxReady => if sockets.writing then [.ret] else [.startRx, .ret]
  | .onLowerOpen | .onLowerClose | .onLowerTxReady => [.ret]

/-- What a callback does with the socket; `stack` is behind the calls. -/
def handle (stack : AbstractStack) (sockets : Sockets) : Callback → Sockets
  | .onLowerOpen | .onLowerTxReady => sockets.startRxFromSocket
  | .onLowerRxReady => if sockets.writing then sockets else tryReadFromCrypto stack sockets
  | .onLowerClose => { sockets with upper := IAsioSocketWrapper.tryCloseSocket sockets.upper }

end AsioUpperLayer

/-- A callback is over. -/
theorem ret_cases {cfg : Config} {stack stack' : AbstractStack}
    (hstep : stack.step cfg .ret = some stack') :
    ∃ callback rest due, stack.machine.stack = .upper callback :: rest ∧
      stack' = ⟨⟨stack.machine.layer, rest⟩, stack.upperIsProcessingRxData, due⟩ := by
  obtain ⟨machine, hmachine, rfl⟩ := Option.map_eq_some_iff.mp hstep
  obtain ⟨⟨layer, tasks⟩, flag, due⟩ := stack
  cases Machine.steps_of_step hmachine with
  | ret layer rest callback => exact ⟨callback, rest, _, rfl, rfl⟩

/-- The upper layer reads: it enters the read loop, or it finds a payload. -/
theorem startRx_cases {cfg : Config} {stack stack' : AbstractStack}
    (hstep : stack.step cfg .startRx = some stack') :
    (stack'.machine.stack = .tryReadFromLower :: stack.machine.stack ∧
        stack'.machine.layer.base.payloadData = []) ∨
      (stack'.machine.stack = stack.machine.stack ∧ stack'.upperIsProcessingRxData = true ∧
        stack'.machine.layer.base.payloadData = stack.machine.layer.base.payloadData) := by
  obtain ⟨-, heq⟩ := Option.ite_none_right_eq_some.mp hstep
  rw [← Option.some.inj heq]
  simp only [AbstractStack.startRxFromUpper]
  split_ifs with hlent hempty hempty
  · exact .inl ⟨rfl, rfl⟩
  · exact absurd rfl hempty
  · exact .inl ⟨rfl, List.isEmpty_iff.mp hempty⟩
  · exact .inr ⟨rfl, rfl, rfl⟩

/-! ## The session -/

structure Relay where
  full : FullStack
  sockets : Sockets
  deriving DecidableEq, Repr

namespace Relay

inductive Event
  /-- `Session::start` -/
  | start (env : Env)
  /-- an operation on the socket to the other proxy, or on that of the application, succeeds -/
  | lowerRx (chunk : Bytes)
  | lowerTx (env : Env)
  | upperRx (data : Bytes)
  | upperTx
  /-- the executor calls the stack -/
  | timer (id : Nat) (env : Env)
  /-- the stack goes on, and calls its upper layer -/
  | run (env : Env)
  | callback

def create (localAddr remoteAddr : UInt16) : Relay :=
  ⟨FullStack.create localAddr remoteAddr, Sockets.create⟩

def base (relay : Relay) : CryptoLayer := relay.full.stack.machine.layer.base

/-- The stack has nothing left to do. -/
def rests (relay : Relay) : Bool := relay.full.stack.machine.stack.isEmpty

/-- The callback that the upper layer is in. -/
def callback? (relay : Relay) : Option Callback :=
  match relay.full.stack.machine.stack with
  | .upper callback :: _ => some callback
  | _ => none

/-- What the layers of the proxy call of the stack.  A session is started once, and handlers of the
sockets run while the stack is at rest. -/
def calls (relay : Relay) : Event → Option (List Label)
  | .start env => if relay.full.link.isOpen then none else some [.lowerOpen true env]
  | .lowerRx chunk =>
      if relay.rests = true ∧ relay.sockets.lowerRx = true ∧ Received chunk then
        some [.receive chunk, .lowerRxReady]
      else none
  | .lowerTx env =>
      if relay.full.link.isOpen = true ∧ relay.base.lowerTxReady = false then
        some [.lowerTxReady env]
      else none
  | .upperRx data =>
      if relay.rests = true ∧ relay.sockets.reading = true ∧ Received data then
        some [.startTx data]
      else none
  | .upperTx =>
      if relay.rests = true ∧ relay.sockets.writing = true then some [.startRx] else none
  | .timer id env => some [.timer id env]
  | .run env => some [.run env]
  | .callback => relay.callback?.map (AsioUpperLayer.calls relay.sockets)

/-- What becomes of the sockets; `full` is behind the calls.  `AsioLowerLayer` starts to read when
it is asked for data and has none, that is when the link layer has looked for a frame in vain. -/
def after (relay : Relay) (full : FullStack) : Event → Sockets
  | .start _ => { relay.sockets with lowerRx := true }
  | .lowerRx _ => { relay.sockets with
      lowerRx := relay.full.link.isOpen && !full.link.parser.hasResult }
  | .lowerTx _ | .timer _ _ => relay.sockets
  | .upperRx data => { relay.sockets with
      upper := IAsioSocketWrapper.complete .rx relay.sockets.upper
      taken := relay.sockets.taken ++ [data] }
  | .upperTx => AsioUpperLayer.tryReadFromCrypto full.stack { relay.sockets with
      upper := IAsioSocketWrapper.complete .tx relay.sockets.upper }
  | .run env => { relay.sockets with
      lowerRx := relay.sockets.lowerRx ||
        relay.full.stack.machine.asks (.run env) && !full.link.parser.hasResult }
  | .callback =>
      match relay.callback? with
      | none => relay.sockets
      | some callback => AsioUpperLayer.handle full.stack relay.sockets callback

def step (cfg : Config) (relay : Relay) (event : Event) : Option Relay :=
  (relay.calls event).bind fun calls =>
    (relay.full.run cfg calls).map fun full => ⟨full, relay.after full event⟩

def run (cfg : Config) (relay : Relay) (events : List Event) : Option Relay :=
  Runs.run (step cfg) relay events

theorem step_cases {cfg : Config} {relay relay' : Relay} {event : Event}
    (hstep : relay.step cfg event = some relay') :
    ∃ calls full, relay.calls event = some calls ∧ relay.full.run cfg calls = some full ∧
      relay' = ⟨full, relay.after full event⟩ := by
  obtain ⟨calls, hcalls, hstep⟩ := Option.bind_eq_some_iff.mp hstep
  obtain ⟨full, hfull, rfl⟩ := Option.map_eq_some_iff.mp hstep
  exact ⟨calls, full, hcalls, hfull, rfl⟩

/-- An event, with what it does to the stack and to the sockets.  A callback that reads has found a
payload, or else it would not be over. -/
inductive Steps (cfg : Config) (relay : Relay) : Event → Relay → Prop
  | start {env : Env} {full : FullStack} (hclosed : relay.full.link.isOpen = false)
      (hstep : relay.full.step cfg (.lowerOpen true env) = some full) :
      Steps cfg relay (.start env) ⟨full, { relay.sockets with lowerRx := true }⟩
  | lowerRx {chunk : Bytes} {full : FullStack} (hreads : relay.sockets.lowerRx = true)
      (hstep : FullStack.step cfg
        { relay.full with link := (relay.full.link.step (.arrive chunk)).1 } .lowerRxReady =
          some full) :
      Steps cfg relay (.lowerRx chunk) ⟨full, { relay.sockets with
        lowerRx := relay.full.link.isOpen && !full.link.parser.hasResult }⟩
  | lowerTx {env : Env} {full : FullStack}
      (hstep : relay.full.step cfg (.lowerTxReady env) = some full) :
      Steps cfg relay (.lowerTx env) ⟨full, relay.sockets⟩
  | upperRx {data : Bytes} {full : FullStack} (hrest : relay.full.stack.machine.stack = [])
      (hreading : relay.sockets.reading = true) (hdata : data ≠ [])
      (hstep : relay.full.stack.step cfg (.startTx data) = some full.stack)
      (hlink : full.link = relay.full.link) :
      Steps cfg relay (.upperRx data) ⟨full, relay.after full (.upperRx data)⟩
  | upperTx {full : FullStack} (hrest : relay.full.stack.machine.stack = [])
      (hwriting : relay.sockets.writing = true)
      (hstep : relay.full.stack.step cfg .startRx = some full.stack)
      (hlink : full.link = relay.full.link) :
      Steps cfg relay .upperTx ⟨full, relay.after full .upperTx⟩
  | timer {id : Nat} {env : Env} {full : FullStack}
      (hstep : relay.full.step cfg (.timer id env) = some full) :
      Steps cfg relay (.timer id env) ⟨full, relay.sockets⟩
  | run {env : Env} {full : FullStack} (hstep : relay.full.step cfg (.run env) = some full) :
      Steps cfg relay (.run env) ⟨full, relay.after full (.run env)⟩
  | returns {callback : Callback} {rest : List Task} {stack : AbstractStack} {due : Bool}
      (hhead : relay.full.stack.machine.stack = .upper callback :: rest)
      (hreads : callback = .onLowerRxReady → relay.sockets.writing = true)
      (hstack : stack = ⟨⟨relay.full.stack.machine.layer, rest⟩,
        relay.full.stack.upperIsProcessingRxData, due⟩) :
      Steps cfg relay .callback ⟨⟨relay.full.link, stack⟩,
        AsioUpperLayer.handle stack relay.sockets callback⟩
  | reads {rest : List Task} {stack : AbstractStack} {due : Bool}
      (hhead : relay.full.stack.machine.stack = .upper .onLowerRxReady :: rest)
      (hidle : relay.sockets.writing = false)
      (hstep : relay.full.stack.step cfg .startRx = some stack)
      (hsame : stack.machine.stack = relay.full.stack.machine.stack)
      (hlends : stack.upperIsProcessingRxData = true)
      (hpayload : stack.machine.layer.base.payloadData =
        relay.full.stack.machine.layer.base.payloadData)
      (hempty : stack.machine.layer.base.lowerRx = []) :
      Steps cfg relay .callback ⟨⟨relay.full.link,
        ⟨⟨stack.machine.layer, rest⟩, stack.upperIsProcessingRxData, due⟩⟩,
        AsioUpperLayer.tryReadFromCrypto stack relay.sockets⟩

theorem steps_of_callback {cfg : Config} {relay : Relay} {callback : Callback} {full : FullStack}
    (hempty : relay.base.lowerRx = []) (hcallback : relay.callback? = some callback)
    (hrun : relay.full.run cfg (AsioUpperLayer.calls relay.sockets callback) = some full) :
    Steps cfg relay .callback ⟨full, AsioUpperLayer.handle full.stack relay.sockets callback⟩ := by
  obtain ⟨rest, hhead⟩ : ∃ rest, relay.full.stack.machine.stack = .upper callback :: rest := by
    simp only [callback?] at hcallback
    split at hcallback
    · cases hcallback
      exact ⟨_, ‹_›⟩
    · cases hcallback
  -- a callback that only returns
  have hreturns (hrun : relay.full.run cfg [.ret] = some full)
      (hreads : callback = .onLowerRxReady → relay.sockets.writing = true) :
      Steps cfg relay .callback
        ⟨full, AsioUpperLayer.handle full.stack relay.sockets callback⟩ := by
    obtain ⟨⟨link, stack⟩, hstep, ⟨⟩⟩ := Runs.run_cons hrun
    obtain ⟨hret, rfl⟩ := FullStack.call_step hempty hstep rfl
    obtain ⟨_, _, due, hstack, hfull⟩ := ret_cases hret
    cases hhead.symm.trans hstack
    exact .returns hhead hreads hfull
  cases callback with
  | onLowerOpen | onLowerTxReady | onLowerClose => exact hreturns hrun (by rintro ⟨⟩)
  | onLowerRxReady =>
      simp only [AsioUpperLayer.calls] at hrun
      split_ifs at hrun with hwriting
      · exact hreturns hrun fun _ => hwriting
      · rw [AsioUpperLayer.handle, if_neg hwriting]
        obtain ⟨⟨link, middle⟩, hstart, hrun⟩ := Runs.run_cons hrun
        obtain ⟨⟨link', stack⟩, hstep, ⟨⟩⟩ := Runs.run_cons hrun
        have hempty' := (FullStack.step_refines hempty (FullStack.steps_of_step hstart)).2
        obtain ⟨hread, rfl⟩ := FullStack.call_step hempty hstart rfl
        obtain ⟨hret, rfl⟩ := FullStack.call_step hempty' hstep rfl
        obtain ⟨_, rest', due, hstack, rfl⟩ := ret_cases hret
        rcases startRx_cases hread with ⟨hpushed, -⟩ | ⟨hsame, hlends, hpayload⟩
        · cases hpushed.symm.trans hstack
        · cases hhead.symm.trans (hsame.symm.trans hstack)
          exact .reads hhead (by simpa using hwriting) hread hsame hlends hpayload hempty'

theorem steps_of_step {cfg : Config} {relay relay' : Relay} {event : Event}
    (hempty : relay.base.lowerRx = []) (hstep : relay.step cfg event = some relay') :
    Steps cfg relay event relay' := by
  obtain ⟨calls, full, hcalls, hrun, rfl⟩ := step_cases hstep
  cases event with
  | start env =>
      obtain ⟨hclosed, ⟨⟩⟩ := Option.ite_none_left_eq_some.mp hcalls
      obtain ⟨next, hfull, ⟨⟩⟩ := Runs.run_cons hrun
      exact .start (by simpa using hclosed) hfull
  | lowerRx chunk =>
      obtain ⟨⟨-, hreads, -⟩, ⟨⟩⟩ := Option.ite_none_right_eq_some.mp hcalls
      obtain ⟨middle, ⟨⟩, hrun⟩ := Runs.run_cons hrun
      obtain ⟨next, hfull, ⟨⟩⟩ := Runs.run_cons hrun
      exact .lowerRx hreads hfull
  | lowerTx env =>
      obtain ⟨-, ⟨⟩⟩ := Option.ite_none_right_eq_some.mp hcalls
      obtain ⟨next, hfull, ⟨⟩⟩ := Runs.run_cons hrun
      exact .lowerTx hfull
  | upperRx data =>
      obtain ⟨⟨hrest, hreading, hdata, -⟩, ⟨⟩⟩ := Option.ite_none_right_eq_some.mp hcalls
      obtain ⟨next, hfull, ⟨⟩⟩ := Runs.run_cons hrun
      obtain ⟨hstack, hlink⟩ := FullStack.call_step hempty hfull rfl
      exact .upperRx (List.isEmpty_iff.mp hrest) hreading hdata hstack hlink
  | upperTx =>
      obtain ⟨⟨hrest, hwriting⟩, ⟨⟩⟩ := Option.ite_none_right_eq_some.mp hcalls
      obtain ⟨next, hfull, ⟨⟩⟩ := Runs.run_cons hrun
      obtain ⟨hstack, hlink⟩ := FullStack.call_step hempty hfull rfl
      exact .upperTx (List.isEmpty_iff.mp hrest) hwriting hstack hlink
  | timer id env =>
      cases hcalls
      obtain ⟨next, hfull, ⟨⟩⟩ := Runs.run_cons hrun
      exact .timer hfull
  | run env =>
      cases hcalls
      obtain ⟨next, hfull, ⟨⟩⟩ := Runs.run_cons hrun
      exact .run hfull
  | callback =>
      obtain ⟨callback, hcallback, rfl⟩ := Option.map_eq_some_iff.mp hcalls
      simp only [after, hcallback]
      exact steps_of_callback hempty hcallback hrun

end Relay

/-! ## The side of the application -/

/-- The upper layer over a stack, as long as it is not closed. -/
structure Paced (stack : AbstractStack) (sockets : Sockets) : Prop where
  unclosed : .afterClose ∉ stack.machine.stack
  unshut : .upper .onLowerClose ∉ stack.machine.stack
  empty : stack.machine.layer.base.lowerRx = []
  isOpen : sockets.upper.isOpen = true
  unopened : stack.machine.layer.base.isOpen = false →
    (stack.machine.stack = [] ∧ stack.machine.layer.base.upperOpen = false) ∧
      stack.upperIsProcessingRxData = false
  turns : stack.machine.turns + sockets.reading.toNat = stack.machine.layer.base.upperOpen.toNat
  taken : submitted stack.machine.layer.base.trace = sockets.taken
  given : reads stack.machine.layer.base.trace = sockets.given

namespace Paced

variable {cfg : Config} {full full' : FullStack} {stack stack' : AbstractStack} {label : Label}
  {sockets : Sockets}

/-- Without a call from above. -/
theorem step (hpaced : Paced full.stack sockets) (hstep : full.step cfg label = some full')
    (hstays : label.closes = false) (hcall : label.isCall = false)
    (hupper : .closed ∉ full'.stack.machine.layer.base.trace) :
    Paced full'.stack sockets := by
  have hsteps := FullStack.steps_of_step hstep
  have hempty := (FullStack.step_refines hpaced.empty hsteps).2
  rcases FullStack.machine_step hsteps hcall with ⟨-, hsame⟩ | ⟨messages, hmachine, hflag⟩
  · rwa [hsame]
  · obtain ⟨hsubmitted, hreads⟩ := Machine.submitted_reads_step hmachine hcall
    exact {
      unclosed := Machine.unclosed_step hmachine hstays hpaced.unclosed
      unshut := Machine.unshut_step hmachine hstays hupper hpaced.unshut
      empty := hempty
      isOpen := hpaced.isOpen
      unopened hshut := by
        have hbefore : full.stack.machine.layer.base.isOpen = false := by
          have hopen := Machine.isOpen_step hmachine hstays
          rw [hshut] at hopen
          exact (Bool.or_eq_false_iff.mp hopen.symm).1
        exact ⟨Machine.unopened_step hmachine hstays hcall (fun h => (hpaced.unopened h).1) hshut,
          hflag.trans (hpaced.unopened hbefore).2⟩
      turns := Machine.turns_step hmachine hstays hcall hpaced.unclosed hupper hpaced.turns
      taken := hsubmitted.trans hpaced.taken
      given := hreads.trans hpaced.given }

theorem lowerRx (hpaced : Paced stack sockets) (lowerRx : Bool) :
    Paced stack { sockets with lowerRx := lowerRx } :=
  ⟨hpaced.unclosed, hpaced.unshut, hpaced.empty, hpaced.isOpen, hpaced.unopened, hpaced.turns,
    hpaced.taken, hpaced.given⟩

/-- While the socket is read the stack has nothing of it, and takes what is read. -/
theorem idle (hpaced : Paced stack sockets) (hreading : sockets.reading = true) :
    stack.machine.layer.base.isTxReady = true ∧ stack.machine.stack.countP Task.grants = 0 := by
  have hturns := hpaced.turns
  have hone := stack.machine.layer.base.upperOpen.toNat_le
  rw [hreading, Bool.toNat_true, Machine.turns] at hturns
  have hupper : stack.machine.layer.base.upperOpen = true := by
    rw [← Bool.toNat_eq_one]
    omega
  have hidle : stack.machine.layer.base.txState.isIdle = true := by
    have hnone : (!stack.machine.layer.base.txState.isIdle).toNat = 0 := by omega
    simpa using hnone
  have hopen : stack.machine.layer.base.isOpen = true := by
    by_contra hshut
    rw [Bool.not_eq_true] at hshut
    cases hupper.symm.trans (hpaced.unopened hshut).1.2
  refine ⟨by simp [CryptoLayer.isTxReady, hopen, hupper, hidle], by omega⟩

/-- What is read from the socket is submitted. -/
theorem submit (hpaced : Paced stack sockets) (hreading : sockets.reading = true) {data : Bytes}
    (hdata : data ≠ []) (hstep : stack.step cfg (.startTx data) = some stack') :
    Paced stack' { sockets with
      upper := IAsioSocketWrapper.complete .rx sockets.upper
      taken := sockets.taken ++ [data] } := by
  obtain ⟨hready, hgrants⟩ := hpaced.idle hreading
  obtain ⟨machine, hmachine, rfl⟩ := Option.map_eq_some_iff.mp hstep
  obtain ⟨-, ⟨⟩⟩ := Option.ite_none_right_eq_some.mp hmachine
  have hupper : stack.machine.layer.base.upperOpen = true := by
    simp only [CryptoLayer.isTxReady, Bool.and_eq_true] at hready
    exact hready.1.2
  rw [CryptoLayer.startTxFromUpper, if_pos hready]
  exact {
    unclosed := by simpa [Machine.push] using hpaced.unclosed
    unshut := by simpa [Machine.push] using hpaced.unshut
    empty := hpaced.empty
    isOpen := hpaced.isOpen
    unopened := fun hshut => by
      cases hupper.symm.trans (hpaced.unopened hshut).1.2
    turns := by
      simp [Machine.turns, Machine.push, CryptoLayer.log, TxState.initializeWith, TxState.isIdle,
        Task.grants, hgrants, hdata, hupper, Sockets.reading,
        IAsioSocketWrapper.complete, Flags.set]
    taken := by
      rw [← hpaced.taken]
      exact submitted_append _ _
    given := by
      rw [← hpaced.given]
      exact (reads_append _ _).trans (List.append_nil _) }

/-- Behind a callback, with the turn that it gives or without. -/
theorem popped (hpaced : Paced stack sockets) {task : Task} {rest : List Task}
    (hstack : stack.machine.stack = task :: rest) {sockets' : Sockets} (due : Bool)
    (hopen : sockets'.upper.isOpen = true)
    (hturns : sockets'.reading.toNat = task.grants.toNat + sockets.reading.toNat)
    (htaken : sockets'.taken = sockets.taken) (hgiven : sockets'.given = sockets.given) :
    Paced ⟨⟨stack.machine.layer, rest⟩, stack.upperIsProcessingRxData, due⟩ sockets' where
  unclosed hmem := hpaced.unclosed (hstack ▸ List.mem_cons_of_mem _ hmem)
  unshut hmem := hpaced.unshut (hstack ▸ List.mem_cons_of_mem _ hmem)
  empty := hpaced.empty
  isOpen := hopen
  unopened hshut := by
    cases hstack.symm.trans (hpaced.unopened hshut).1.1
  turns := by
    have hbefore := hpaced.turns
    simp only [Machine.turns, hstack, List.countP_cons] at hbefore ⊢
    cases hgrants : task.grants <;> simp only [hgrants, Bool.toNat_true, Bool.toNat_false, if_true,
      Bool.false_eq_true, if_false] at hbefore hturns <;> omega
  taken := hpaced.taken.trans htaken.symm
  given := hpaced.given.trans hgiven.symm

/-- A turn is given to an upper layer that does not have it, and reads from the socket. -/
theorem granted (hpaced : Paced stack sockets) {callback : Callback} {rest : List Task}
    (hstack : stack.machine.stack = .upper callback :: rest)
    (hgrants : (Task.upper callback).grants = true) (due : Bool) :
    Paced ⟨⟨stack.machine.layer, rest⟩, stack.upperIsProcessingRxData, due⟩
      sockets.startRxFromSocket := by
  have hidle : sockets.reading = false := by
    have hturns := hpaced.turns
    have hone := stack.machine.layer.base.upperOpen.toNat_le
    simp only [Machine.turns, hstack, List.countP_cons, hgrants, if_true] at hturns
    rw [← Bool.toNat_eq_zero]
    omega
  have hstart : sockets.startRxFromSocket.upper = { sockets.upper with
      isActive := sockets.upper.isActive.set .rx true } := by
    simp only [Sockets.startRxFromSocket, IAsioSocketWrapper.start]
    rw [if_neg]
    simpa [hpaced.isOpen, Flags.get, Sockets.reading] using hidle
  refine hpaced.popped hstack due ?_ ?_ rfl rfl
  · rw [hstart]
    exact hpaced.isOpen
  · rw [Sockets.reading, hstart, hgrants, hidle]
    rfl

/-- The upper layer reads while it does not write: the payload that is returned is written. -/
theorem tryRead (hpaced : Paced stack sockets) (hopen : stack.machine.layer.base.isOpen = true)
    (hidle : sockets.writing = false) (hstep : stack.step cfg .startRx = some stack') :
    Paced stack' (AsioUpperLayer.tryReadFromCrypto stack' sockets) ∧
      (AsioUpperLayer.tryReadFromCrypto stack' sockets).writing =
        stack'.upperIsProcessingRxData := by
  obtain ⟨-, ⟨⟩⟩ := Option.ite_none_right_eq_some.mp hstep
  have hstill (hshut : stack.machine.layer.base.isOpen = false) : False := by
    cases hopen.symm.trans hshut
  simp only [AbstractStack.startRxFromUpper]
  generalize hbase : (if stack.upperIsProcessingRxData then
    { stack.machine.layer.base with payloadData := [] } else stack.machine.layer.base) = base
  have hsame : base = { stack.machine.layer.base with payloadData := base.payloadData } := by
    rw [← hbase]
    split_ifs <;> rfl
  rw [hsame]
  dsimp only
  split_ifs
  · simp only [AsioUpperLayer.tryReadFromCrypto, Bool.false_eq_true, if_false]
    refine ⟨⟨by simpa using hpaced.unclosed, by simpa using hpaced.unshut, hpaced.empty,
      hpaced.isOpen, fun hshut => (hstill hshut).elim, ?_, hpaced.taken, hpaced.given⟩, hidle⟩
    simpa [Machine.turns, Task.grants] using hpaced.turns
  · simp only [AsioUpperLayer.tryReadFromCrypto, if_true, Sockets.startTxToSocket]
    rw [if_neg (by simp [hpaced.isOpen, hidle])]
    have hstart : IAsioSocketWrapper.start .tx sockets.upper = { sockets.upper with
        isActive := sockets.upper.isActive.set .tx true } := by
      simp only [IAsioSocketWrapper.start]
      rw [if_neg]
      simpa [hpaced.isOpen, Flags.get, Sockets.writing] using hidle
    rw [hstart]
    refine ⟨⟨hpaced.unclosed, hpaced.unshut, hpaced.empty, hpaced.isOpen,
      fun hshut => (hstill hshut).elim, hpaced.turns, ?_, ?_⟩, rfl⟩
    · rw [← hpaced.taken]
      exact (submitted_append _ _).trans (List.append_nil _)
    · rw [← hpaced.given]
      exact reads_append _ _

end Paced

namespace Relay

theorem unclosed_step {cfg : Config} {relay relay' : Relay} {event : Event}
    (hstep : relay.step cfg event = some relay') (hupper : .closed ∉ relay'.base.trace) :
    .closed ∉ relay.base.trace := by
  obtain ⟨calls, full, -, hfull, rfl⟩ := step_cases hstep
  exact fun hmem => hupper ((FullStack.trace_run hfull).subset hmem)

/-- A session as long as its upper layer is not closed. -/
structure Sound (relay : Relay) : Prop where
  paced : Paced relay.full.stack relay.sockets
  lent : relay.sockets.writing = relay.full.stack.upperIsProcessingRxData

theorem create_sound (localAddr remoteAddr : UInt16) : Sound (create localAddr remoteAddr) where
  paced := ⟨List.not_mem_nil, List.not_mem_nil, rfl, rfl, fun _ => ⟨⟨rfl, rfl⟩, rfl⟩, rfl, rfl, rfl⟩
  lent := rfl

section Step

variable {cfg : Config} {relay relay' : Relay}

/-- The stack goes on, and the application's socket stays as it is. -/
theorem Sound.passes (hsound : Sound relay) {label : Label} (hstays : label.closes = false)
    (hcall : label.isCall = false) {full : FullStack}
    (hstep : relay.full.step cfg label = some full)
    (hupper : .closed ∉ full.stack.machine.layer.base.trace) (lowerRx : Bool) :
    Sound ⟨full, { relay.sockets with lowerRx := lowerRx }⟩ := by
  refine ⟨(hsound.paced.step hstep hstays hcall hupper).lowerRx lowerRx, hsound.lent.trans ?_⟩
  rcases FullStack.machine_step (FullStack.steps_of_step hstep) hcall with
    ⟨-, hsame⟩ | ⟨messages, -, hflag⟩
  · rw [hsame]
  · exact hflag.symm

/-- A callback that only returns. -/
theorem Sound.returns (hsound : Sound relay) {callback : Callback} {rest : List Task}
    (hhead : relay.full.stack.machine.stack = .upper callback :: rest)
    (hreads : callback = .onLowerRxReady → relay.sockets.writing = true) (due : Bool)
    (stack : AbstractStack) :
    Sound ⟨⟨relay.full.link, ⟨⟨relay.full.stack.machine.layer, rest⟩,
      relay.full.stack.upperIsProcessingRxData, due⟩⟩,
      AsioUpperLayer.handle stack relay.sockets callback⟩ := by
  obtain ⟨hpaced, hlent⟩ := hsound
  cases callback with
  | onLowerOpen | onLowerTxReady =>
      refine ⟨hpaced.granted hhead rfl due, Eq.trans ?_ hlent⟩
      simp only [AsioUpperLayer.handle, Sockets.startRxFromSocket, IAsioSocketWrapper.start,
        Sockets.writing]
      split_ifs <;> rfl
  | onLowerClose => exact absurd (hhead ▸ List.mem_cons_self) hpaced.unshut
  | onLowerRxReady =>
      rw [AsioUpperLayer.handle, if_pos (hreads rfl)]
      exact ⟨hpaced.popped hhead due hpaced.isOpen (by simp [Task.grants]) rfl rfl, hlent⟩

theorem sound_step {event : Event} (hsound : Sound relay)
    (hstep : relay.step cfg event = some relay') (hupper : .closed ∉ relay'.base.trace) :
    Sound relay' := by
  have hpaced := hsound.paced
  cases steps_of_step hpaced.empty hstep with
  | start hclosed hfull => exact hsound.passes rfl rfl hfull hupper true
  | @lowerRx chunk full hreads hfull =>
      have harrived : Sound ⟨{ relay.full with link := (relay.full.link.step (.arrive chunk)).1 },
          relay.sockets⟩ := ⟨hsound.paced, hsound.lent⟩
      exact harrived.passes rfl rfl hfull hupper _
  | lowerTx hfull | timer hfull => exact hsound.passes rfl rfl hfull hupper relay.sockets.lowerRx
  | run hfull => exact hsound.passes rfl rfl hfull hupper _
  | upperRx hrest hreading hdata hcall =>
      refine ⟨hpaced.submit hreading hdata hcall, hsound.lent.trans ?_⟩
      obtain ⟨machine, -, hstack⟩ := Option.map_eq_some_iff.mp hcall
      rw [← hstack]
  | upperTx hrest hwriting hcall =>
      have hopen : relay.full.stack.machine.layer.base.isOpen = true := by
        by_contra hshut
        rw [Bool.not_eq_true] at hshut
        cases (hwriting.symm.trans hsound.lent).trans (hpaced.unopened hshut).2
      have hwritten : Paced relay.full.stack { relay.sockets with
          upper := IAsioSocketWrapper.complete .tx relay.sockets.upper } :=
        ⟨hpaced.unclosed, hpaced.unshut, hpaced.empty, hpaced.isOpen, hpaced.unopened, hpaced.turns,
          hpaced.taken, hpaced.given⟩
      obtain ⟨hpaced', hlent⟩ := hwritten.tryRead hopen rfl hcall
      exact ⟨hpaced', hlent⟩
  | returns hhead hreads hstack =>
      subst hstack
      exact hsound.returns hhead hreads _ _
  | reads hhead hidle hcall hsame =>
      have hopen : relay.full.stack.machine.layer.base.isOpen = true := by
        by_contra hshut
        rw [Bool.not_eq_true] at hshut
        cases hhead.symm.trans (hpaced.unopened hshut).1.1
      obtain ⟨hpaced', hlent⟩ := hpaced.tryRead hopen hidle hcall
      exact ⟨hpaced'.popped (hsame.trans hhead) _ hpaced'.isOpen (by simp [Task.grants]) rfl rfl,
        hlent⟩

end Step

/-- An upper layer that is not closed at the end of a run is not closed in it. -/
theorem run_invariant {cfg : Config} {P : Relay → Prop} {events : List Event} {start relay : Relay}
    (hstep : ∀ before event after, P before → step cfg before event = some after →
      .closed ∉ after.base.trace → P after)
    (hstart : P start) (hrun : start.run cfg events = some relay)
    (hupper : .closed ∉ relay.base.trace) : P relay := by
  induction events using List.reverseRecOn generalizing relay with
  | nil =>
      cases hrun
      exact hstart
  | append_singleton events event ih =>
      obtain ⟨middle, hfirst, hlast⟩ := Runs.run_of_append hrun
      obtain ⟨next, hevent, ⟨⟩⟩ := Runs.run_cons hlast
      exact hstep middle event relay (ih hfirst (unclosed_step hevent hupper)) hevent hupper

theorem sound_run {cfg : Config} {localAddr remoteAddr : UInt16} {events : List Event}
    {relay : Relay} (hrun : (create localAddr remoteAddr).run cfg events = some relay)
    (hupper : .closed ∉ relay.base.trace) : Sound relay :=
  run_invariant (fun _ _ _ hsound hstep => sound_step hsound hstep)
    (create_sound localAddr remoteAddr) hrun hupper

/-! ## The side of the line -/

/-- The lower layer under a link layer: it reads exactly when the link layer has used up everything,
whatever the bytes are. -/
structure Awaits (localAddr : UInt16) (relay : Relay) : Prop where
  standing : ∃ stream taken, LinkLayer.Standing localAddr stream taken relay.full.link
  agrees : relay.full.link.isOpen = relay.base.isOpen
  unopened : relay.full.link.isOpen = false → relay.full.link.Untouched
  reads : relay.sockets.lowerRx = true ↔ relay.full.link.isOpen = true ∧ relay.full.link.Drained

theorem create_awaits (localAddr remoteAddr : UInt16) :
    Awaits localAddr (create localAddr remoteAddr) where
  standing := ⟨[], [], LinkLayer.create_standing localAddr remoteAddr⟩
  agrees := rfl
  unopened _ := ⟨rfl, rfl, rfl, rfl⟩
  reads := ⟨by rintro ⟨⟩, by rintro ⟨⟨⟩, -⟩⟩

section Await

variable {cfg : Config} {localAddr : UInt16} {relay relay' : Relay}

/-- The link layer is left alone. -/
theorem Awaits.of_link (hawaits : Awaits localAddr relay)
    (hlink : relay'.full.link = relay.full.link) (hopen : relay'.base.isOpen = relay.base.isOpen)
    (hsockets : relay'.sockets.lowerRx = relay.sockets.lowerRx) : Awaits localAddr relay' where
  standing := by rw [hlink]; exact hawaits.standing
  agrees := by rw [hlink, hopen]; exact hawaits.agrees
  unopened := by rw [hlink]; exact hawaits.unopened
  reads := by rw [hlink, hsockets]; exact hawaits.reads

theorem tryReadFromCrypto_lowerRx (stack : AbstractStack) (sockets : Sockets) :
    (AsioUpperLayer.tryReadFromCrypto stack sockets).lowerRx = sockets.lowerRx := by
  simp only [AsioUpperLayer.tryReadFromCrypto, Sockets.startTxToSocket]
  split_ifs <;> rfl

theorem handle_lowerRx (stack : AbstractStack) (sockets : Sockets) (callback : Callback) :
    (AsioUpperLayer.handle stack sockets callback).lowerRx = sockets.lowerRx := by
  cases callback with
  | onLowerRxReady =>
      simp only [AsioUpperLayer.handle]
      split_ifs
      · rfl
      · exact tryReadFromCrypto_lowerRx stack sockets
  | _ => rfl

/-- The crypto layer asks for a message; if there is none, then the socket is read. -/
theorem Awaits.asks (hawaits : Awaits localAddr relay) (hsound : Sound relay) {env : Env}
    (hasks : relay.full.stack.machine.asks (.run env) = true) {full : FullStack}
    (hopen : full.stack.machine.layer.base.isOpen = relay.base.isOpen)
    (hlink : full.link = (relay.full.link.step .startRx).1) :
    Awaits localAddr ⟨full, relay.after full (.run env)⟩ := by
  obtain ⟨stream, taken, hstanding⟩ := hawaits.standing
  have hsame : full.link.isOpen = relay.full.link.isOpen := by
    rw [hlink, LinkLayer.startRx_isOpen]
  -- a layer that has something to do is open
  have hstarted : relay.full.link.isOpen = true := by
    rw [hawaits.agrees]
    by_contra hshut
    rw [Bool.not_eq_true] at hshut
    have hrest := (hsound.paced.unopened hshut).1.1
    simp [Machine.asks, hrest] at hasks
  exact {
    standing := by
      rw [hlink]
      cases hstanding.startRx with
      | delivers result _ _ hnext => exact ⟨stream, taken ++ [result], hnext⟩
      | stays _ hnext => exact ⟨stream, taken, hnext⟩
    agrees := by
      rw [hsame, hawaits.agrees]
      exact hopen.symm
    unopened := fun hclosed => by cases (hsame.symm.trans hclosed).symm.trans hstarted
    reads := by
      change (relay.sockets.lowerRx || relay.full.stack.machine.asks (.run env) &&
        !full.link.parser.hasResult) = true ↔ _
      rw [hasks, Bool.true_and, Bool.or_eq_true, Bool.not_eq_true', hsame, hlink]
      constructor
      · rintro (hreads | hnone)
        · have hnone := hstanding.startRx_hasResult (hawaits.reads.mp hreads).2
          exact ⟨hstarted, hstanding.startRx_drained hnone⟩
        · exact ⟨hstarted, hstanding.startRx_drained hnone⟩
      · exact fun hawait => .inr hawait.2.hasResult }

theorem awaits_step {event : Event} (hawaits : Awaits localAddr relay) (hsound : Sound relay)
    (hstep : relay.step cfg event = some relay') : Awaits localAddr relay' := by
  obtain ⟨stream, taken, hstanding⟩ := hawaits.standing
  -- a call from above does not open or close anything
  have hcalled {label : Label} {stack : AbstractStack}
      (hcall : relay.full.stack.step cfg label = some stack) (hstays : label.closes = false)
      (hopens : label.opens = false) : stack.machine.layer.base.isOpen = relay.base.isOpen := by
    rw [AbstractStack.isOpen_step hcall hstays hsound.paced.unclosed, hopens, Bool.or_false]
    rfl
  cases steps_of_step hsound.paced.empty hstep with
  | @start env full hclosed hfull =>
      have hsteps := FullStack.steps_of_step hfull
      have hopen : full.stack.machine.layer.base.isOpen = (relay.base.isOpen || true) :=
        FullStack.isOpen_step hsteps rfl rfl
      have hlink : full.link = relay.full.link.onLowerOpen := by
        cases hsteps with
        | passes => rfl
      have hdrained := (hawaits.unopened hclosed).drained.onLowerOpen
      exact {
        standing := ⟨stream, taken, hlink ▸ hstanding.onLowerOpen⟩
        agrees := by
          rw [Bool.or_true] at hopen
          rw [hlink]
          exact hopen.symm
        unopened := by
          rw [hlink]
          rintro ⟨⟩
        reads := by
          rw [hlink]
          exact iff_of_true rfl ⟨rfl, hdrained⟩ }
  | @lowerRx chunk full hreads hfull =>
      obtain ⟨hopen, hdrained⟩ := hawaits.reads.mp hreads
      have hsteps := FullStack.steps_of_step hfull
      have hstill : full.stack.machine.layer.base.isOpen = (relay.base.isOpen || false) :=
        FullStack.isOpen_step hsteps rfl rfl
      have harrived := hstanding.arrive chunk
      have hopen' : (relay.full.link.step (.arrive chunk)).1.isOpen = true := by
        simp only [LinkLayer.step]
        split_ifs <;> exact hopen
      have hlink : full.link = ((relay.full.link.step (.arrive chunk)).1.step .rxReady).1 := by
        cases hsteps with
        | notifies => rfl
        | waits => rfl
        | passes hinput => cases hinput
      have hafter : full.link.isOpen = true := by
        rw [hlink, LinkLayer.rxReady_isOpen]
        exact hopen'
      exact {
        standing := ⟨_, taken, hlink ▸ harrived.rxReady⟩
        agrees := by
          rw [← hawaits.agrees, hopen] at hstill
          exact hafter.trans hstill.symm
        unopened := fun hclosed => by cases hafter.symm.trans hclosed
        reads := by
          rw [hopen, Bool.true_and, Bool.not_eq_true']
          refine ⟨fun hnone => ⟨hafter, ?_⟩, fun hawait => hawait.2.hasResult⟩
          rw [hlink] at hnone ⊢
          exact harrived.rxReady_drained hopen' hnone }
  | lowerTx hfull | timer hfull =>
      have hsteps := FullStack.steps_of_step hfull
      exact hawaits.of_link (FullStack.link_step hsteps rfl)
        ((FullStack.isOpen_step hsteps rfl rfl).trans (Bool.or_false _)) rfl
  | @run env full hfull =>
      have hsteps := FullStack.steps_of_step hfull
      have hopen : full.stack.machine.layer.base.isOpen = relay.base.isOpen :=
        (FullStack.isOpen_step hsteps rfl rfl).trans (Bool.or_false _)
      have hlink : full.link = (relay.full.below (.run env)).1 := by
        cases hsteps with
        | passes => rfl
      cases hasks : relay.full.stack.machine.asks (.run env) with
      | false =>
          refine hawaits.of_link ?_ hopen ?_
          · rw [hlink]
            simp only [FullStack.below, hasks, Bool.false_eq_true, if_false]
          · simp only [after, hasks, Bool.false_and, Bool.or_false]
      | true => exact hawaits.asks hsound hasks hopen (by
          rw [hlink]
          simp only [FullStack.below, hasks, if_true])
  | upperRx hrest hreading hdata hcall hlink =>
      exact hawaits.of_link hlink (hcalled hcall rfl rfl) rfl
  | upperTx hrest hwriting hcall hlink =>
      exact hawaits.of_link hlink (hcalled hcall rfl rfl) (tryReadFromCrypto_lowerRx _ _)
  | returns hhead hreads hstack =>
      subst hstack
      exact hawaits.of_link rfl rfl (handle_lowerRx _ _ _)
  | reads hhead hidle hcall =>
      have hopen := hcalled hcall rfl rfl
      exact hawaits.of_link rfl hopen (tryReadFromCrypto_lowerRx _ _)

theorem awaits_run {remoteAddr : UInt16} {events : List Event}
    (hrun : (create localAddr remoteAddr).run cfg events = some relay)
    (hupper : .closed ∉ relay.base.trace) : Awaits localAddr relay := by
  refine (run_invariant (P := fun relay => Sound relay ∧ Awaits localAddr relay) ?_
    ⟨create_sound localAddr remoteAddr, create_awaits localAddr remoteAddr⟩ hrun hupper).2
  rintro before event after ⟨hsound, hawaits⟩ hstep hupper
  exact ⟨sound_step hsound hstep hupper, awaits_step hawaits hsound hstep⟩

end Await

/-! ## Runs -/

/-- The call in which a session can be disturbed. -/
def Event.call? : Event → Option Label
  | .timer id env => some (.timer id env)
  | .run env => some (.run env)
  | _ => none

/-- What an event gets from outside. -/
def Event.env? : Event → Option Env
  | .start env | .lowerTx env | .timer _ env | .run env => some env
  | _ => none

/-- A single call of an event. -/
structure Event.Makes (event : Event) (label : Label) : Prop where
  stays : label.closes = false
  arrival : label.arrival = none
  env : label.env? = event.env?
  plain : event.call? = some label ∨ label.isPlain = true

/-- An event makes a single call, or hands over a chunk and announces it, or it is a callback that
reads before it returns. -/
theorem calls_cases {relay : Relay} {event : Event} {calls : List Label}
    (hcalls : relay.calls event = some calls) :
    (∃ label, event.Makes label ∧ calls = [label]) ∨
      (∃ chunk, event = .lowerRx chunk ∧ relay.sockets.lowerRx = true ∧
        calls = [.receive chunk, .lowerRxReady]) ∨
      event = .callback ∧ calls = [.startRx, .ret] := by
  cases event with
  | start =>
      obtain ⟨-, ⟨⟩⟩ := Option.ite_none_left_eq_some.mp hcalls
      exact .inl ⟨_, ⟨rfl, rfl, rfl, .inr rfl⟩, rfl⟩
  | lowerRx =>
      obtain ⟨⟨-, hreads, -⟩, ⟨⟩⟩ := Option.ite_none_right_eq_some.mp hcalls
      exact .inr (.inl ⟨_, rfl, hreads, rfl⟩)
  | lowerTx | upperRx | upperTx =>
      obtain ⟨-, ⟨⟩⟩ := Option.ite_none_right_eq_some.mp hcalls
      exact .inl ⟨_, ⟨rfl, rfl, rfl, .inr rfl⟩, rfl⟩
  | timer | run =>
      cases hcalls
      exact .inl ⟨_, ⟨rfl, rfl, rfl, .inl rfl⟩, rfl⟩
  | callback =>
      obtain ⟨callback, -, rfl⟩ := Option.map_eq_some_iff.mp hcalls
      cases callback with
      | onLowerRxReady =>
          rw [AsioUpperLayer.calls]
          split_ifs
          · exact .inl ⟨_, ⟨rfl, rfl, rfl, .inr rfl⟩, rfl⟩
          · exact .inr (.inr ⟨rfl, rfl⟩)
      | _ => exact .inl ⟨_, ⟨rfl, rfl, rfl, .inr rfl⟩, rfl⟩

theorem calls_stay {relay : Relay} {event : Event} {calls : List Label}
    (hcalls : relay.calls event = some calls) : ∀ label ∈ calls, label.closes = false := by
  rcases calls_cases hcalls with ⟨label, hmakes, rfl⟩ | ⟨chunk, rfl, -, rfl⟩ | ⟨rfl, rfl⟩
  · simpa using hmakes.stays
  · simp [Label.closes]
  · simp [Label.closes]

/-- The stack of a session makes a run of its own. -/
theorem run_full {cfg : Config} {events : List Event} {relay relay' : Relay}
    (hrun : relay.run cfg events = some relay') :
    ∃ labels, relay.full.run cfg labels = some relay'.full ∧
      ∀ label ∈ labels, label.closes = false := by
  induction events generalizing relay with
  | nil =>
      cases hrun
      exact ⟨[], rfl, by simp⟩
  | cons event events ih =>
      obtain ⟨next, hstep, hrest⟩ := Runs.run_cons hrun
      obtain ⟨calls, full, hcalls, hfull, rfl⟩ := step_cases hstep
      obtain ⟨labels, hlabels, hstays⟩ := ih hrest
      refine ⟨calls ++ labels, Runs.run_append hfull hlabels, fun label hmem => ?_⟩
      exact (List.mem_append.mp hmem).elim (calls_stay hcalls label) (hstays label)

/-- So does its crypto layer. -/
theorem run_machine {cfg : Config} {localAddr remoteAddr : UInt16} {events : List Event}
    {relay : Relay} (hrun : (create localAddr remoteAddr).run cfg events = some relay) :
    ∃ labels, Machine.create.run cfg labels = some relay.full.stack.flagged := by
  obtain ⟨labels, hfull, hstays⟩ := run_full hrun
  have hstack : AbstractStack.create.run cfg _ = some relay.full.stack :=
    FullStack.run_refines rfl hfull
  have hflagged := @AbstractStack.run_flagged cfg _ AbstractStack.create
    (FullStack.allCalls_stay hfull hstays) List.not_mem_nil
  rw [hstack] at hflagged
  exact ⟨_, hflagged.symm⟩

/-- **Nothing is lost at the socket of the application.**  Whatever arrives from the line, and in
whatever order the operations on the sockets end: as long as the upper layer is not closed, the
stack has accepted all that was read from the application, and all that the stack has returned has
been given to the socket to be written, piece by piece. -/
theorem relays_faithfully (cfg : Config) (localAddr remoteAddr : UInt16) (events : List Event)
    (relay : Relay) (hrun : (create localAddr remoteAddr).run cfg events = some relay)
    (hupper : .closed ∉ relay.base.trace) :
    submitted relay.base.trace = relay.sockets.taken ∧
      reads relay.base.trace = relay.sockets.given := by
  have hpaced := (sound_run hrun hupper).paced
  exact ⟨hpaced.taken, hpaced.given⟩

/-- **A socket is read exactly while its buffer is free.**  Between events, as long as the upper
layer is not closed: the application's socket is read if and only if the upper layer is open and the
stack holds nothing of what was read before, which is always so when the line is ready; and the
socket of the line is read if and only if the link layer is open and holds no byte and no frame of
what was read before. -/
theorem reads_while_free (cfg : Config) (localAddr remoteAddr : UInt16) (events : List Event)
    (relay : Relay) (hrun : (create localAddr remoteAddr).run cfg events = some relay)
    (hupper : .closed ∉ relay.base.trace) (hrest : relay.rests = true) :
    (relay.sockets.reading = true ↔
        relay.base.upperOpen = true ∧ relay.base.txState = TxState.idle) ∧
      (relay.base.upperOpen = true → relay.base.lowerTxReady = true →
        relay.sockets.reading = true) ∧
      (relay.sockets.lowerRx = true ↔
        relay.full.link.isOpen = true ∧ relay.full.link.Drained) := by
  have hpaced := (sound_run hrun hupper).paced
  have hstack : relay.full.stack.machine.stack = [] := List.isEmpty_iff.mp hrest
  have hreading : relay.sockets.reading = true ↔
      relay.base.upperOpen = true ∧ relay.base.txState = TxState.idle := by
    constructor
    · intro hreading
      have hready := (hpaced.idle hreading).1
      simp only [CryptoLayer.isTxReady, Bool.and_eq_true] at hready
      exact ⟨hready.1.2, TxState.isIdle_eq hready.2⟩
    · rintro ⟨hopen, hidle⟩
      have hturns := hpaced.turns
      simp only [Machine.turns, hstack, List.countP_nil] at hturns
      rw [show relay.full.stack.machine.layer.base.txState = TxState.idle from hidle,
        show relay.full.stack.machine.layer.base.upperOpen = true from hopen] at hturns
      simpa [TxState.isIdle, TxState.idle] using hturns
  refine ⟨hreading, fun hopen hready => hreading.mpr ⟨hopen, ?_⟩, (awaits_run hrun hupper).reads⟩
  have hisOpen : relay.base.isOpen = true := by
    by_contra hshut
    rw [Bool.not_eq_true] at hshut
    cases hopen.symm.trans (hpaced.unopened hshut).1.2
  obtain ⟨labels, hmachine⟩ := run_machine hrun
  have hidle : relay.full.stack.flagged.layer.base.txState.isIdle = true :=
    Machine.isIdle_of_rest hmachine hstack hisOpen hready (closedSince_of_notMem hupper)
  exact TxState.isIdle_eq hidle

namespace Exchange

open Ssp21.Sample (request auth responder)

/-- A message to the responder, as it comes from the line. -/
def frame (message : Bytes) : Bytes := Frame.encode ⟨2, 1, message⟩

/-- A handshake, a message with user data for the application, and data from the application. -/
def relayed : List Event :=
  let env := Ssp21.Sample.env 2
  [.start env, .lowerRx (frame (request ⟨100, 60000⟩)), .run env, .run env, .lowerTx env, .run env,
    .run env, .lowerRx (frame (auth ⟨100, 60000⟩)), .run env, .callback, .run env, .run env,
    .lowerTx env, .run env, .run env, .lowerRx (frame AbstractStack.data), .run env, .callback,
    .run env, .upperRx [1, 2, 3], .run env, .upperTx, .run env]

theorem relays_faithfully_exchange : ∃ relay,
    (create 2 1).run (responder 1000) relayed = some relay ∧
      relay.sockets.taken = [[1, 2, 3]] ∧ relay.sockets.given = [[42]] ∧
      submitted relay.base.trace = relay.sockets.taken ∧
      reads relay.base.trace = relay.sockets.given := by
  have hexchanged : ((create 2 1).run (responder 1000) relayed).map (fun relay =>
      (relay.sockets.taken, relay.sockets.given, decide (.closed ∉ relay.base.trace))) =
        some ([[1, 2, 3]], [[42]], true) := by decide +kernel
  obtain ⟨relay, hrun, hrelay⟩ := Option.map_eq_some_iff.mp hexchanged
  obtain ⟨htaken, hrelay⟩ := Prod.mk.inj hrelay
  obtain ⟨hgiven, hupper⟩ := Prod.mk.inj hrelay
  exact ⟨relay, hrun, htaken, hgiven,
    relays_faithfully (responder 1000) 2 1 relayed relay hrun (of_decide_eq_true hupper)⟩

theorem reads_while_free_exchange : ∃ relay,
    (create 2 1).run (responder 1000) relayed = some relay ∧ relay.base.lowerTxReady = false ∧
      (relay.sockets.reading = true ↔
        relay.base.upperOpen = true ∧ relay.base.txState = TxState.idle) ∧
      (relay.base.upperOpen = true → relay.base.lowerTxReady = true →
        relay.sockets.reading = true) ∧
      (relay.sockets.lowerRx = true ↔
        relay.full.link.isOpen = true ∧ relay.full.link.Drained) := by
  have hexchanged : ((create 2 1).run (responder 1000) relayed).map (fun relay =>
      (relay.base.lowerTxReady, decide (.closed ∉ relay.base.trace), relay.rests)) =
        some (false, true, true) := by decide +kernel
  obtain ⟨relay, hrun, hrelay⟩ := Option.map_eq_some_iff.mp hexchanged
  obtain ⟨hbusy, hrelay⟩ := Prod.mk.inj hrelay
  obtain ⟨hupper, hrest⟩ := Prod.mk.inj hrelay
  exact ⟨relay, hrun, hbusy,
    reads_while_free (responder 1000) 2 1 relayed relay hrun (of_decide_eq_true hupper) hrest⟩

end Exchange

end Relay

end Proxy

end Ssp21
