import Ssp21.Crypto.Announced
import Ssp21.Proxy.Relay

/-!
# Handlers that return

When a socket operation ends, its handler calls the stack, the stack calls the upper layer, and the
upper layer may call the stack again from inside.  The read loop of the crypto layer is entered from
several places, and goes on while there are messages.

* `Relay.Moves`: what an event does to the stack, and to the slice that it has lent.
* `Relay.promised_run`: an upper layer that is told to read finds a payload, so that it does not
  enter the read loop from inside its callback.
* `FullStack.work_run`: a task of the stack leaves less to do than there was before, but for the
  messages that it takes.
-/

namespace Ssp21

open Wire Link

/-! ## What is left to do -/

/-- The tasks that can come from a task, with itself; a message apart. -/
def Task.weight : Task → Nat
  | .checkTransmit | .authPayload _ => 2
  | _ => 1

/-- The tasks that can come from a stack of tasks. -/
def Task.work (tasks : List Task) : Nat := (tasks.map Task.weight).sum

@[simp] theorem Task.work_nil : Task.work [] = 0 := rfl

@[simp] theorem Task.work_cons (task : Task) (tasks : List Task) :
    Task.work (task :: tasks) = task.weight + Task.work tasks := rfl

@[simp] theorem Task.work_append (tasks more : List Task) :
    Task.work (tasks ++ more) = Task.work tasks + Task.work more := by
  simp [work]

/-- A single callback. -/
theorem CryptoLayer.work_notifyRxReady (base : CryptoLayer) :
    Task.work base.notifyRxReady.2 ≤ 1 := by
  unfold notifyRxReady
  split_ifs <;> simp [Task.weight]

/-- The upper layer is opened, and is given the payload of the auth message. -/
theorem Delivers.work {mayDrop : Bytes → Prop} {base base' : CryptoLayer} {tasks : List Task}
    (hdelivers : Delivers mayDrop base base' tasks) : Task.work tasks ≤ 4 := by
  cases hdelivers with
  | nothing => simp
  | @data middle base' key msg payload => exact base'.work_notifyRxReady.trans (by simp)
  | @auth middle base' key msg payload rest hrest =>
      have hopened : Task.work base'.openUpper.2 ≤ 1 := by
        unfold CryptoLayer.openUpper
        split_ifs <;> simp [Task.weight]
      have hbehind : Task.work rest ≤ 1 := by
        rcases hrest with rfl | rfl <;> simp [Task.weight]
      rw [Task.work_append, Task.work_cons]
      simp only [Task.weight]
      omega
  | dropped => simp

namespace Layer

variable {cfg : Config} {layer : Layer}

/-- The read loop ends, or has taken a message. -/
theorem tryReadFromLower_work (env : Env) :
    (layer.tryReadFromLower cfg env).2 = [] ∨
      layer.base.lowerRx ≠ [] ∧ Task.work (layer.tryReadFromLower cfg env).2 ≤ 5 := by
  rcases @tryReadFromLower_delivers cfg layer env with
    ⟨hnone, -⟩ | ⟨base, tasks, htasks, -, -, hdelivers⟩
  · exact .inl hnone
  · refine .inr ⟨?_, ?_⟩
    · intro hrx
      unfold tryReadFromLower at htasks
      split_ifs at htasks
      · simp at htasks
      · simp [hrx] at htasks
    · rw [htasks, Task.work_append]
      have hwork := hdelivers.work
      simp only [Task.work_cons, Task.work_nil, Task.weight]
      omega

theorem runTask_work {env : Env} {task : Task} {result : Layer × List Task}
    (hrun : layer.runTask cfg env task = some result) :
    Task.work result.2 < task.weight ∨
      task = .tryReadFromLower ∧ layer.base.lowerRx ≠ [] ∧ Task.work result.2 ≤ 5 := by
  cases ran_of_runTask hrun with
  | tryReadFromLower =>
      rcases @tryReadFromLower_work cfg layer env with hnone | ⟨hrx, hwork⟩
      · refine .inl ?_
        rw [hnone]
        exact Nat.zero_lt_one
      · exact .inr ⟨rfl, hrx, hwork⟩
  | checkTransmit =>
      refine .inl ?_
      unfold checkTransmit
      split_ifs
      · simp [Task.weight]
      · dsimp only
        split
        · unfold CryptoLayer.closeUpper
          split_ifs <;> simp [Task.weight]
        · simp [Task.weight]
  | noPayload =>
      simp [Task.weight]
  | @authPayload payload hne => exact .inl (Nat.lt_succ_of_le (CryptoLayer.work_notifyRxReady _))
  | enterIdle | afterClose => exact .inl Nat.zero_lt_one

end Layer

/-! ## What is left to read -/

/-- A byte completes at most one frame. -/
theorem Scanner.scan_frames_length (limit : UInt16) (pending bytes : Bytes) :
    (Scanner.scan limit pending bytes).frames.length ≤ bytes.length := by
  induction bytes generalizing pending with
  | nil => simp [scan]
  | cons byte bytes ih =>
      have hstep : (step limit pending byte).frames.length ≤ 1 := by
        simp only [step, finish, finishHeader, finishBody]
        split_ifs <;> simp
      have hrest := ih (step limit pending byte).pending
      simp only [scan, List.length_append, List.length_cons]
      omega

/-- The frames that a layer has not handed out: one that is complete, and those in the bytes that it
has not parsed. -/
theorem LinkLayer.Standing.remaining {localAddr : UInt16} {stream : Bytes}
    {taken : List LinkParser.Result} {layer : LinkLayer}
    (h : Standing localAddr stream taken layer) :
    (Scanner.scan payloadLimit [] stream).frames.length ≤
      taken.length + layer.unparsed.length + 1 := by
  have hsplit {front : Bytes} (hstream : front ++ layer.unparsed = stream) :
      (Scanner.scan payloadLimit [] stream).frames.length ≤
        (Scanner.scan payloadLimit [] front).frames.length + layer.unparsed.length := by
    rw [← hstream, scan_frames_append, List.length_append]
    exact Nat.add_le_add_left (Scanner.scan_frames_length _ _ _) _
  cases h.place with
  | collecting front _ hstream hframes =>
      have hfront := hsplit hstream
      rw [hframes] at hfront
      omega
  | offered front result _ hstream hframes =>
      have hfront := hsplit hstream
      rw [hframes, List.length_append, List.length_singleton] at hfront
      omega
  | lent front result _ hstream hframes =>
      have hfront := hsplit hstream
      rw [hframes] at hfront
      omega

namespace FullStack

open LinkLayer (Standing)

variable {cfg : Config} {full full' : FullStack} {localAddr : UInt16} {stream : Bytes}
  {taken : List LinkParser.Result}

/-- A task leaves less to do, or takes a message from the link layer. -/
theorem work_run (hstanding : Standing localAddr stream taken full.link)
    (hempty : full.stack.machine.layer.base.lowerRx = []) {env : Env}
    (hstep : full.step cfg (.run env) = some full') :
    ∃ more, Standing localAddr stream (taken ++ more) full'.link ∧
      Task.work full'.stack.machine.stack <
        Task.work full.stack.machine.stack + 5 * more.length := by
  cases steps_of_step hstep with
  | passes hinput hstack =>
      obtain ⟨more, hmessages, hnext⟩ := @below_standing full (.run env) _ _ _ hstanding rfl
      refine ⟨more, hnext, ?_⟩
      obtain ⟨machine, hmachine, rfl⟩ := Option.map_eq_some_iff.mp hstack
      rw [hmessages] at hmachine
      obtain ⟨link, ⟨⟨layer, tasks⟩, flag, due⟩⟩ := full
      cases Machine.steps_of_step hmachine with
      | @run _ task result tasks env hrun =>
          simp only [Task.work_append, Task.work_cons]
          rcases Layer.runTask_work hrun with hless | ⟨rfl, hrx, hwork⟩
          · omega
          · -- the link layer has returned the message
            have hsome : 0 < more.length := by
              refine List.length_pos_of_ne_nil fun hnone => hrx ?_
              rw [hnone]
              rfl
            simp only [Task.weight]
            omega

/-- A callback on top of the stack can return. -/
theorem ret_step (cfg : Config) {callback : Callback} {rest : List Task}
    (hhead : full.stack.machine.stack = .upper callback :: rest) :
    ∃ full', full.step cfg .ret = some full' := by
  obtain ⟨link, ⟨⟨layer, stack⟩, flag, due⟩⟩ := full
  cases hhead
  exact ⟨_, rfl⟩

/-- It can read a payload before, and is still on top of the stack. -/
theorem startRx_step (cfg : Config) {callback : Callback} {rest : List Task}
    (hhead : full.stack.machine.stack = .upper callback :: rest)
    (hidle : full.stack.upperIsProcessingRxData = false)
    (hpayload : full.stack.machine.layer.base.payloadData ≠ []) :
    ∃ full', full.step cfg .startRx = some full' ∧
      full'.stack.machine.stack = full.stack.machine.stack := by
  obtain ⟨link, ⟨⟨layer, stack⟩, flag, due⟩⟩ := full
  cases hhead
  cases hidle
  refine ⟨_, rfl, ?_⟩
  simp [served, below, AbstractStack.handed, Machine.withRx,
    AbstractStack.startRxFromUpper, hpayload]

/-- A task of the layer itself can be run in every environment. -/
theorem task_step (cfg : Config) {task : Task} {rest : List Task}
    (hhead : full.stack.machine.stack = task :: rest) (hown : ∀ callback, task ≠ .upper callback)
    (env : Env) : ∃ full', full.step cfg (.run env) = some full' := by
  obtain ⟨link, ⟨⟨layer, stack⟩, flag, due⟩⟩ := full
  cases hhead
  cases task with
  | upper callback => exact absurd rfl (hown callback)
  | authPayload payload => cases payload <;> exact ⟨_, rfl⟩
  | _ => exact ⟨_, rfl⟩

end FullStack

namespace Proxy

namespace Relay

/-! ## What an event does to the stack -/

/-- The slice of a payload that is lent to the application. -/
def lends (relay : Relay) : Bool := relay.full.stack.upperIsProcessingRxData

def tasks (relay : Relay) : List Task := relay.full.stack.machine.stack

/-- The crypto layer makes a step on its own, or is called at rest, or a callback of the upper layer
is over. -/
inductive Moves (cfg : Config) (relay relay' : Relay) : Prop
  | stays (hstack : relay'.full.stack = relay.full.stack)
  | acts {label : Label} {messages : List Bytes} (hstays : label.closes = false)
      (hcall : label.isCall = false)
      (hmachine : (relay.full.stack.machine.withRx messages).step cfg label =
        some relay'.full.stack.machine)
      (hlends : relay'.lends = relay.lends)
  | called (htasks : ∀ task ∈ relay'.tasks, task = .checkTransmit ∨ task = .tryReadFromLower)
      (hrest : relay.tasks = [])
      (hpayload : relay'.base.payloadData ≠ [] → relay'.lends = true ∨
        relay'.base.payloadData = relay.base.payloadData ∧ relay'.lends = relay.lends)
  | returns (callback : Callback) (htasks : relay.tasks = .upper callback :: relay'.tasks)
      (hpayload : relay'.base.payloadData = relay.base.payloadData)
      (hlends : relay'.lends = (relay.lends || callback = .onLowerRxReady))

section Moves

variable {cfg : Config} {relay relay' : Relay}

theorem Moves.of_step {label : Label} (hstays : label.closes = false)
    (hcall : label.isCall = false) {full : FullStack}
    (hfull : relay.full.step cfg label = some full)
    (sockets : Sockets) : Moves cfg relay ⟨full, sockets⟩ := by
  rcases FullStack.machine_step (FullStack.steps_of_step hfull) hcall with
    ⟨-, hsame⟩ | ⟨messages, hmachine, hflag⟩
  · exact .stays hsame
  · exact .acts hstays hcall hmachine hflag

theorem moves_step (hsound : Sound relay) {event : Event}
    (hstep : relay.step cfg event = some relay') : Moves cfg relay relay' := by
  cases steps_of_step hsound.paced.empty hstep with
  | start _ hfull | lowerTx hfull | timer hfull | run hfull => exact .of_step rfl rfl hfull _
  | lowerRx hreads hfull =>
      rcases FullStack.machine_step (FullStack.steps_of_step hfull) rfl with
        ⟨-, hsame⟩ | ⟨messages, hmachine, hflag⟩
      · exact .stays hsame
      · exact .acts rfl rfl hmachine hflag
  | upperRx hrest hreading hdata hcall =>
      obtain ⟨machine, hmachine, hstack⟩ := Option.map_eq_some_iff.mp hcall
      obtain ⟨-, heq⟩ := Option.ite_none_right_eq_some.mp hmachine
      refine .called ?_ hrest fun _ => .inr ?_
      · rw [tasks, ← hstack, ← Option.some.inj heq]
        simp only [Machine.push, CryptoLayer.startTxFromUpper, hrest]
        split_ifs <;> simp
      · rw [base, base, lends, lends, ← hstack, ← Option.some.inj heq]
        refine ⟨?_, rfl⟩
        simp only [Machine.push, CryptoLayer.startTxFromUpper]
        split_ifs <;> rfl
  | upperTx hrest hwriting hcall =>
      rcases startRx_cases hcall with ⟨htasks, hnone⟩ | ⟨htasks, hlent, -⟩
      · refine .called ?_ hrest fun hne => absurd hnone hne
        rw [tasks, htasks, hrest]
        simp
      · refine .called ?_ hrest fun _ => .inl hlent
        rw [tasks, htasks, hrest]
        simp
  | @returns callback rest stack due hhead hreads hstack =>
      subst hstack
      refine .returns callback hhead rfl ?_
      cases callback with
      | onLowerRxReady =>
          have hlent := hsound.lent.symm.trans (hreads rfl)
          simpa [lends] using hlent
      | _ => simp [lends]
  | reads hhead hidle hcall hsame hlends hpayload =>
      exact .returns .onLowerRxReady hhead hpayload (by simpa [lends] using hlends)

/-! ## Payloads -/

theorem promised_step (hsound : Sound relay) {event : Event}
    (hpromised : relay.full.stack.machine.Promised) (hstep : relay.step cfg event = some relay')
    (hupper : .closed ∉ relay'.base.trace) : relay'.full.stack.machine.Promised := by
  cases moves_step hsound hstep with
  | stays hstack => rwa [hstack]
  | @acts label messages hstays hcall hmachine =>
      have hhanded : (relay.full.stack.machine.withRx messages).Promised := hpromised
      exact hhanded.step hmachine hstays hcall hupper
  | called htasks =>
      intro hmem
      rcases htasks _ hmem with h | h <;> cases h
  | returns callback htasks hpayload =>
      intro hmem
      have hbefore : .upper .onLowerRxReady ∈ relay.full.stack.machine.stack := by
        rw [show relay.full.stack.machine.stack = _ from htasks]
        exact List.mem_cons_of_mem _ hmem
      rw [show relay'.full.stack.machine.layer.base.payloadData = _ from hpayload]
      exact hpromised hbefore

theorem promised_run {localAddr remoteAddr : UInt16} {events : List Event}
    (hrun : (create localAddr remoteAddr).run cfg events = some relay)
    (hupper : .closed ∉ relay.base.trace) : relay.full.stack.machine.Promised := by
  refine (run_invariant (P := fun relay => Sound relay ∧ relay.full.stack.machine.Promised) ?_
    ⟨create_sound localAddr remoteAddr, fun hmem => absurd hmem List.not_mem_nil⟩ hrun hupper).2
  rintro before event after ⟨hsound, hpromised⟩ hstep hupper
  exact ⟨sound_step hsound hstep hupper, promised_step hsound hpromised hstep hupper⟩

/-- No payload stays with the crypto layer unannounced. -/
theorem announced_step (hsound : Sound relay) {event : Event}
    (hannounced : relay.full.stack.machine.Announced relay.lends)
    (hstep : relay.step cfg event = some relay') (hupper : .closed ∉ relay'.base.trace)
    (hopen : relay'.base.payloadData ≠ [] → relay'.base.upperOpen = true) :
    relay'.full.stack.machine.Announced relay'.lends := by
  cases moves_step hsound hstep with
  | stays hstack => rwa [lends, hstack]
  | @acts label messages hstays hcall hmachine hlends =>
      have hhanded : (relay.full.stack.machine.withRx messages).Announced relay.lends := hannounced
      rw [hlends]
      exact hhanded.step hmachine hstays hcall hupper hopen
  | called htasks hrest hpayload =>
      refine fun hne => .inl ?_
      rcases hpayload hne with hlent | ⟨hsame, hlends⟩
      · exact hlent
      · rw [hlends]
        refine (hannounced (hsame ▸ hne)).resolve_right ?_
        rw [show relay.full.stack.machine.stack = [] from hrest]
        exact List.not_mem_nil
  | returns callback htasks hpayload hlends =>
      intro hne
      rw [hlends]
      rcases hannounced (hpayload ▸ hne) with hlent | hmem
      · exact .inl (by rw [hlent, Bool.true_or])
      · rw [show relay.full.stack.machine.stack = _ from htasks] at hmem
        rcases List.mem_cons.mp hmem with hcallback | hmem
        · cases hcallback
          exact .inl (by simp)
        · exact .inr hmem

end Moves

/-! ## Handlers -/

/-- Inside a handler, the stack goes on and calls the upper layer. -/
def Event.isInner : Event → Bool
  | .run _ | .callback => true
  | _ => false

section Inner

open LinkLayer (Standing)

variable {cfg : Config} {relay relay' : Relay} {localAddr : UInt16} {stream : Bytes}
  {taken : List LinkParser.Result}

theorem inner_step (hstanding : Standing localAddr stream taken relay.full.link)
    (hempty : relay.base.lowerRx = []) {event : Event} (hinner : event.isInner = true)
    (hstep : relay.step cfg event = some relay') :
    ∃ more, Standing localAddr stream (taken ++ more) relay'.full.link ∧
      relay'.base.lowerRx = [] ∧
      Task.work relay'.tasks < Task.work relay.tasks + 5 * more.length := by
  cases steps_of_step hempty hstep with
  | run hfull =>
      obtain ⟨more, hnext, hwork⟩ := FullStack.work_run hstanding hempty hfull
      exact ⟨more, hnext, (FullStack.step_refines hempty (FullStack.steps_of_step hfull)).2, hwork⟩
  | returns hhead hreads hstack =>
      subst hstack
      refine ⟨[], by simpa using hstanding, hempty, ?_⟩
      rw [show relay.tasks = _ from hhead]
      simp [tasks, Task.weight]
  | reads hhead hidle hcall hsame hlends hpayload hempty =>
      refine ⟨[], by simpa using hstanding, hempty, ?_⟩
      rw [show relay.tasks = _ from hhead]
      simp [tasks, Task.weight]
  | _ => cases hinner

theorem inner_run {events : List Event} (hinner : ∀ event ∈ events, event.isInner = true)
    (hstanding : Standing localAddr stream taken relay.full.link)
    (hempty : relay.base.lowerRx = []) (hrun : relay.run cfg events = some relay') :
    ∃ more, Standing localAddr stream (taken ++ more) relay'.full.link ∧
      events.length + Task.work relay'.tasks ≤ Task.work relay.tasks + 5 * more.length := by
  induction events generalizing relay taken with
  | nil =>
      cases hrun
      exact ⟨[], by simpa using hstanding, by simp⟩
  | cons event events ih =>
      obtain ⟨next, hstep, hrest⟩ := Runs.run_cons hrun
      obtain ⟨first, hfirst, hempty', hless⟩ :=
        inner_step hstanding hempty (hinner event List.mem_cons_self) hstep
      obtain ⟨others, hlast, hwork⟩ :=
        ih (fun other hmem => hinner other (List.mem_cons_of_mem _ hmem)) hfirst hempty' hrest
      refine ⟨first ++ others, by rwa [← List.append_assoc], ?_⟩
      rw [List.length_cons, List.length_append]
      omega

/-- A callback on top of the stack is able to end. -/
theorem callback_run (hsound : Sound relay) (hpromised : relay.full.stack.machine.Promised)
    {callback : Callback} {rest : List Task}
    (hstack : relay.full.stack.machine.stack = .upper callback :: rest) :
    ∃ full, relay.full.run cfg (AsioUpperLayer.calls relay.sockets callback) = some full := by
  have hreturns : ∃ full, relay.full.run cfg [.ret] = some full := by
    obtain ⟨full, hret⟩ := FullStack.ret_step cfg hstack
    exact ⟨full, by simp [FullStack.run, Runs.run, hret]⟩
  cases callback with
  | onLowerOpen | onLowerTxReady | onLowerClose => exact hreturns
  | onLowerRxReady =>
      rw [AsioUpperLayer.calls]
      split_ifs with hwriting
      · exact hreturns
      · -- it finds the payload that it is told of
        have hlends : relay.full.stack.upperIsProcessingRxData = false := by
          rw [← hsound.lent]
          simpa using hwriting
        have hpayload := hpromised (hstack ▸ List.mem_cons_self)
        obtain ⟨middle, hstart, hsame⟩ := FullStack.startRx_step cfg hstack hlends hpayload
        obtain ⟨full, hret⟩ := FullStack.ret_step cfg (hsame.trans hstack)
        exact ⟨full, by simp [FullStack.run, Runs.run, hstart, hret]⟩

/-- A session that is not at rest can go on. -/
theorem continues (hsound : Sound relay) (hpromised : relay.full.stack.machine.Promised)
    (hbusy : relay.rests = false) (env : Env) :
    (relay.step cfg (.run env)).isSome = true ∨ (relay.step cfg .callback).isSome = true := by
  -- a step succeeds if its calls do
  have hstep {event : Event} {calls : List Label} (hcalls : relay.calls event = some calls)
      (hrun : ∃ full, relay.full.run cfg calls = some full) :
      (relay.step cfg event).isSome = true := by
    obtain ⟨full, hfull⟩ := hrun
    rw [step, hcalls, Option.bind_some, hfull]
    rfl
  cases hstack : relay.full.stack.machine.stack with
  | nil => simp [rests, hstack] at hbusy
  | cons task rest =>
      by_cases htask : ∃ callback, task = .upper callback
      · obtain ⟨callback, rfl⟩ := htask
        have hcallback : relay.callback? = some callback := by simp [callback?, hstack]
        refine .inr (hstep ?_ (callback_run hsound hpromised hstack))
        rw [calls, hcallback, Option.map_some]
      · obtain ⟨full, hfull⟩ := FullStack.task_step cfg hstack (not_exists.mp htask) env
        exact .inl (hstep rfl ⟨full, by simp [FullStack.run, Runs.run, hfull]⟩)

end Inner

/-- **Handlers return.**  Whatever has arrived from the line and from the application, when the
upper layer is not closed: what the stack and its upper layer do inside a handler ends after a
number of steps that the bytes in the link layer bound, however long they take and whatever random
numbers and keys they get; and until the stack is at rest or the upper layer is closed there is
always a next step, so that no callback waits for something. -/
theorem handlers_return (cfg : Config) (localAddr remoteAddr : UInt16) (events : List Event)
    (relay : Relay) (hrun : (create localAddr remoteAddr).run cfg events = some relay)
    (hupper : .closed ∉ relay.base.trace) (inner : List Event)
    (hinner : ∀ event ∈ inner, event.isInner = true) (relay' : Relay)
    (hinside : relay.run cfg inner = some relay') :
    inner.length ≤ Task.work relay.tasks + 5 * (relay.full.link.unparsed.length + 1) ∧
      (.closed ∉ relay'.base.trace → relay'.rests = false → ∀ env,
        (relay'.step cfg (.run env)).isSome = true ∨
          (relay'.step cfg .callback).isSome = true) := by
  constructor
  · obtain ⟨stream, taken, hstanding⟩ := (awaits_run hrun hupper).standing
    obtain ⟨more, hlast, hwork⟩ :=
      inner_run hinner hstanding (sound_run hrun hupper).paced.empty hinside
    have hfront := hlast.taken_front.length_le
    have hremaining := hstanding.remaining
    rw [List.length_append] at hfront
    omega
  · intro hupper' hbusy env
    have hall : (create localAddr remoteAddr).run cfg (events ++ inner) = some relay' :=
      Runs.run_append hrun hinside
    exact continues (sound_run hall hupper') (promised_run hall hupper') hbusy env

namespace Exchange

open Ssp21.Sample (request auth responder)

/-- An auth message arrives, and the upper layer is opened. -/
def arrived : List Event :=
  let env := Ssp21.Sample.env 2
  [.start env, .lowerRx (frame (request ⟨100, 60000⟩)), .run env, .run env, .lowerTx env, .run env,
    .run env, .lowerRx (frame (auth ⟨100, 60000⟩))]

theorem handlers_return_auth : ∃ relay relay',
    (create 2 1).run (responder 1000) arrived = some relay ∧
      relay.run (responder 1000) [.run (Ssp21.Sample.env 2)] = some relay' ∧
      relay'.rests = false ∧
      ∀ env, (relay'.step (responder 1000) (.run env)).isSome = true ∨
        (relay'.step (responder 1000) .callback).isSome = true := by
  have hhandled : (((create 2 1).run (responder 1000) arrived).bind fun relay =>
      (relay.run (responder 1000) [.run (Ssp21.Sample.env 2)]).map fun relay' =>
        (decide (.closed ∉ relay.base.trace), decide (.closed ∉ relay'.base.trace), relay'.rests)) =
        some (true, true, false) := by decide +kernel
  obtain ⟨relay, hrun, hrelay⟩ := Option.bind_eq_some_iff.mp hhandled
  obtain ⟨relay', hinside, hrelay'⟩ := Option.map_eq_some_iff.mp hrelay
  obtain ⟨hupper, hrelay'⟩ := Prod.mk.inj hrelay'
  obtain ⟨hupper', hbusy⟩ := Prod.mk.inj hrelay'
  exact ⟨relay, relay', hrun, hinside, hbusy,
    (handlers_return (responder 1000) 2 1 arrived relay hrun (of_decide_eq_true hupper)
      [.run (Ssp21.Sample.env 2)] (by simp [Event.isInner]) relay' hinside).2
      (of_decide_eq_true hupper') hbusy⟩

end Exchange

end Relay

end Proxy

end Ssp21
