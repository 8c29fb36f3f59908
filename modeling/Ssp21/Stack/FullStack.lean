import Ssp21.Link.Delivery
import Ssp21.Link.Reopen
import Ssp21.Stack.Forwarding

/-!
# The crypto layer over the link layer

`FullInitiatorStack` and `FullResponderStack` put a crypto layer on a link layer.  What the crypto
layer calls a message is the payload of a link frame: `start_rx_from_upper` of the link layer looks
for the next frame in the bytes that have arrived, and `on_lower_rx_ready` goes up only if there is
one.

* `FullStack.step`: the calls between the layers.  `lowerRx` of the crypto layer is filled with the
  answer of the link layer when the crypto layer asks for it, and is empty between steps.
* `FullStack.calls`: what a step is for the crypto layer.
* `carries_scanned_frames`: whatever the bytes are, the run of a full stack is a run of its crypto
  layer on payloads that the scanner finds in the bytes.
-/

namespace Ssp21

open Wire Link

namespace Machine

/-! ## What a step takes from the lower layer -/

/-- The step asks the lower layer for a message. -/
def asks (machine : Machine) : Label → Bool
  | .run _ => machine.stack.head? = some .tryReadFromLower && decide machine.layer.base.canRead
  | _ => false

/-- The machine when the lower layer holds these messages. -/
def withRx (messages : List Bytes) (machine : Machine) : Machine :=
  { machine with layer := { machine.layer with base := { machine.layer.base with
    lowerRx := messages } } }

theorem tryReadFromLower_lowerRx {cfg : Config} {layer : Layer} (env : Env) :
    (layer.tryReadFromLower cfg env).1.base.lowerRx =
      if layer.base.canRead then layer.base.lowerRx.tail else layer.base.lowerRx := by
  unfold Layer.tryReadFromLower
  split_ifs with hguard hread hread
  · simp [hread.1, hread.2] at hguard
  · rfl
  · split
    · rename_i hrx
      rw [hrx]
      rfl
    · rename_i message messages hrx
      rw [hrx]
      split_ifs
      · rfl
      · exact (@Layer.process_delivers cfg (fun _ => True)
          { layer with base := { layer.base with lowerRx := messages } } hread.1 env message
          (fun _ _ _ _ => trivial)).lowerRx
  · exact absurd (by simpa [CryptoLayer.canRead] using hguard) hread

/-- Only a step that asks takes a message, and it takes the first one. -/
theorem lowerRx_step {cfg : Config} {machine machine' : Machine} {label : Label}
    (hstep : machine.step cfg label = some machine')
    (harrives : ∀ message, label ≠ .receive message) :
    machine'.layer.base.lowerRx =
      if machine.asks label then machine.layer.base.lowerRx.tail
      else machine.layer.base.lowerRx := by
  cases steps_of_step hstep with
  | receive layer stack message => exact absurd rfl (harrives message)
  | lowerOpen layer ready env =>
      change (layer.onLowerOpen cfg env ready).base.lowerRx = layer.base.lowerRx
      unfold Layer.onLowerOpen
      split_ifs
      · rfl
      · dsimp only
        split
        · exact ((Layer.handshakes_confined _).onHandshakeRequired _ _ env env.now).lowerRx
        · rfl
  | lowerClose layer ready =>
      change (layer.onLowerClose cfg ready).1.base.lowerRx = layer.base.lowerRx
      unfold Layer.onLowerClose
      split_ifs
      · rfl
      · dsimp only
        rw [CryptoLayer.closeUpper_fst]
        rfl
  | lowerTxReady layer env => exact Layer.onLowerTxReady_lowerRx env
  | lowerRxReady layer =>
      change layer.onLowerRxReady.1.base.lowerRx = layer.base.lowerRx
      unfold Layer.onLowerRxReady
      split_ifs <;> rfl
  | timer env => exact ((Layer.handshakes_confined _).onTimer env _).lowerRx
  | startRx layer hcall =>
      change layer.base.startRxFromUpper.1.lowerRx = layer.base.lowerRx
      unfold CryptoLayer.startRxFromUpper
      dsimp only
      split_ifs <;> rfl
  | startTx layer data =>
      change (layer.base.startTxFromUpper data).1.lowerRx = layer.base.lowerRx
      unfold CryptoLayer.startTxFromUpper
      split_ifs <;> rfl
  | ret layer stack callback => rfl
  | @run layer task result stack env hrun =>
      cases Layer.ran_of_runTask hrun with
      | tryReadFromLower =>
          refine (tryReadFromLower_lowerRx env).trans ?_
          simp [asks]
      | checkTransmit => exact (Layer.checkTransmit_keepsInput env).lowerRx
      | noPayload => rfl
      | @authPayload payload hne =>
          exact (CryptoLayer.Confined.notifyRxReady (layer.base.placePayload payload)).lowerRx
      | enterIdle | afterClose => rfl

end Machine

namespace Label

/-- What arrives. -/
def arrival : Label → Option Bytes
  | .receive bytes => some bytes
  | _ => none

/-- The layer below has received something, or says so. -/
def isInput : Label → Bool
  | .receive _ | .lowerRxReady => true
  | _ => false

end Label

/-! ## The stack -/

/-- A full stack.  The crypto layer is the one of `stack`. -/
structure FullStack where
  link : LinkLayer
  stack : AbstractStack
  deriving DecidableEq, Repr

namespace AbstractStack

/-- The stack when the layer below has returned these messages to the crypto layer. -/
def handed (messages : List Bytes) (stack : AbstractStack) : AbstractStack :=
  { stack with machine := stack.machine.withRx messages }

end AbstractStack

namespace FullStack

def create (localAddr remoteAddr : UInt16) : FullStack :=
  ⟨LinkLayer.create localAddr remoteAddr, AbstractStack.create⟩

/-- What the link layer does in a step, and what it returns: the layer below opens and closes it
first, and the crypto layer may ask it for a message. -/
def below (full : FullStack) : Label → LinkLayer × List Bytes
  | .lowerOpen _ _ => (full.link.onLowerOpen, [])
  | .lowerClose _ => (full.link.onLowerClose, [])
  | label => if full.stack.machine.asks label then full.link.step .startRx else (full.link, [])

/-- The stack when the link layer has done its part. -/
def served (full : FullStack) (label : Label) : FullStack :=
  ⟨(full.below label).1, full.stack.handed (full.below label).2⟩

/-- The calls of the layer below go through the link layer, and what arrives is a chunk of bytes. -/
def step (cfg : Config) (full : FullStack) : Label → Option FullStack
  | .receive chunk => some { full with link := (full.link.step (.arrive chunk)).1 }
  | .lowerRxReady =>
      if full.stack.machine.stack = [] then
        if full.link.onLowerRxReady.1 then
          (full.stack.step cfg .lowerRxReady).map (FullStack.mk full.link.onLowerRxReady.2)
        else some { full with link := full.link.onLowerRxReady.2 }
      else none
  | label => ((full.served label).stack.step cfg label).map (FullStack.mk (full.served label).link)

def run (cfg : Config) (full : FullStack) (labels : List Label) : Option FullStack :=
  Runs.run (step cfg) full labels

/-- A step, with what it does to the link layer. -/
inductive Steps (cfg : Config) (full : FullStack) : Label → FullStack → Prop
  | arrives (chunk : Bytes) :
      Steps cfg full (.receive chunk) { full with link := (full.link.step (.arrive chunk)).1 }
  | notifies {stack : AbstractStack} (hnotified : full.link.onLowerRxReady.1 = true)
      (hstack : full.stack.step cfg .lowerRxReady = some stack) :
      Steps cfg full .lowerRxReady ⟨(full.link.step .rxReady).1, stack⟩
  | waits (hnotified : full.link.onLowerRxReady.1 = false) :
      Steps cfg full .lowerRxReady ⟨(full.link.step .rxReady).1, full.stack⟩
  | passes {label : Label} {stack : AbstractStack} (hinput : label.isInput = false)
      (hstack : (full.stack.handed (full.below label).2).step cfg label = some stack) :
      Steps cfg full label ⟨(full.below label).1, stack⟩

theorem steps_of_step {cfg : Config} {full full' : FullStack} {label : Label}
    (hstep : full.step cfg label = some full') : Steps cfg full label full' := by
  cases label with
  | receive chunk =>
      cases hstep
      exact .arrives chunk
  | lowerRxReady =>
      obtain ⟨-, hstep⟩ := Option.ite_none_right_eq_some.mp hstep
      cases hnotified : full.link.onLowerRxReady.1 with
      | true =>
          rw [if_pos hnotified] at hstep
          obtain ⟨stack, hstack, rfl⟩ := Option.map_eq_some_iff.mp hstep
          exact .notifies hnotified hstack
      | false =>
          rw [if_neg (by simp [hnotified])] at hstep
          cases hstep
          exact .waits hnotified
  | _ =>
      obtain ⟨stack, hstack, rfl⟩ := Option.map_eq_some_iff.mp hstep
      exact .passes rfl hstack

/-! ## What a step is for the crypto layer -/

/-- The calls and messages that the crypto layer meets in a step. -/
def calls (full : FullStack) : Label → List Label
  | .receive _ => []
  | .lowerRxReady => if full.link.onLowerRxReady.1 then [.lowerRxReady] else []
  | label => (full.below label).2.map Label.receive ++ [label]

/-- The same for a sequence of steps. -/
def allCalls (cfg : Config) : FullStack → List Label → List Label
  | _, [] => []
  | full, label :: labels =>
      full.calls label ++
        match full.step cfg label with
        | none => []
        | some next => next.allCalls cfg labels

theorem calls_passes {full : FullStack} {label : Label} (hinput : label.isInput = false) :
    full.calls label = (full.below label).2.map Label.receive ++ [label] := by
  cases label with
  | receive chunk => cases hinput
  | lowerRxReady => cases hinput
  | _ => rfl

/-- What the crypto layer draws from its surroundings, it draws in the step itself. -/
theorem env_of_mem_calls {full : FullStack} {label call : Label} {env : Env}
    (hcall : call ∈ full.calls label) (henv : env ∈ call.env?) : env ∈ label.env? := by
  cases hinput : label.isInput with
  | true =>
      cases label with
      | receive chunk => cases hcall
      | lowerRxReady =>
          simp only [calls] at hcall
          split_ifs at hcall
          · cases List.mem_singleton.mp hcall
            exact henv
          · cases hcall
      | _ => cases hinput
  | false =>
      rw [calls_passes hinput] at hcall
      rcases List.mem_append.mp hcall with hreceived | hself
      · obtain ⟨message, -, rfl⟩ := List.mem_map.mp hreceived
        cases henv
      · rwa [List.mem_singleton.mp hself] at henv

/-- The link layer returns one message or none, and one only if it is asked. -/
theorem below_length (full : FullStack) (label : Label) :
    (full.below label).2.length ≤ if full.stack.machine.asks label then 1 else 0 := by
  have hanswer : (full.link.step .startRx).2.length ≤ 1 := by
    simp only [LinkLayer.step]
    split_ifs <;> simp
  cases label with
  | run env =>
      simp only [below]
      split_ifs
      · exact hanswer
      · exact le_rfl
  | _ => exact le_rfl

theorem handed_nil {stack : AbstractStack} (hempty : stack.machine.layer.base.lowerRx = []) :
    stack.handed [] = stack := by
  obtain ⟨⟨⟨base, initiator⟩, tasks⟩, flag, due⟩ := stack
  obtain ⟨isOpen, processing, active, pending, statistics, txState, payload, upperOpen, ready, rx,
    trace⟩ := base
  cases hempty
  rfl

/-- A message that is returned is one that has arrived just before. -/
theorem run_handed {cfg : Config} {stack : AbstractStack} {messages : List Bytes}
    (hempty : stack.machine.layer.base.lowerRx = []) (hlength : messages.length ≤ 1) :
    stack.run cfg (messages.map Label.receive) = some (stack.handed messages) := by
  cases messages with
  | nil => exact congrArg some (handed_nil hempty).symm
  | cons message messages =>
      obtain rfl : messages = [] := by simpa using hlength
      simp only [List.map_cons, List.map_nil, AbstractStack.run, Runs.run, AbstractStack.step,
        Machine.step, Option.map_some, hempty, List.nil_append]
      simp [AbstractStack.handed, Machine.withRx, AbstractStack.notified]

theorem lowerRx_stack_step {cfg : Config} {stack stack' : AbstractStack} {label : Label}
    (hstep : stack.step cfg label = some stack') (harrives : ∀ message, label ≠ .receive message) :
    stack'.machine.layer.base.lowerRx =
      if stack.machine.asks label then stack.machine.layer.base.lowerRx.tail
      else stack.machine.layer.base.lowerRx := by
  by_cases hstart : label = .startRx
  · subst hstart
    obtain ⟨-, heq⟩ := Option.ite_none_right_eq_some.mp hstep
    cases heq
    change stack.startRxFromUpper.machine.layer.base.lowerRx = stack.machine.layer.base.lowerRx
    simp only [AbstractStack.startRxFromUpper]
    split_ifs <;> rfl
  · rw [AbstractStack.step.eq_2 cfg stack label hstart] at hstep
    obtain ⟨machine, hmachine, rfl⟩ := Option.map_eq_some_iff.mp hstep
    exact Machine.lowerRx_step hmachine harrives

/-- **A step of a full stack is a few steps of its crypto layer**, which has no message left. -/
theorem step_refines {cfg : Config} {full full' : FullStack} {label : Label}
    (hempty : full.stack.machine.layer.base.lowerRx = [])
    (hsteps : Steps cfg full label full') :
    full.stack.run cfg (full.calls label) = some full'.stack ∧
      full'.stack.machine.layer.base.lowerRx = [] := by
  cases hsteps with
  | arrives chunk => exact ⟨rfl, hempty⟩
  | notifies hnotified hstack =>
      refine ⟨by simp [calls, hnotified, AbstractStack.run, Runs.run, hstack], ?_⟩
      rw [lowerRx_stack_step hstack (by rintro _ ⟨⟩), hempty]
      rfl
  | waits hnotified => exact ⟨by simp [calls, hnotified, AbstractStack.run, Runs.run], hempty⟩
  | passes hinput hstack =>
      have hlength := below_length full label
      rw [calls_passes hinput]
      refine ⟨Runs.run_concat (run_handed hempty (hlength.trans (by split_ifs <;> simp))) hstack,
        ?_⟩
      have harrives (message : Bytes) : label ≠ .receive message := by
        rintro rfl
        cases hinput
      rw [lowerRx_stack_step hstack harrives]
      apply List.eq_nil_of_length_eq_zero
      -- a message is there only if it is taken
      change (if full.stack.machine.asks label = true then (full.below label).2.tail
        else (full.below label).2).length = 0
      split_ifs at hlength ⊢
      · rw [List.length_tail]
        omega
      · omega

theorem run_refines {cfg : Config} {labels : List Label} {full full' : FullStack}
    (hempty : full.stack.machine.layer.base.lowerRx = [])
    (hrun : full.run cfg labels = some full') :
    full.stack.run cfg (full.allCalls cfg labels) = some full'.stack := by
  induction labels generalizing full with
  | nil =>
      cases hrun
      rfl
  | cons label labels ih =>
      obtain ⟨next, hstep, hrest⟩ := Runs.run_cons hrun
      obtain ⟨hcalls, hempty'⟩ := step_refines hempty (steps_of_step hstep)
      rw [allCalls, hstep]
      exact Runs.run_append hcalls (ih hempty' hrest)

end FullStack

/-! ## The messages that the crypto layer meets -/

namespace FullStack

open LinkLayer (Standing wanted payloadLimit)
open Scanner (scan)

/-- Everything that arrives in a run, one after the other. -/
def arrivals (labels : List Label) : List Bytes :=
  labels.filterMap Label.arrival

/-- What the layers below the crypto layer have no part in. -/
def others (labels : List Label) : List Label :=
  labels.filter fun label => !label.isInput

theorem arrivals_append (labels labels' : List Label) :
    arrivals (labels ++ labels') = arrivals labels ++ arrivals labels' :=
  List.filterMap_append

theorem arrivals_receive (messages : List Bytes) :
    arrivals (messages.map Label.receive) = messages := by
  induction messages with
  | nil => rfl
  | cons message messages ih => exact congrArg (message :: ·) ih

theorem others_receive (messages : List Bytes) : others (messages.map Label.receive) = [] := by
  induction messages with
  | nil => rfl
  | cons message messages ih => exact ih

/-- The link layer adds and removes input only. -/
theorem others_calls (full : FullStack) (label : Label) :
    others (full.calls label) = others [label] := by
  cases hinput : label.isInput with
  | true =>
      cases label with
      | receive chunk => rfl
      | lowerRxReady =>
          simp only [calls]
          split_ifs <;> rfl
      | _ => cases hinput
  | false =>
      rw [calls_passes hinput, others, List.filter_append]
      exact congrArg (· ++ others [label]) (others_receive _)

theorem arrivals_of_not_isInput {label : Label} (hinput : label.isInput = false) :
    arrivals [label] = [] := by
  cases label with
  | receive chunk => cases hinput
  | _ => rfl

theorem below_standing {full : FullStack} {label : Label} {localAddr : UInt16} {stream : Bytes}
    {taken : List LinkParser.Result} (h : Standing localAddr stream taken full.link)
    (hstays : label.closes = false) :
    ∃ more, (full.below label).2 = more.map LinkParser.Result.payload ∧
      Standing localAddr stream (taken ++ more) (full.below label).1 := by
  have hsame : Standing localAddr stream (taken ++ []) full.link := by simpa using h
  cases label with
  | lowerOpen ready env => exact ⟨[], rfl, by simpa [below] using h.onLowerOpen⟩
  | lowerClose ready => cases hstays
  | run env =>
      simp only [below]
      split_ifs
      · rcases h.startRx with ⟨result, -, hreceived, hnext⟩ | ⟨hreceived, hnext, -⟩
        · exact ⟨[result], hreceived, hnext⟩
        · exact ⟨[], hreceived, by simpa using hnext⟩
      · exact ⟨[], rfl, hsame⟩
  | _ => exact ⟨[], rfl, hsame⟩

/-- The messages of a step are the next wanted frames of the bytes. -/
theorem standing_step {cfg : Config} {full full' : FullStack} {label : Label} {localAddr : UInt16}
    {stream : Bytes} {taken : List LinkParser.Result}
    (h : Standing localAddr stream taken full.link) (hstays : label.closes = false)
    (hsteps : Steps cfg full label full') :
    ∃ more, arrivals (full.calls label) = more.map LinkParser.Result.payload ∧
      Standing localAddr (stream ++ (arrivals [label]).flatten) (taken ++ more) full'.link := by
  cases hsteps with
  | arrives chunk =>
      refine ⟨[], rfl, ?_⟩
      rw [show (arrivals [.receive chunk]).flatten = chunk from List.append_nil chunk,
        List.append_nil]
      exact h.arrive chunk
  | notifies hnotified hstack =>
      refine ⟨[], ?_, ?_⟩
      · rw [calls, if_pos hnotified]
        rfl
      · rw [show (arrivals [Label.lowerRxReady]).flatten = [] from rfl, List.append_nil,
          List.append_nil]
        exact h.rxReady
  | waits hnotified =>
      refine ⟨[], ?_, ?_⟩
      · rw [calls, if_neg (by simp [hnotified])]
        rfl
      · rw [show (arrivals [Label.lowerRxReady]).flatten = [] from rfl, List.append_nil,
          List.append_nil]
        exact h.rxReady
  | passes hinput hstack =>
      obtain ⟨more, hmore, hnext⟩ := below_standing h hstays
      refine ⟨more, ?_, ?_⟩
      · rw [calls_passes hinput, arrivals_append, arrivals_receive, arrivals_of_not_isInput hinput,
          List.append_nil, hmore]
      · rw [arrivals_of_not_isInput hinput, List.flatten_nil, List.append_nil]
        exact hnext

theorem standing_run {cfg : Config} {labels : List Label} {full full' : FullStack}
    {localAddr : UInt16} {stream : Bytes} {taken : List LinkParser.Result}
    (h : Standing localAddr stream taken full.link)
    (hstays : ∀ label ∈ labels, label.closes = false) (hrun : full.run cfg labels = some full') :
    ∃ more, arrivals (full.allCalls cfg labels) = more.map LinkParser.Result.payload ∧
      Standing localAddr (stream ++ (arrivals labels).flatten) (taken ++ more) full'.link := by
  induction labels generalizing full stream taken with
  | nil =>
      cases hrun
      exact ⟨[], rfl, by simpa [arrivals] using h⟩
  | cons label labels ih =>
      obtain ⟨next, hstep, hrest⟩ := Runs.run_cons hrun
      obtain ⟨first, hfirst, hnext⟩ :=
        standing_step h (hstays label List.mem_cons_self) (steps_of_step hstep)
      obtain ⟨more, hmore, hlast⟩ :=
        ih hnext (fun other hmem => hstays other (List.mem_cons_of_mem _ hmem)) hrest
      refine ⟨first ++ more, ?_, ?_⟩
      · rw [allCalls, hstep, arrivals_append, hfirst, hmore, List.map_append]
      · have hsplit : arrivals (label :: labels) = arrivals [label] ++ arrivals labels :=
          arrivals_append [label] labels
        rw [hsplit, List.flatten_append, ← List.append_assoc, ← List.append_assoc]
        exact hlast

theorem others_allCalls {cfg : Config} {labels : List Label} {full full' : FullStack}
    (hrun : full.run cfg labels = some full') :
    others (full.allCalls cfg labels) = others labels := by
  induction labels generalizing full with
  | nil => rfl
  | cons label labels ih =>
      obtain ⟨next, hstep, hrest⟩ := Runs.run_cons hrun
      have hsplit : others (label :: labels) = others [label] ++ others labels :=
        List.filter_append [label] labels
      rw [allCalls, hstep, hsplit, ← others_calls full label, ← ih hrest]
      exact List.filter_append ..

/-- **A full stack runs its crypto layer on scanned frames.**  Whatever bytes arrive, in whatever
chunks: a run of a full stack that is not closed from below is a run of its crypto layer, with the
same events of its surroundings.  The messages in it are the payloads of the first frames that the
scanner finds in the bytes, all of them for this station. -/
theorem carries_scanned_frames (cfg : Config) (localAddr remoteAddr : UInt16) (labels : List Label)
    (full : FullStack) (hrun : (create localAddr remoteAddr).run cfg labels = some full)
    (hstays : ∀ label ∈ labels, label.closes = false) :
    ∃ messages frames, AbstractStack.create.run cfg messages = some full.stack ∧
      others messages = others labels ∧ arrivals messages = frames.map LinkParser.Result.payload ∧
      frames <+: (scan payloadLimit [] (arrivals labels).flatten).frames ∧
      ∀ frame ∈ frames, wanted localAddr frame = true := by
  obtain ⟨frames, hframes, hstanding⟩ :=
    standing_run (LinkLayer.create_standing localAddr remoteAddr) hstays hrun
  exact ⟨(create localAddr remoteAddr).allCalls cfg labels, frames, run_refines rfl hrun,
    others_allCalls hrun, hframes, hstanding.taken_front, hstanding.taken_wanted⟩

/-- Noise, and the request of the sample handshake in a frame that arrives in two parts. -/
def noisy : List Label :=
  let stream := [0x07, 0x64] ++ Frame.encode ⟨2, 1, Sample.request ⟨100, 60000⟩⟩
  [.lowerOpen true (Sample.env 2), .receive (stream.take 5), .lowerRxReady,
    .receive (stream.drop 5), .lowerRxReady, .run (Sample.env 2), .run (Sample.env 2)]

theorem carries_scanned_frames_noisy : ∃ full,
    (create 2 1).run (Sample.responder 1000) noisy = some full ∧
      (transmissions full.stack.machine.layer.base.trace).length = 1 ∧
      ∃ messages frames,
        AbstractStack.create.run (Sample.responder 1000) messages = some full.stack ∧
        others messages = others noisy ∧
        arrivals messages = frames.map LinkParser.Result.payload ∧
        frames <+: (scan payloadLimit [] (arrivals noisy).flatten).frames ∧
        ∀ frame ∈ frames, wanted 2 frame = true := by
  have hanswered : ((create 2 1).run (Sample.responder 1000) noisy).map (fun full =>
      (transmissions full.stack.machine.layer.base.trace).length) = some 1 := by decide +kernel
  obtain ⟨full, hrun, hlength⟩ := Option.map_eq_some_iff.mp hanswered
  exact ⟨full, hrun, hlength, carries_scanned_frames (Sample.responder 1000) 2 1 noisy full hrun
    (by decide +kernel)⟩

end FullStack

end Ssp21
