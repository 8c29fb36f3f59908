import Ssp21.Crypto.Receiving

/-!
# The stack and the payloads it returns

`AbstractStack` stands between the crypto layer and the application.  Its
`start_rx_from_upper` is that of `ILowerLayer`, with a flag of its own: the crypto
layer is asked for data through `start_rx_from_upper_impl` and
`discard_rx_data` only, so that the flag which it resets on a close is never set.

* `UpperFollows`: the application calls when it is notified, and when it has
  finished with a slice.
* `Book`: the account of payloads.  A payload that is accepted for an open
  application is owed to it until it is returned.
* `Accounted`: in a run in which the stack is not reopened while its flag is set, and
  no answer fails that would cost a payload, the account is kept
  (`accounted_step`, `accounted_run`).
-/

namespace Ssp21

open Wire

/-- `AbstractStack`, over a crypto layer.  `due` belongs to the application: it has been
notified, and has not called since. -/
structure AbstractStack where
  machine : Machine
  upperIsProcessingRxData : Bool
  due : Bool
  deriving DecidableEq, Repr

namespace AbstractStack

def create : AbstractStack := ⟨Machine.create, false, false⟩

/-- `ILowerLayer::start_rx_from_upper` of the stack, around `start_rx_from_upper_impl` of the
crypto layer. -/
def startRxFromUpper (stack : AbstractStack) : AbstractStack :=
  let base := stack.machine.layer.base
  let base := if stack.upperIsProcessingRxData then { base with payloadData := [] } else base
  if base.payloadData.isEmpty then
    ⟨⟨{ stack.machine.layer with base := base }, .tryReadFromLower :: stack.machine.stack⟩, false,
      false⟩
  else
    ⟨⟨{ stack.machine.layer with base := base.log (.read base.payloadData) }, stack.machine.stack⟩,
      true, false⟩

/-- The application has been notified of data. -/
def notified (before after : List Task) : Bool :=
  before.count (.upper .onLowerRxReady) < after.count (.upper .onLowerRxReady)

def step (cfg : Config) (stack : AbstractStack) : Label → Option AbstractStack
  | .startRx =>
    if Machine.upperMayCall stack.machine.stack then some stack.startRxFromUpper else none
  | label => (stack.machine.step cfg label).map (fun machine =>
      ⟨machine, stack.upperIsProcessingRxData,
        stack.due || notified stack.machine.stack machine.stack⟩)

def run (cfg : Config) (stack : AbstractStack) (labels : List Label) : Option AbstractStack :=
  Runs.run (step cfg) stack labels

/-- The application calls `start_rx_from_upper` before it returns from `on_lower_rx_ready`,
and otherwise only when it has finished with a slice. -/
def UpperFollows (stack : AbstractStack) : Label → Prop
  | .startRx => stack.due = true ∨ stack.upperIsProcessingRxData = true
  | .ret => stack.machine.stack.head? = some (.upper .onLowerRxReady) → stack.due = false
  | _ => True

/-- The stack is not opened while the application holds a slice from before. -/
def ReopensFree (stack : AbstractStack) : Label → Prop
  | .lowerOpen _ _ => stack.machine.layer.base.isOpen = false →
      stack.upperIsProcessingRxData = false
  | _ => True

/-- If the step makes a responder accept an auth message with data for an open application,
then the answer can be formatted. -/
def AnswersData (cfg : Config) (stack : AbstractStack) (label : Label) : Prop :=
  let base := stack.machine.layer.base
  ∀ env ∈ label.running, stack.machine.stack.head? = some .tryReadFromLower →
    cfg.role.isResponder = true → base.canRead → base.upperOpen = true →
    ∀ message ∈ base.lowerRx.head?, ∀ msg ∈ (SessionData.read message).toOption,
    ∀ payload ∈ (SessionMode.read cfg.ctx.backend base.pending.algorithms.sessionMode
      base.pending.keys.rxKey msg cfg.ctx.payloadBufferLength).toOption,
    payload ≠ [] → msg.metadata.nonce = 0 →
    Session.Accepts cfg.ctx SessionNonceMode.equalToZero base.pending msg env.now payload →
    base.pending.CanFormat cfg.ctx env.later base.txState.remainder

instance (stack : AbstractStack) (label : Label) : Decidable (stack.UpperFollows label) :=
  match label with
  | .startRx => inferInstanceAs (Decidable (_ ∨ _))
  | .ret => inferInstanceAs (Decidable (_ → _))
  | .receive _ | .lowerOpen _ _ | .lowerClose _ | .lowerTxReady _ | .lowerRxReady | .timer _ _
  | .startTx _ | .run _ => isTrue trivial

instance (stack : AbstractStack) (label : Label) : Decidable (stack.ReopensFree label) :=
  match label with
  | .lowerOpen _ _ => inferInstanceAs (Decidable (_ → _))
  | .receive _ | .lowerClose _ | .lowerTxReady _ | .lowerRxReady | .timer _ _ | .startRx
  | .startTx _ | .ret | .run _ => isTrue trivial

instance (cfg : Config) (stack : AbstractStack) (label : Label) :
    Decidable (stack.AnswersData cfg label) :=
  inferInstanceAs (Decidable (∀ env ∈ label.running, _))

end AbstractStack

/-! ## The account of payloads -/

/-- Whether the application is open, and the payload that has not been returned, with
whether it is owed to the application. -/
structure Book where
  upperOpen : Bool
  unread : Option (Bytes × Bool)

namespace Book

def start : Book := ⟨false, none⟩

/-- The payload that has not been returned. -/
def holds (book : Book) (payload : Bytes) : Prop :=
  book.unread.map Prod.fst = some payload

instance (book : Book) (payload : Bytes) : Decidable (book.holds payload) :=
  inferInstanceAs (Decidable (_ = _))

/-- A payload is owed to the application. -/
def owed (book : Book) : Bool :=
  book.unread.any Prod.snd

/-- A payload that is accepted, or becomes available, while the application is open is
owed to it.  What becomes available or is returned is the payload that was accepted, and
the next payload is accepted only when none is owed. -/
def step (book : Book) : Observation → Option Book
  | .opened => some { book with upperOpen := true }
  | .closed => some { book with upperOpen := false }
  | .accepted _ _ payload =>
      if payload = [] then some book
      else if book.owed then none
      else some { book with unread := some (payload, book.upperOpen) }
  | .placed payload =>
      if book.holds payload then
        some { book with unread := some (payload, book.owed || book.upperOpen) }
      else none
  | .read payload => if book.holds payload then some { book with unread := none } else none
  | _ => some book

/-- Whether the application is open behind an observation. -/
def upperBehind (upperOpen : Bool) : Observation → Bool
  | .opened => true
  | .closed => false
  | _ => upperOpen

/-- The application is open behind a history. -/
def upperAfter (history : List Observation) : Bool :=
  history.foldl upperBehind false

/-- The payloads that are returned before the next one is accepted. -/
def returned : List Observation → List Bytes
  | [] => []
  | .accepted _ _ payload :: history => if payload = [] then returned history else []
  | .read payload :: history => payload :: returned history
  | _ :: history => returned history

theorem step_silent {observation : Observation} (hsilent : observation.silent = true)
    (book : Book) : book.step observation = some book := by
  cases observation with
  | accepted key msg payload =>
      obtain rfl : payload = [] := List.isEmpty_iff.mp hsilent
      rfl
  | opened => cases hsilent
  | closed => cases hsilent
  | placed payload => cases hsilent
  | read payload => cases hsilent
  | _ => rfl

theorem run_silent {history : List Observation}
    (hsilent : ∀ observation ∈ history, observation.silent = true) (book : Book) :
    Runs.run step book history = some book := by
  induction history with
  | nil => rfl
  | cons observation history ih =>
      simp only [Runs.run, step_silent (hsilent observation List.mem_cons_self)]
      exact ih (fun o hmem => hsilent o (List.mem_cons_of_mem _ hmem))

theorem upperOpen_of_step {observation : Observation} {book book' : Book}
    (hstep : book.step observation = some book') :
    book'.upperOpen = upperBehind book.upperOpen observation := by
  cases observation with
  | accepted key msg payload =>
      simp only [step] at hstep
      split_ifs at hstep <;> cases hstep <;> rfl
  | placed payload =>
      obtain ⟨-, ⟨⟩⟩ := Option.ite_none_right_eq_some.mp hstep
      rfl
  | read payload =>
      obtain ⟨-, ⟨⟩⟩ := Option.ite_none_right_eq_some.mp hstep
      rfl
  | _ =>
      cases hstep
      rfl

theorem upperOpen_of_run {history : List Observation} {book book' : Book}
    (hrun : Runs.run step book history = some book') :
    book'.upperOpen = history.foldl upperBehind book.upperOpen := by
  induction history generalizing book with
  | nil =>
      cases hrun
      rfl
  | cons observation history ih =>
      obtain ⟨next, hstep, hrest⟩ := Runs.run_cons hrun
      rw [ih hrest, List.foldl_cons, upperOpen_of_step hstep]

/-- The account at an observation made while the application is open. -/
theorem run_at {history history' : List Observation} {observation : Observation} {book : Book}
    (hrun : Runs.run step start (history ++ observation :: history') = some book)
    (hopen : upperAfter history = true) :
    ∃ before next, before.upperOpen = true ∧ step before observation = some next ∧
      Runs.run step next history' = some book := by
  obtain ⟨before, hbefore, hafter⟩ := Runs.run_of_append hrun
  obtain ⟨next, hnext, hafter⟩ := Runs.run_cons hafter
  exact ⟨before, next, (upperOpen_of_run hbefore).trans hopen, hnext, hafter⟩

/-- **What an account says**: nothing more is returned when nothing is left, and an owed
payload is returned once. -/
theorem returned_of_run {history : List Observation} {book book' : Book}
    (hrun : Runs.run step book history = some book') (hsettled : book'.owed = false) :
    (book.unread = none → returned history = []) ∧
      (∀ payload, book.unread = some (payload, true) → returned history = [payload]) := by
  induction history generalizing book with
  | nil =>
      cases hrun
      refine ⟨fun _ => rfl, ?_⟩
      intro payload hunread
      simp [owed, hunread] at hsettled
  | cons observation history ih =>
      obtain ⟨next, hstep, hrest⟩ := Runs.run_cons hrun
      have hnext := ih hrest
      cases observation with
      | accepted key msg payload' =>
          simp only [step] at hstep
          split_ifs at hstep with hempty howed
          · cases hstep
            simpa only [returned, hempty, if_true] using hnext
          · refine ⟨fun _ => by simp [returned, hempty], ?_⟩
            intro payload hunread
            simp [owed, hunread] at howed
      | placed payload' =>
          obtain ⟨hholds, ⟨⟩⟩ := Option.ite_none_right_eq_some.mp hstep
          refine ⟨?_, ?_⟩
          · intro hunread
            simp [holds, hunread] at hholds
          · intro payload hunread
            simp only [holds, hunread, Option.map_some, Option.some.injEq] at hholds
            exact hnext.2 payload (by simp [owed, hunread, hholds])
      | read payload' =>
          obtain ⟨hholds, ⟨⟩⟩ := Option.ite_none_right_eq_some.mp hstep
          refine ⟨?_, ?_⟩
          · intro hunread
            simp [holds, hunread] at hholds
          · intro payload hunread
            simp only [holds, hunread, Option.map_some, Option.some.injEq] at hholds
            rw [returned, hnext.1 rfl, hholds]
      | _ =>
          cases hstep
          exact hnext

end Book

/-! ## What the account depends on -/

namespace CryptoLayer

/-- A change that neither the account nor the stack sees. -/
structure Unseen (base base' : CryptoLayer) : Prop where
  isOpen : base'.isOpen = base.isOpen
  payloadData : base'.payloadData = base.payloadData
  upperOpen : base'.upperOpen = base.upperOpen
  trace : ∃ new, base'.trace = base.trace ++ new ∧ ∀ o ∈ new, o.silent = true

theorem Quiet.unseen {base base' : CryptoLayer} (hquiet : base.Quiet base') : base.Unseen base' :=
  ⟨hquiet.isOpen, hquiet.payloadData, hquiet.upperOpen, hquiet.trace⟩

namespace Unseen

variable {base base' base'' : CryptoLayer}

theorem of_same (hopen : base'.isOpen = base.isOpen)
    (hpayload : base'.payloadData = base.payloadData)
    (hupper : base'.upperOpen = base.upperOpen) (htrace : base'.trace = base.trace) :
    Unseen base base' :=
  ⟨hopen, hpayload, hupper, [], by simp [htrace], by simp⟩

theorem refl (base : CryptoLayer) : Unseen base base :=
  .of_same rfl rfl rfl rfl

theorem trans (h : Unseen base base') (h' : Unseen base' base'') : Unseen base base'' :=
  ⟨h'.isOpen.trans h.isOpen, h'.payloadData.trans h.payloadData, h'.upperOpen.trans h.upperOpen,
    History.extends_trans h.trace h'.trace⟩

theorem onLowerTxReady {cfg : Config} (env : Env) (layer : Layer) :
    Unseen layer.base (layer.onLowerTxReady cfg env).1.base := by
  have hready : Unseen layer.base ({ layer.base with lowerTxReady := true }.log .completed) :=
    ⟨rfl, rfl, rfl, [.completed], rfl, by simp [Observation.silent, Observation.sheltered]⟩
  have hcomplete : Unseen layer.base layer.base.complete := hready.trans (.of_same rfl rfl rfl rfl)
  have hpre : Unseen layer.base
      (Layer.onPreTxReady cfg env { layer with base := layer.base.complete }).base :=
    hcomplete.trans ((Layer.handshakes_confined _).onPreTxReady _ _ env).toQuiet.unseen
  unfold Layer.onLowerTxReady
  dsimp only
  split_ifs
  · exact hready
  · exact hpre.trans (Confined.notifyTxReady _).toQuiet.unseen
  · exact hpre

end Unseen

end CryptoLayer

/-- Tasks that may stand above the rest of an auth message. -/
def Task.calm : Task → Bool
  | .upper _ => true
  | .checkTransmit => true
  | _ => false

/-- At most one payload of an auth message is still to be placed, and nothing is read
before it. -/
inductive Shielded : List Task → Prop
  | none {k : List Task} (hnone : ∀ payload, .authPayload payload ∉ k) : Shielded k
  | payload (payload : Bytes) {k : List Task} (hnone : ∀ payload, .authPayload payload ∉ k) :
      Shielded (.authPayload payload :: k)
  | calm {task : Task} {k : List Task} (hcalm : task.calm = true) (hrest : Shielded k) :
      Shielded (task :: k)

namespace Shielded

variable {task : Task} {k : List Task}

theorem tail (h : Shielded (task :: k)) : Shielded k := by
  cases h with
  | none hnone => exact .none (fun p hmem => hnone p (List.mem_cons_of_mem _ hmem))
  | payload p hnone => exact .none hnone
  | calm hcalm hrest => exact hrest

/-- Below anything else there is none. -/
theorem none_below (h : Shielded (task :: k)) (hcalm : task.calm = false) (payload : Bytes) :
    .authPayload payload ∉ k := by
  cases h with
  | none hnone => exact fun hmem => hnone payload (List.mem_cons_of_mem _ hmem)
  | payload p hnone => exact hnone payload
  | calm hcalm' hrest =>
      rw [hcalm] at hcalm'
      cases hcalm'

theorem append {tasks : List Task} (hcalm : ∀ task ∈ tasks, task.calm = true) (h : Shielded k) :
    Shielded (tasks ++ k) := by
  induction tasks with
  | nil => exact h
  | cons task tasks ih =>
      exact .calm (hcalm task List.mem_cons_self)
        (ih (fun t hmem => hcalm t (List.mem_cons_of_mem _ hmem)))

end Shielded

/-- The account agrees with the layer, its tasks `k`, the flag of the stack and what the
application is due to do. -/
structure Kept (book : Book) (base : CryptoLayer) (k : List Task) (flag due : Bool) : Prop where
  shielded : Shielded k
  waiting : ∀ payload, .authPayload payload ∈ k →
    base.payloadData = [] ∧ flag = false ∧ (payload ≠ [] → book.holds payload)
  announced : due = true → base.payloadData ≠ [] ∧ flag = false ∧ .upper .onLowerRxReady ∈ k
  stale : flag = true → base.payloadData = [] → base.isOpen = false ∧ .tryReadFromLower ∉ k
  upperOpen : book.upperOpen = base.upperOpen
  unread : base.payloadData ≠ [] → flag = false → book.holds base.payloadData
  owed : book.owed = true → due = true ∨
    base.upperOpen = true ∧ ∃ payload, k.head? = some (.authPayload payload) ∧ payload ≠ []

/-- The account of the history is kept. -/
def Accounted (stack : AbstractStack) : Prop :=
  ∃ book, Runs.run Book.step Book.start stack.machine.layer.base.trace = some book ∧
    Kept book stack.machine.layer.base stack.machine.stack stack.upperIsProcessingRxData stack.due

/-! ## One step -/

namespace AbstractStack

/-- The application is not notified by tasks that are no notification. -/
theorem not_notified {before after : List Task}
    (hcount : after.count (.upper .onLowerRxReady) ≤ before.count (.upper .onLowerRxReady)) :
    notified before after = false := by
  simpa [notified] using hcount

theorem count_of_not_mem {tasks k : List Task} (hnone : .upper .onLowerRxReady ∉ tasks) :
    (tasks ++ k).count (.upper .onLowerRxReady) = k.count (.upper .onLowerRxReady) := by
  rw [List.count_append, List.count_eq_zero.mpr hnone, Nat.zero_add]

end AbstractStack

namespace Accounted

open AbstractStack
open CryptoLayer (Unseen Confined)

variable {layer layer' : Layer} {k k' : List Task} {flag due : Bool}

/-- The account takes what is observed. -/
theorem of_observed {book book' : Book} {new : List Observation}
    (hbook : Runs.run Book.step Book.start layer.base.trace = some book)
    (htrace : layer'.base.trace = layer.base.trace ++ new)
    (hnew : Runs.run Book.step book new = some book')
    (hkept : Kept book' layer'.base k' flag due) : Accounted ⟨⟨layer', k'⟩, flag, due⟩ := by
  refine ⟨book', ?_, hkept⟩
  show Runs.run Book.step Book.start layer'.base.trace = some book'
  rw [htrace]
  exact Runs.run_append hbook hnew

/-- A change that the account does not see, and that leaves the tasks in order. -/
theorem frame (h : Accounted ⟨⟨layer, k⟩, flag, due⟩) (hunseen : Unseen layer.base layer'.base)
    (hshielded : Shielded k')
    (hauth : ∀ payload, .authPayload payload ∈ k' → .authPayload payload ∈ k)
    (hcallback : due = true → .upper .onLowerRxReady ∈ k → .upper .onLowerRxReady ∈ k')
    (hread : layer.base.isOpen = false → .tryReadFromLower ∈ k' → .tryReadFromLower ∈ k)
    (hhead : k' = k ∨ ∀ payload, k.head? = some (.authPayload payload) → payload = [])
    (hcount : k'.count (.upper .onLowerRxReady) ≤ k.count (.upper .onLowerRxReady)) :
    Accounted ⟨⟨layer', k'⟩, flag, due || notified k k'⟩ := by
  rw [not_notified hcount, Bool.or_false]
  obtain ⟨book, hbook, hkept⟩ := h
  obtain ⟨new, htrace, hnew⟩ := hunseen.trace
  refine of_observed hbook htrace (Book.run_silent hnew book) ⟨hshielded, ?_, ?_, ?_, ?_, ?_, ?_⟩
  · intro payload hmem
    rw [hunseen.payloadData]
    exact hkept.waiting payload (hauth payload hmem)
  · intro hdue
    obtain ⟨hpayload, hflag, hmem⟩ := hkept.announced hdue
    rw [hunseen.payloadData]
    exact ⟨hpayload, hflag, hcallback hdue hmem⟩
  · intro hflag hpayload
    rw [hunseen.payloadData] at hpayload
    obtain ⟨hclosed, hnone⟩ := hkept.stale hflag hpayload
    rw [hunseen.isOpen]
    exact ⟨hclosed, fun hmem => hnone (hread hclosed hmem)⟩
  · rw [hunseen.upperOpen]
    exact hkept.upperOpen
  · rw [hunseen.payloadData]
    exact hkept.unread
  · intro howed
    rw [hunseen.upperOpen]
    rcases hkept.owed howed with hdue | ⟨hup, payload, hpayload, hne⟩
    · exact Or.inl hdue
    · rcases hhead with rfl | hhead
      · exact Or.inr ⟨hup, payload, hpayload, hne⟩
      · exact absurd (hhead payload hpayload) hne

/-- Such a change alone. -/
theorem unseen (h : Accounted ⟨⟨layer, k⟩, flag, due⟩) (hunseen : Unseen layer.base layer'.base) :
    Accounted ⟨⟨layer', k⟩, flag, due || notified k k⟩ := by
  obtain ⟨book, -, hkept⟩ := id h
  exact h.frame hunseen hkept.shielded (fun _ hmem => hmem) (fun _ hmem => hmem)
    (fun _ hmem => hmem) (Or.inl rfl) le_rfl

/-- A task is finished; the application does not return from a notification before it
has called. -/
theorem pop {task : Task} (h : Accounted ⟨⟨layer, task :: k⟩, flag, due⟩)
    (hunseen : Unseen layer.base layer'.base)
    (hcalled : task = .upper .onLowerRxReady → due = false)
    (hempty : ∀ payload, task = .authPayload payload → payload = []) :
    Accounted ⟨⟨layer', k⟩, flag, due || notified (task :: k) k⟩ := by
  obtain ⟨book, -, hkept⟩ := id h
  refine h.frame hunseen hkept.shielded.tail (fun p hmem => List.mem_cons_of_mem _ hmem) ?_
    (fun _ hmem => List.mem_cons_of_mem _ hmem) (Or.inr ?_) List.count_le_count_cons
  · intro hdue hmem
    rcases List.mem_cons.mp hmem with rfl | hmem
    · rw [hcalled rfl] at hdue
      cases hdue
    · exact hmem
  · intro payload hhead
    exact hempty payload (Option.some.inj hhead)

theorem startTx (h : Accounted ⟨⟨layer, k⟩, flag, due⟩) (data : Bytes)
    (hcall : Machine.upperMayCall k = true) :
    Accounted ⟨⟨{ layer with base := (layer.base.startTxFromUpper data).1 },
      (layer.base.startTxFromUpper data).2 ++ k⟩, flag,
      due || notified k ((layer.base.startTxFromUpper data).2 ++ k)⟩ := by
  unfold CryptoLayer.startTxFromUpper
  split_ifs
  · obtain ⟨book, -, hkept⟩ := id h
    have hunseen : Unseen layer.base
        ({ layer.base with txState := TxState.initializeWith data }.log (.submit data)) :=
      ⟨rfl, rfl, rfl, [.submit data], rfl, by simp [Observation.silent, Observation.sheltered]⟩
    refine h.frame hunseen (.calm rfl hkept.shielded) (by simp) (by simp) (by simp) (Or.inr ?_)
      (by simp)
    -- a call is not made while a payload is to be placed next
    intro payload hhead
    cases k with
    | nil => cases hhead
    | cons task k =>
        cases hhead
        cases hcall
  · exact h.unseen (.refl _)

theorem lowerTxReady {cfg : Config} (h : Accounted ⟨⟨layer, []⟩, flag, due⟩) (env : Env) :
    Accounted ⟨⟨(layer.onLowerTxReady cfg env).1, (layer.onLowerTxReady cfg env).2⟩, flag,
      due || notified [] (layer.onLowerTxReady cfg env).2⟩ := by
  have hunseen := @Unseen.onLowerTxReady cfg env layer
  by_cases hopen : layer.base.isOpen = true
  · have htasks {task : Task} (hmem : task ∈ (layer.onLowerTxReady cfg env).2) :
        task = .upper .onLowerTxReady ∨ task ∈ [.tryReadFromLower, .checkTransmit] := by
      rw [Layer.onLowerTxReady, if_neg (by simpa [CryptoLayer.log] using hopen)] at hmem
      dsimp only at hmem
      split_ifs at hmem
      · exact (List.mem_append.mp hmem).imp_left CryptoLayer.notifyTxReady_snd
      · exact Or.inr hmem
    refine h.frame hunseen (.none fun _ hmem => ?_) (fun _ hmem => ?_) (by rintro - ⟨⟩)
      (fun hclosed => ?_) (Or.inr (by rintro _ ⟨⟩)) ?_
    · simpa using htasks hmem
    · simpa using htasks hmem
    · rw [hopen] at hclosed
      cases hclosed
    · rw [List.count_eq_zero.mpr (fun hmem => by simpa using htasks hmem)]
      exact Nat.zero_le _
  · have hnone : (layer.onLowerTxReady cfg env).2 = [] := by
      rw [Layer.onLowerTxReady, if_pos (by simpa [CryptoLayer.log] using hopen)]
    rw [hnone]
    exact h.unseen hunseen

theorem startRx (h : Accounted ⟨⟨layer, k⟩, flag, due⟩) (hfollows : due = true ∨ flag = true) :
    Accounted (AbstractStack.startRxFromUpper ⟨⟨layer, k⟩, flag, due⟩) := by
  obtain ⟨book, hbook, hkept⟩ := h
  cases flag with
  | true =>
      -- the application has finished with a slice, and nothing else is owed to it
      have hnone (payload : Bytes) : .authPayload payload ∉ k :=
        fun hmem => nomatch (hkept.waiting payload hmem).2.1
      have howed : book.owed ≠ true := by
        intro howed
        rcases hkept.owed howed with hdue | ⟨-, payload, hhead, -⟩
        · cases (hkept.announced hdue).2.1
        · exact hnone payload (List.mem_of_mem_head? hhead)
      refine of_observed hbook (List.append_nil _).symm rfl
        ⟨.none (by simpa using hnone), ?_, by rintro ⟨⟩, by rintro ⟨⟩, hkept.upperOpen, ?_,
          fun h => absurd h howed⟩
      · intro payload hmem
        exact absurd ((List.mem_cons.mp hmem).resolve_left (by simp)) (hnone payload)
      · intro hpayload
        exact absurd rfl hpayload
  | false =>
      obtain ⟨hpayload, -, -⟩ := hkept.announced (hfollows.resolve_right (by simp))
      have hread : AbstractStack.startRxFromUpper ⟨⟨layer, k⟩, false, due⟩ =
          ⟨⟨{ layer with base := layer.base.log (.read layer.base.payloadData) }, k⟩, true,
            false⟩ := by
        simp [AbstractStack.startRxFromUpper, hpayload]
      rw [hread]
      have hholds := hkept.unread hpayload rfl
      have hreturned : Runs.run Book.step book [.read layer.base.payloadData] =
          some { book with unread := none } := by
        simp only [Runs.run, Book.step, if_pos hholds]
      refine of_observed hbook rfl hreturned
        ⟨hkept.shielded, ?_, by rintro ⟨⟩, ?_, hkept.upperOpen, by rintro _ ⟨⟩, by rintro ⟨⟩⟩
      · intro payload hmem
        exact absurd (hkept.waiting payload hmem).1 hpayload
      · intro _ hempty
        exact absurd hempty hpayload

theorem lowerOpen {cfg : Config} (h : Accounted ⟨⟨layer, []⟩, flag, due⟩) (env : Env) (ready : Bool)
    (hfree : layer.base.isOpen = false → flag = false) :
    Accounted ⟨⟨layer.onLowerOpen cfg env ready, []⟩, flag, due || notified [] []⟩ := by
  by_cases hopen : layer.base.isOpen = true
  · rw [Layer.onLowerOpen, if_pos hopen]
    simpa [notified] using h
  · obtain rfl := hfree (by simpa using hopen)
    -- the flag is not set, so that nothing can be stale
    have hopened : Accounted ⟨⟨{ layer with base := { layer.base with
        isOpen := true, lowerTxReady := ready } }, []⟩, false, due⟩ := by
      obtain ⟨book, hbook, hkept⟩ := h
      exact ⟨book, hbook, hkept.shielded, by rintro _ ⟨⟩, hkept.announced, by rintro ⟨⟩,
        hkept.upperOpen, hkept.unread, hkept.owed⟩
    rw [Layer.onLowerOpen, if_neg hopen]
    dsimp only
    split
    · exact hopened.unseen ((Layer.handshakes_confined _).onHandshakeRequired _ _ env
        env.now).toQuiet.unseen
    · simpa [notified] using hopened

/-- What the account takes when the application is closed. -/
theorem run_closed {book : Book} {base : CryptoLayer} (hupper : book.upperOpen = base.upperOpen) :
    Runs.run Book.step book (if base.upperOpen then [.closed] else []) =
      some { book with upperOpen := false } := by
  obtain ⟨upperOpen, unread⟩ := book
  obtain rfl : upperOpen = base.upperOpen := hupper
  cases base.upperOpen <;> rfl

theorem lowerClose {cfg : Config} (h : Accounted ⟨⟨layer, []⟩, flag, due⟩) (ready : Bool) :
    Accounted ⟨⟨(layer.onLowerClose cfg ready).1, (layer.onLowerClose cfg ready).2⟩, flag,
      due || notified [] (layer.onLowerClose cfg ready).2⟩ := by
  by_cases hopen : layer.base.isOpen = true
  · obtain ⟨book, hbook, hkept⟩ := h
    obtain rfl : due = false := by
      rw [← Bool.not_eq_true]
      exact fun hdue => nomatch (hkept.announced hdue).2.2
    have howed : book.owed ≠ true := by
      intro howed
      rcases hkept.owed howed with hdue | ⟨-, payload, hhead, -⟩
      · cases hdue
      · cases hhead
    rw [Layer.onLowerClose, if_neg (by simp [hopen])]
    dsimp only
    generalize hclosed : ({ ({ layer.base with isOpen := false, lowerTxReady := ready } :
      CryptoLayer).resetBoth with payloadData := [] } : CryptoLayer) = closed
    have htasks {task : Task} (hmem : task ∈ closed.closeUpper.2 ++ [.afterClose]) :
        task = .upper .onLowerClose ∨ task = .afterClose :=
      (List.mem_append.mp hmem).imp CryptoLayer.closeUpper_snd List.mem_singleton.mp
    have hquiet : .upper .onLowerRxReady ∉ closed.closeUpper.2 ++ [.afterClose] := by
      intro hmem
      cases htasks hmem <;> contradiction
    rw [not_notified (by rw [List.count_eq_zero.mpr hquiet]; exact Nat.zero_le _)]
    refine of_observed hbook (by rw [CryptoLayer.closeUpper_fst, ← hclosed]; rfl)
      (run_closed hkept.upperOpen) ⟨.none ?_, ?_, by rintro ⟨⟩, ?_, ?_, ?_, fun h => absurd h howed⟩
    · intro payload hmem
      cases htasks hmem <;> contradiction
    · intro payload hmem
      cases htasks hmem <;> contradiction
    · intro _ _
      refine ⟨by rw [CryptoLayer.closeUpper_fst, ← hclosed]; rfl, fun hmem => ?_⟩
      cases htasks hmem <;> contradiction
    · rw [CryptoLayer.closeUpper_fst]
    · rw [CryptoLayer.closeUpper_fst, ← hclosed]
      exact fun hpayload => absurd rfl hpayload
  · rw [Layer.onLowerClose, if_pos (by simpa using hopen)]
    simpa [notified] using h

theorem checkTransmit {cfg : Config} (h : Accounted ⟨⟨layer, .checkTransmit :: k⟩, flag, due⟩)
    (env : Env) :
    Accounted ⟨⟨(layer.checkTransmit cfg env).1, (layer.checkTransmit cfg env).2 ++ k⟩, flag,
      due || notified (.checkTransmit :: k) ((layer.checkTransmit cfg env).2 ++ k)⟩ := by
  unfold Layer.checkTransmit
  dsimp only
  split_ifs
  · exact h.pop (.refl _) nofun nofun
  · split
    · -- the session is reset, and the application closed; it may still be due to call
      obtain ⟨book, hbook, hkept⟩ := h
      have hclosed := @CryptoLayer.closeUpper_snd { layer.base.log .dataFormatFailed with
        active := layer.base.active.reset }
      generalize hfailed : ({ layer.base.log .dataFormatFailed with
        active := layer.base.active.reset } : CryptoLayer) = failed at hclosed ⊢
      have hbelow {task : Task} (hne : task ≠ .upper .onLowerClose)
          (hmem : task ∈ failed.closeUpper.2 ++ k) : task ∈ .checkTransmit :: k :=
        List.mem_cons_of_mem _ ((List.mem_append.mp hmem).resolve_left (fun h => hne (hclosed h)))
      have hcount : (failed.closeUpper.2 ++ k).count (.upper .onLowerRxReady) ≤
          (Task.checkTransmit :: k).count (.upper .onLowerRxReady) := by
        rw [count_of_not_mem (fun hmem => nomatch hclosed hmem)]
        exact List.count_le_count_cons
      rw [not_notified hcount, Bool.or_false]
      have hobserved : Runs.run Book.step book
          ([.dataFormatFailed] ++ if layer.base.upperOpen then [.closed] else []) =
            some { book with upperOpen := false } := run_closed hkept.upperOpen
      refine of_observed hbook
        (by rw [CryptoLayer.closeUpper_fst, ← hfailed]; exact List.append_assoc _ _ _) hobserved
        ⟨.append (fun t hmem => by rw [hclosed hmem]; rfl) hkept.shielded.tail, ?_, ?_,
          ?_, ?_, ?_, ?_⟩
      · intro payload hmem
        rw [CryptoLayer.closeUpper_fst, ← hfailed]
        exact hkept.waiting payload (hbelow (by simp) hmem)
      · intro hdue
        obtain ⟨hpayload, hflag, hmem⟩ := hkept.announced hdue
        rw [CryptoLayer.closeUpper_fst, ← hfailed]
        exact ⟨hpayload, hflag, List.mem_append_right _
          ((List.mem_cons.mp hmem).resolve_left (by simp))⟩
      · intro hflag hpayload
        rw [CryptoLayer.closeUpper_fst, ← hfailed] at hpayload ⊢
        obtain ⟨hshut, hnone⟩ := hkept.stale hflag hpayload
        exact ⟨hshut, fun hmem => hnone (hbelow (by simp) (by rw [← hfailed]; exact hmem))⟩
      · rw [CryptoLayer.closeUpper_fst]
      · rw [CryptoLayer.closeUpper_fst, ← hfailed]
        exact hkept.unread
      · intro howed
        rcases hkept.owed howed with hdue | ⟨-, payload, hhead, -⟩
        · exact Or.inl hdue
        · cases hhead
    · have hsent : Unseen layer.base { layer.base with
          active := (layer.base.active.formatSessionData cfg.ctx env.now
            layer.base.txState.remainder).session
          txState := layer.base.txState.beginTransmit (layer.base.active.formatSessionData cfg.ctx
            env.now layer.base.txState.remainder).remainder } := .of_same rfl rfl rfl rfl
      exact h.pop ((hsent.trans (Confined.lowerStartTx _ _).toQuiet.unseen).trans
        ((Layer.handshakes_confined _).onSessionNonceChange _ _ env).toQuiet.unseen) nofun nofun

/-- A notification reaches an open application. -/
theorem notified_notifyRxReady (base : CryptoLayer) {before k : List Task}
    (hcount : before.count (.upper .onLowerRxReady) = k.count (.upper .onLowerRxReady)) :
    notified before (base.notifyRxReady.2 ++ k) = base.upperOpen := by
  cases hopen : base.upperOpen <;> simp [CryptoLayer.notifyRxReady, hopen, notified, hcount]

/-- A payload has been placed and announced; the tasks do not hold another one. -/
theorem of_placed {book : Book} {base : CryptoLayer} {initiator : InitiatorState}
    (hbook : Runs.run Book.step Book.start base.trace = some book) {payload : Bytes}
    (hplaced : base.payloadData = payload) (hpayload : payload ≠ [])
    (hunread : book.unread = some (payload, base.upperOpen))
    (hupper : book.upperOpen = base.upperOpen) (hnone : ∀ payload, .authPayload payload ∉ k)
    {before : List Task}
    (hcount : before.count (.upper .onLowerRxReady) = k.count (.upper .onLowerRxReady)) :
    Accounted ⟨⟨⟨base.notifyRxReady.1, initiator⟩, base.notifyRxReady.2 ++ k⟩, false,
      false || notified before (base.notifyRxReady.2 ++ k)⟩ := by
  have hnotified := (Confined.notifyRxReady base).toQuiet.unseen
  obtain ⟨new, htrace, hnew⟩ := hnotified.trace
  rw [notified_notifyRxReady base hcount, Bool.false_or]
  have hnone' (payload : Bytes) : .authPayload payload ∉ base.notifyRxReady.2 ++ k := by
    unfold CryptoLayer.notifyRxReady
    split_ifs <;> simp [hnone]
  refine @of_observed ⟨base, initiator⟩ _ _ _ _ _ _ _ hbook htrace (Book.run_silent hnew book)
    ⟨.none hnone', fun p hmem => absurd hmem (hnone' p), ?_, nofun, ?_, ?_, ?_⟩
  · intro hopen
    rw [hnotified.payloadData, hplaced]
    exact ⟨hpayload, rfl, by simp [CryptoLayer.notifyRxReady, hopen]⟩
  · rw [hnotified.upperOpen, hupper]
  · intro _ _
    rw [hnotified.payloadData, hplaced, Book.holds, hunread]
    rfl
  · intro howed
    refine Or.inl ?_
    simpa [Book.owed, hunread] using howed

theorem authPayload (payload : Bytes) (hpayload : payload ≠ [])
    (h : Accounted ⟨⟨layer, .authPayload payload :: k⟩, flag, due⟩) :
    let notified' := (layer.base.placePayload payload).notifyRxReady
    Accounted ⟨⟨{ layer with base := notified'.1 }, notified'.2 ++ k⟩, flag,
      due || notified (.authPayload payload :: k) (notified'.2 ++ k)⟩ := by
  obtain ⟨book, hbook, hkept⟩ := h
  obtain ⟨hempty, rfl, hholds⟩ := hkept.waiting payload List.mem_cons_self
  obtain rfl : due = false := by
    rw [← Bool.not_eq_true]
    exact fun hdue => (hkept.announced hdue).1 hempty
  have howed : (book.owed || book.upperOpen) = layer.base.upperOpen := by
    rw [hkept.upperOpen]
    cases howed : book.owed with
    | false => rfl
    | true => rw [((hkept.owed howed).resolve_left (by simp)).1]; rfl
  have hplaced : Runs.run Book.step book [.placed payload] =
      some { book with unread := some (payload, layer.base.upperOpen) } := by
    simp only [Runs.run, Book.step, if_pos (hholds hpayload), howed]
  have hbook' : Runs.run Book.step Book.start (layer.base.placePayload payload).trace = some _ :=
    Runs.run_append hbook hplaced
  exact of_placed hbook' rfl hpayload rfl hkept.upperOpen (hkept.shielded.none_below rfl)
    (List.count_cons_of_ne (show Task.authPayload payload ≠ _ by simp))

/-- While the layer can read, no payload is on its way to the application. -/
theorem reading {book : Book} {base : CryptoLayer}
    (hkept : Kept book base (.tryReadFromLower :: k) flag due) (hempty : base.payloadData = []) :
    flag = false ∧ due = false ∧ book.owed = false ∧ ∀ payload, .authPayload payload ∉ k := by
  have hdue : due ≠ true := fun hdue => (hkept.announced hdue).1 hempty
  refine ⟨?_, by simpa using hdue, ?_, hkept.shielded.none_below rfl⟩
  · rw [← Bool.not_eq_true]
    exact fun hflag => (hkept.stale hflag hempty).2 List.mem_cons_self
  · rw [← Bool.not_eq_true]
    intro howed
    rcases hkept.owed howed with h | ⟨-, payload, hhead, -⟩
    · exact hdue h
    · cases hhead

/-- The account takes an accepted payload. -/
theorem run_accepted {book : Book} {base : CryptoLayer}
    (hbook : Runs.run Book.step Book.start base.trace = some book) (howed : book.owed = false)
    (key : Bytes) (msg : SessionData) (payload : Bytes) :
    ∃ book', Runs.run Book.step Book.start (base.log (.accepted key msg payload)).trace =
      some book' ∧
      book'.upperOpen = book.upperOpen ∧
      (payload ≠ [] → book'.unread = some (payload, book.upperOpen)) ∧
      (book'.owed = true → book.upperOpen = true ∧ payload ≠ []) := by
  by_cases hpayload : payload = []
  · refine ⟨book, Runs.run_append hbook (by simp [Runs.run, Book.step, hpayload]), rfl,
      fun hne => absurd hpayload hne, ?_⟩
    rw [howed]
    rintro ⟨⟩
  · refine ⟨{ book with unread := some (payload, book.upperOpen) },
      Runs.run_append hbook (by simp [Runs.run, Book.step, howed, hpayload]), rfl, fun _ => rfl, ?_⟩
    intro howed'
    exact ⟨by simpa [Book.owed] using howed', hpayload⟩

/-- What the account takes when the application is opened. -/
theorem run_opened {book : Book} {base : CryptoLayer} (hupper : book.upperOpen = base.upperOpen) :
    Runs.run Book.step book (if base.upperOpen then [] else [.opened]) =
      some { book with upperOpen := true } := by
  obtain ⟨upperOpen, unread⟩ := book
  obtain rfl : upperOpen = base.upperOpen := hupper
  cases base.upperOpen <;> rfl

/-- The account behind an unseen change. -/
theorem run_unseen {book : Book} {base base' : CryptoLayer} (hunseen : Unseen base base')
    (hbook : Runs.run Book.step Book.start base.trace = some book) :
    Runs.run Book.step Book.start base'.trace = some book := by
  obtain ⟨new, htrace, hnew⟩ := hunseen.trace
  rw [htrace]
  exact Runs.run_append hbook (Book.run_silent hnew book)

/-- What a message delivers is accounted for, unless it is dropped for an open
application. -/
theorem delivers {mayDrop : Bytes → Prop} {base base' : CryptoLayer} {tasks : List Task}
    {initiator initiator' : InitiatorState}
    (h : Accounted ⟨⟨⟨base, initiator⟩, .tryReadFromLower :: k⟩, flag, due⟩)
    (hempty : base.payloadData = []) (hdelivers : Delivers mayDrop base base' tasks)
    (hdrop : ∀ payload, mayDrop payload → base.upperOpen = true → payload = []) :
    Accounted ⟨⟨⟨base', initiator'⟩, tasks ++ .tryReadFromLower :: k⟩, flag,
      due || notified (.tryReadFromLower :: k) (tasks ++ .tryReadFromLower :: k)⟩ := by
  obtain ⟨book, hbook, hkept⟩ := id h
  obtain ⟨rfl, rfl, howed, hnone⟩ := reading hkept hempty
  have hnone' (payload : Bytes) : .authPayload payload ∉ Task.tryReadFromLower :: k := by
    simpa using hnone payload
  cases hdelivers with
  | nothing hquiet =>
      exact h.unseen hquiet.unseen
  | @data middle base' key msg payload hpayload hbefore hafter =>
      obtain ⟨book', haccepted, hup', hunread, -⟩ :=
        run_accepted (run_unseen hbefore.unseen hbook) howed key msg payload
      have hplaced : Runs.run Book.step book' [.placed payload] =
          some { book' with unread := some (payload, book.upperOpen) } := by
        simp [Runs.run, Book.step, Book.holds, Book.owed, hunread hpayload, hup']
      have hbook' : Runs.run Book.step Book.start
          ((middle.log (.accepted key msg payload)).placePayload payload).trace = some _ :=
        Runs.run_append haccepted hplaced
      have hupper : book.upperOpen = base'.upperOpen :=
        hkept.upperOpen.trans (hafter.upperOpen.trans hbefore.upperOpen).symm
      refine of_placed (run_unseen hafter.unseen hbook') hafter.payloadData hpayload ?_
        (hup'.trans hupper) hnone' rfl
      rw [← hupper]
      rfl
  | @auth middle base' key msg payload rest hrest hbefore hafter =>
      obtain ⟨book', haccepted, hup', hunread, howed'⟩ :=
        run_accepted (run_unseen hbefore.unseen hbook) howed key msg payload
      have hupper : book'.upperOpen = base'.upperOpen := hup'.trans
        (hkept.upperOpen.trans (hafter.upperOpen.trans hbefore.upperOpen).symm)
      have hpayload : base'.openUpper.1.payloadData = [] := by
        rw [CryptoLayer.openUpper_fst]
        exact (hafter.payloadData.trans hbefore.payloadData).trans hempty
      have hidle {task : Task} (hmem : task ∈ rest) : task = .enterIdle := by
        rcases hrest with rfl | rfl
        · cases hmem
        · exact List.mem_singleton.mp hmem
      have hbelow (p : Bytes) : .authPayload p ∉ rest ++ .tryReadFromLower :: k := by
        intro hmem
        rcases List.mem_append.mp hmem with hmem | hmem
        · cases hidle hmem
        · exact hnone' p hmem
      have hquiet : .upper .onLowerRxReady ∉ base'.openUpper.2 ++ .authPayload payload :: rest := by
        intro hmem
        rcases List.mem_append.mp hmem with hmem | hmem
        · cases CryptoLayer.openUpper_snd hmem
        · rcases List.mem_cons.mp hmem with hmem | hmem
          · cases hmem
          · cases hidle hmem
      have hopened : Runs.run Book.step Book.start base'.openUpper.1.trace =
          some { book' with upperOpen := true } := by
        rw [CryptoLayer.openUpper_fst]
        exact Runs.run_append (run_unseen hafter.unseen haccepted) (run_opened hupper)
      rw [not_notified (count_of_not_mem hquiet).le, List.append_assoc]
      refine ⟨_, hopened, .append (fun task hmem => by rw [CryptoLayer.openUpper_snd hmem]; rfl)
        (.payload payload hbelow), ?_, by rintro ⟨⟩, by rintro ⟨⟩, ?_,
        fun hne => absurd hpayload hne, ?_⟩
      · intro p hmem
        refine ⟨hpayload, rfl, ?_⟩
        rcases List.mem_append.mp hmem with hmem | hmem
        · cases CryptoLayer.openUpper_snd hmem
        · rcases List.mem_cons.mp hmem with hmem | hmem
          · cases hmem
            intro hne
            simp only [Book.holds, hunread hne, Option.map_some]
          · exact absurd hmem (hbelow p)
      · rw [CryptoLayer.openUpper_fst]
      · -- the application was open, so that the payload is placed at once
        intro howed
        obtain ⟨hopen, hne⟩ := howed' howed
        have hopen' : base'.upperOpen = true := (hup'.symm.trans hupper).symm.trans hopen
        refine Or.inr ⟨by rw [CryptoLayer.openUpper_fst], payload, ?_, hne⟩
        simp [CryptoLayer.openUpper, hopen']
  | @dropped middle base' key msg payload hallowed hbefore hafter =>
      obtain ⟨book', haccepted, hup', hunread, howed'⟩ :=
        run_accepted (run_unseen hbefore.unseen hbook) howed key msg payload
      have hpayload : base'.payloadData = [] :=
        (hafter.payloadData.trans hbefore.payloadData).trans hempty
      rw [List.nil_append, not_notified le_rfl]
      refine ⟨book', run_unseen hafter.unseen haccepted, .none hnone',
        fun p hmem => absurd hmem (hnone' p), by rintro ⟨⟩, by rintro ⟨⟩, ?_,
        fun hne => absurd hpayload hne, ?_⟩
      · exact hup'.trans (hkept.upperOpen.trans (hafter.upperOpen.trans hbefore.upperOpen).symm)
      · intro howed
        obtain ⟨hopen, hne⟩ := howed' howed
        exact absurd (hdrop payload hallowed (hkept.upperOpen.symm.trans hopen)) hne

theorem tryRead {cfg : Config} (h : Accounted ⟨⟨layer, .tryReadFromLower :: k⟩, flag, due⟩)
    (hunsent : Unsent cfg (Machine.snapshot ⟨layer, .tryReadFromLower :: k⟩))
    {env : Env}
    (hanswers : AnswersData cfg ⟨⟨layer, .tryReadFromLower :: k⟩, flag, due⟩ (.run env)) :
    Accounted ⟨⟨(layer.tryReadFromLower cfg env).1, (layer.tryReadFromLower cfg env).2 ++ k⟩, flag,
      due || notified (.tryReadFromLower :: k) ((layer.tryReadFromLower cfg env).2 ++ k)⟩ := by
  unfold Layer.tryReadFromLower
  split_ifs with hguard
  · exact h.pop (.refl _) nofun nofun
  · have hread := CryptoLayer.canRead_of_guard hguard
    split
    · exact h.pop (.refl _) nofun nofun
    · rename_i message messages hrx
      split_ifs
      · exact h.pop (.of_same rfl rfl rfl rfl) nofun nofun
      · have hpopped : Accounted ⟨⟨{ layer with base := { layer.base with lowerRx := messages } },
            .tryReadFromLower :: k⟩, flag, due⟩ := by
          rw [← Bool.or_false due, ← not_notified (le_refl (List.count _
            (.tryReadFromLower :: k)))]
          exact h.unseen (.of_same rfl rfl rfl rfl)
        have hdelivers := @Layer.process_delivers cfg
          (fun payload => layer.base.upperOpen = true → payload = [])
          { layer with base := { layer.base with lowerRx := messages } } hread.1 env message (by
            intro msg payload hmsg hunanswered hopen
            by_contra hne
            have haccepts := hunanswered.accepts
            have hcan := hanswers env rfl rfl hunanswered.responder hread hopen message
              (by rw [hrx]; rfl) msg (by rw [hmsg]; rfl) payload
              (by rw [haccepts.authentic]; rfl) hne hunanswered.auth haccepts
            obtain ⟨formatted, hok⟩ := Session.formatSessionAuth_ok haccepts.valid
              (hunsent hunanswered.responder haccepts.valid) hcan
            obtain ⟨e, herror⟩ := hunanswered.error
            cases hok.symm.trans herror)
        simp only [List.append_assoc]
        exact hpopped.delivers hread.2 hdelivers (fun payload hdrop => hdrop)

end Accounted

namespace AbstractStack

/-- What a run is assumed to do: the application follows the interface, the stack is
opened only while its flag is not set, and no answer fails that costs a payload. -/
def Cooperative (cfg : Config) (stack : AbstractStack) (label : Label) : Prop :=
  stack.UpperFollows label ∧ stack.ReopensFree label ∧ stack.AnswersData cfg label

instance (cfg : Config) (stack : AbstractStack) (label : Label) :
    Decidable (stack.Cooperative cfg label) :=
  inferInstanceAs (Decidable (_ ∧ _ ∧ _))

/-- Every step but a read of the application is one of the layer. -/
theorem map_of_step {cfg : Config} {stack stack' : AbstractStack} {label : Label}
    (hrx : label ≠ .startRx) (hstep : stack.step cfg label = some stack') :
    ∃ machine', stack.machine.step cfg label = some machine' ∧
      ⟨machine', stack.upperIsProcessingRxData,
        stack.due || notified stack.machine.stack machine'.stack⟩ = stack' := by
  cases label with
  | startRx => exact absurd rfl hrx
  | _ => exact Option.map_eq_some_iff.mp hstep

/-- The pending session of a responder sends nothing under the stack either. -/
theorem unsent_step {cfg : Config} {stack stack' : AbstractStack} {label : Label}
    (hsound : Sound cfg stack.machine.layer) (hunsent : Unsent cfg stack.machine.snapshot)
    (hstep : stack.step cfg label = some stack') :
    Sound cfg stack'.machine.layer ∧ Unsent cfg stack'.machine.snapshot := by
  by_cases hrx : label = .startRx
  · subst hrx
    obtain ⟨-, ⟨⟩⟩ := Option.ite_none_right_eq_some.mp hstep
    unfold startRxFromUpper
    dsimp only
    split_ifs <;> exact ⟨hsound, hunsent⟩
  · obtain ⟨machine', hmachine, rfl⟩ := map_of_step hrx hstep
    obtain ⟨hmoves, hsound'⟩ := Machine.step_moves hsound hmachine
    exact ⟨hsound', moves_invariant (fun _ _ => unsent_move) hmoves hunsent⟩

theorem accounted_step {cfg : Config} {stack stack' : AbstractStack} {label : Label}
    (h : Accounted stack) (hunsent : Unsent cfg stack.machine.snapshot)
    (hcooperative : stack.Cooperative cfg label)
    (hstep : stack.step cfg label = some stack') : Accounted stack' := by
  obtain ⟨hfollows, hfree, hanswers⟩ := hcooperative
  by_cases hrx : label = .startRx
  · subst hrx
    obtain ⟨-, ⟨⟩⟩ := Option.ite_none_right_eq_some.mp hstep
    exact h.startRx hfollows
  · obtain ⟨machine', hmachine, rfl⟩ := map_of_step hrx hstep
    obtain ⟨machine, flag, due⟩ := stack
    cases Machine.steps_of_step hmachine with
    | receive => exact h.unseen (.of_same rfl rfl rfl rfl)
    | lowerOpen layer ready env => exact h.lowerOpen env ready hfree
    | lowerClose layer ready => exact h.lowerClose ready
    | lowerTxReady layer env => exact h.lowerTxReady env
    | lowerRxReady layer =>
        unfold Layer.onLowerRxReady
        split_ifs with hopen
        · exact h.frame (.refl _) (.none (by simp)) (by simp) (by simp) (by simp [hopen])
            (Or.inr (by simp)) (by simp)
        · exact h.unseen (.refl _)
    | timer env => exact h.unseen ((Layer.handshakes_confined _).onTimer env _).toQuiet.unseen
    | startRx => exact absurd rfl hrx
    | startTx layer data hcall => exact h.startTx data hcall
    | ret layer stack callback =>
        refine h.pop (.refl _) ?_ (by rintro _ ⟨⟩)
        rintro ⟨⟩
        exact hfollows rfl
    | @run layer task result stack env hrun =>
        cases Layer.ran_of_runTask hrun with
        | tryReadFromLower => exact h.tryRead hunsent hanswers
        | checkTransmit => exact h.checkTransmit env
        | noPayload =>
            refine h.pop (.refl _) (by rintro ⟨⟩) ?_
            rintro _ ⟨⟩
            rfl
        | @authPayload payload hne => exact Accounted.authPayload payload hne h
        | enterIdle => exact h.pop (.refl _) (by rintro ⟨⟩) (by rintro _ ⟨⟩)
        | afterClose => exact h.pop (.of_same rfl rfl rfl rfl) (by rintro ⟨⟩) (by rintro _ ⟨⟩)

theorem accounted_run {cfg : Config} {labels : List Label} {stack : AbstractStack}
    (hrun : create.run cfg labels = some stack)
    (halong : Runs.Along (step cfg) (Cooperative cfg) create labels) : Accounted stack := by
  have hstart : Accounted create := by
    refine ⟨Book.start, rfl, .none nofun, nofun, nofun, nofun, rfl, ?_, nofun⟩
    exact fun hne => absurd rfl hne
  refine (Runs.run_invariant (fun stack => (Sound cfg stack.machine.layer ∧
    Unsent cfg stack.machine.snapshot) ∧ Accounted stack) ?_ hrun halong
    ⟨⟨Machine.create_sound cfg, nofun⟩, hstart⟩).2
  rintro before label after ⟨⟨hsound, hunsent⟩, h⟩ hcooperative hstep
  exact ⟨unsent_step hsound hunsent hstep, accounted_step h hunsent hcooperative hstep⟩

/-- **Every payload is returned once.**  Between events, in a run in which the application
follows the interface, the stack is opened only while its flag is not set and no answer
fails that costs a payload: a payload that was accepted, or became available, while the
application was open has been returned by exactly one call before the next one was
accepted. -/
theorem payload_returned_once (cfg : Config) {labels : List Label} {stack : AbstractStack}
    (hrun : create.run cfg labels = some stack)
    (halong : Runs.Along (step cfg) (Cooperative cfg) create labels)
    (hrest : stack.machine.stack = []) {history history' : List Observation} {payload : Bytes}
    (hpayload : payload ≠ [])
    (htrace : (∃ key msg, stack.machine.layer.base.trace =
        history ++ .accepted key msg payload :: history') ∨
      stack.machine.layer.base.trace = history ++ .placed payload :: history')
    (hopen : Book.upperAfter history = true) : Book.returned history' = [payload] := by
  obtain ⟨book, hbook, hkept⟩ := accounted_run hrun halong
  have hsettled : book.owed = false := by
    rw [← Bool.not_eq_true]
    intro howed
    rcases hkept.owed howed with hdue | ⟨-, p, hhead, -⟩
    · have hmem := (hkept.announced hdue).2.2
      rw [hrest] at hmem
      cases hmem
    · rw [hrest] at hhead
      cases hhead
  -- the account before, at and behind the payload
  rcases htrace with ⟨key, msg, htrace⟩ | htrace
  · rw [htrace] at hbook
    obtain ⟨before, next, hup, hnext, hafter⟩ := Book.run_at hbook hopen
    simp only [Book.step, if_neg hpayload, hup] at hnext
    obtain ⟨-, ⟨⟩⟩ := Option.ite_none_left_eq_some.mp hnext
    exact (Book.returned_of_run hafter hsettled).2 payload rfl
  · rw [htrace] at hbook
    obtain ⟨before, next, hup, hnext, hafter⟩ := Book.run_at hbook hopen
    simp only [Book.step, hup, Bool.or_true] at hnext
    obtain ⟨-, ⟨⟩⟩ := Option.ite_none_right_eq_some.mp hnext
    exact (Book.returned_of_run hafter hsettled).2 payload rfl

/-- The initiator's run that sends a message with user data. -/
def submitting : List Label :=
  Sample.authenticating ⟨100, 60000⟩ ++ [.lowerTxReady (Sample.env 1), .run (Sample.env 1),
    .run (Sample.env 1),
    .receive (Sample.frame
      (Sample.reached (Sample.responder 1000) (Sample.opening ⟨100, 60000⟩)) 1),
    .lowerRxReady, .run (Sample.env 1), .ret, .run (Sample.env 1), .run (Sample.env 1),
    .run (Sample.env 1), .startTx [42], .run (Sample.env 1)]

def data : Bytes := Sample.frame (Sample.reached (Sample.initiator ⟨100, 60000⟩) submitting) 2

/-- The stack of a responder reads the message, and the application calls. -/
def receiving : List Label :=
  Coupled.answering ++ [.lowerTxReady (Sample.env 2), .run (Sample.env 2), .run (Sample.env 2),
    .receive data, .lowerRxReady, .run (Sample.env 2), .startRx]

def holding : List Label :=
  receiving ++ [.ret, .run (Sample.env 2)]

def reached (labels : List Label) : AbstractStack :=
  (create.run (Sample.responder 1000) labels).getD create

theorem holding_run : create.run (Sample.responder 1000) holding = some (reached holding) := by
  decide +kernel

theorem holding_trace :
    (reached holding).machine.layer.base.trace =
      (reached holding).machine.layer.base.trace.take 12 ++
        .placed [42] :: (reached holding).machine.layer.base.trace.drop 13 := by
  decide +kernel

theorem payload_returned_once_sample :
    Book.upperAfter ((reached holding).machine.layer.base.trace.take 12) = true ∧
      Book.returned ((reached holding).machine.layer.base.trace.drop 13) = [[42]] :=
  ⟨by decide +kernel, payload_returned_once (Sample.responder 1000) holding_run (by decide +kernel)
    (by decide +kernel) (by simp) (Or.inr holding_trace) (by decide +kernel)⟩

/-- The stack is closed while the application holds the slice, is opened again and reads a
message of the next session. -/
def reopening : List Label :=
  holding ++ [.lowerClose false, .ret, .run (Sample.env 2)] ++ receiving ++
    [.run (Sample.env 2), .ret, .run (Sample.env 2)]

/-- The call that the application is due to make discards the new payload: the flag
survives the close. -/
theorem payload_discarded_after_reopen :
    let stack := reached reopening
    let trace := stack.machine.layer.base.trace
    create.run (Sample.responder 1000) reopening = some stack ∧
      Runs.Along (step (Sample.responder 1000)) UpperFollows create reopening ∧
      stack.machine.stack = [] ∧ stack.machine.layer.base.isOpen = true ∧
      Book.upperAfter (trace.take 28) = true ∧
      trace = trace.take 28 ++ .placed [42] :: trace.drop 29 ∧
      Book.returned (trace.drop 29) = [] := by
  decide +kernel

end AbstractStack

end Ssp21
