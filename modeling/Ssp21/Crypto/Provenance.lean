import Ssp21.Crypto.SessionTable
import Ssp21.Foundation.History
import Mathlib.Data.List.Nodup

/-!
# Where sessions come from

Every valid session was initialized by a handshake of this layer, and every handshake
has a fresh value of this layer in one of its two messages.

* `Fresh`: if fresh values never repeat, no two handshakes have the same messages.
* `Keyed`: if handshakes with different messages give different keys, the two sessions of
  a layer never share a key.
* `NonceRecord.InOrder`: what the history holds under the keys of one direction, and what the
  two sessions know of it.
-/

namespace Ssp21

open Wire

/-! ## Fresh values and derivations of a history -/

/-- The fresh values that went into handshake messages. -/
def drawn (history : List Observation) : List Bytes :=
  history.filterMap (fun | .drew value => some value | _ => none)

/-- The derivations that sessions were initialized from. -/
def derivations (history : List Observation) : List Derivation :=
  history.filterMap (fun | .initialized d => some d | _ => none)

theorem drawn_append (history new : List Observation) :
    drawn (history ++ new) = drawn history ++ drawn new :=
  List.filterMap_append

@[simp]
theorem derivations_append (history new : List Observation) :
    derivations (history ++ new) = derivations history ++ derivations new :=
  List.filterMap_append

@[simp]
theorem derivations_singleton (o : Observation) :
    derivations [o] = match o with | .initialized d => [d] | _ => [] := by
  cases o <;> rfl

theorem derivations_plain {o : Observation} (hplain : o.plain = true) : derivations [o] = [] := by
  cases o with
  | initialized d => cases hplain
  | _ => rfl

namespace CryptoLayer

@[simp]
theorem derivations_log (layer : CryptoLayer) (o : Observation) :
    derivations (layer.log o).trace = derivations layer.trace ++ derivations [o] :=
  derivations_append _ _

@[simp]
theorem derivations_openUpper (layer : CryptoLayer) :
    derivations layer.openUpper.1.trace = derivations layer.trace := by
  rw [openUpper_fst]
  split_ifs <;> simp

@[simp]
theorem derivations_closeUpper (layer : CryptoLayer) :
    derivations layer.closeUpper.1.trace = derivations layer.trace := by
  rw [closeUpper_fst]
  split_ifs <;> simp

@[simp]
theorem derivations_notifyTxReady (layer : CryptoLayer) :
    derivations layer.notifyTxReady.1.trace = derivations layer.trace := by
  rw [notifyTxReady_fst]
  split_ifs <;> simp

@[simp]
theorem derivations_sent (layer : CryptoLayer) (transmission : Transmission) :
    derivations (layer.sent transmission).trace = derivations layer.trace := by
  simp [sent]

@[simp]
theorem derivations_sentSession (layer : CryptoLayer) (slot : Slot) (rest : Bytes)
    (formatted : Session.Formatted) :
    derivations (layer.sentSession slot rest formatted).trace = derivations layer.trace := by
  cases slot <;> simp [sentSession, setSession]

@[simp]
theorem derivations_acceptAuth (layer : CryptoLayer) (msg : SessionData) (payload : Bytes) :
    derivations (layer.acceptAuth msg payload).trace = derivations layer.trace := by
  simp [acceptAuth, activatePending]

end CryptoLayer

theorem mem_derivations {d : Derivation} {history : List Observation} :
    d ∈ derivations history ↔ .initialized d ∈ history := by
  constructor
  · intro hmem
    obtain ⟨o, ho, hsome⟩ := List.mem_filterMap.mp hmem
    cases o <;> cases hsome
    exact ho
  · intro hmem
    exact List.mem_filterMap.mpr ⟨_, hmem, rfl⟩

/-- Both handshake messages are the same. -/
def Derivation.SameMessages (d e : Derivation) : Prop :=
  d.request = e.request ∧ d.reply = e.reply

instance (d e : Derivation) : Decidable (d.SameMessages e) :=
  inferInstanceAs (Decidable (_ ∧ _))

/-- The fresh value that this layer put into the messages of a handshake. -/
inductive Marks (cfg : Config) (d : Derivation) (value : Bytes) : Prop
  | initiator {config : InitiatorConfig} {init : InitiatorHandshake.InitResult}
      (hrole : cfg.role = .initiator config) (hrequested : Requested cfg.ctx config init d.request)
      (hvalue : value = Layer.freshValue init config.mode)
  | responder {mode : ResponderMode} {msg : RequestHandshakeBegin} {random : Random}
      (hrole : cfg.role = .responder mode) (hread : RequestHandshakeBegin.read d.request = .ok msg)
      (hreply : (mode.replyMessage cfg.ctx.backend random).write cfg.ctx.frameWriter.room =
        .ok d.reply)
      (hvalue : value = Layer.freshReply cfg.ctx.backend mode msg random)

section Layer

variable {cfg : Config}

/-- A request determines the fresh value in it. -/
theorem Requested.freshValue_eq {config : InitiatorConfig}
    {init init' : InitiatorHandshake.InitResult} {written : Bytes}
    (hrequested : Requested cfg.ctx config init written)
    (hrequested' : Requested cfg.ctx config init' written) :
    Layer.freshValue init config.mode = Layer.freshValue init' config.mode := by
  have hsame := writeMessage_injective RequestHandshakeBegin.fieldsSpec hrequested hrequested'
    (FrameWriter.room_lt _) (FrameWriter.room_lt _)
  have hephemeral : init.modeEphemeral = init'.modeEphemeral :=
    congrArg RequestHandshakeBegin.modeEphemeral hsame
  have hdata : init.modeData = init'.modeData := congrArg RequestHandshakeBegin.modeData hsame
  unfold Layer.freshValue
  split
  · exact hephemeral
  · exact hdata
  · exact hephemeral

/-- The messages of a handshake determine the fresh value in them. -/
theorem Marks.unique {d e : Derivation} {value value' : Bytes} (hd : Marks cfg d value)
    (he : Marks cfg e value') (hsame : d.SameMessages e) : value = value' := by
  obtain ⟨hrequest, hreply⟩ := hsame
  cases hd with
  | initiator hrole hrequested hvalue =>
      cases he with
      | initiator hrole' hrequested' hvalue' =>
          cases hrole.symm.trans hrole'
          rw [← hrequest] at hrequested'
          rw [hvalue, hvalue']
          exact hrequested.freshValue_eq hrequested'
      | responder hrole' => cases hrole.symm.trans hrole'
  | @responder mode msg random hrole hread hwrite hvalue =>
      cases he with
      | initiator hrole' => cases hrole.symm.trans hrole'
      | @responder mode' msg' random' hrole' hread' hwrite' hvalue' =>
          cases hrole.symm.trans hrole'
          rw [← hrequest, hread] at hread'
          cases hread'
          rw [← hreply] at hwrite'
          have hmessages := writeMessage_injective ReplyHandshakeBegin.fieldsSpec hwrite hwrite'
            (FrameWriter.room_lt _) (FrameWriter.room_lt _)
          have hephemeral := congrArg ReplyHandshakeBegin.modeEphemeral hmessages
          rw [hvalue, hvalue']
          cases mode with
          | sharedSecret key => exact hephemeral
          | qkd => rfl
          | publicKey staticKeys certHandler => exact hephemeral

/-! ## Handshakes with different messages -/

/-- The handshakes of a layer, as long as its fresh values do not repeat. -/
structure Fresh (cfg : Config) (s : Snapshot) : Prop where
  marked : ∀ d ∈ derivations s.base.trace, ∃ value ∈ drawn s.base.trace, Marks cfg d value
  requested : ∀ request, s.outstanding = some request →
    ∃ config init, cfg.role = .initiator config ∧ Requested cfg.ctx config init request ∧
      Layer.freshValue init config.mode ∈ drawn s.base.trace
  unanswered : ∀ request, s.outstanding = some request →
    ∀ d ∈ derivations s.base.trace, d.request ≠ request
  distinct : (derivations s.base.trace).Pairwise (fun d e => ¬ d.SameMessages e)

/-- Without a new derivation or request, everything stays. -/
theorem Fresh.of_same {s s' : Snapshot} (hfresh : Fresh cfg s)
    (hextends : ∃ new, s'.base.trace = s.base.trace ++ new)
    (hderivations : derivations s'.base.trace = derivations s.base.trace)
    (houtstanding : s'.outstanding = s.outstanding ∨ s'.outstanding = none) : Fresh cfg s' := by
  have hdrawn {value : Bytes} (hmem : value ∈ drawn s.base.trace) :
      value ∈ drawn s'.base.trace := by
    obtain ⟨new, hnew⟩ := hextends
    rw [hnew, drawn_append]
    exact List.mem_append_left _ hmem
  have hkept {request : Bytes} (hrequest : s'.outstanding = some request) :
      s.outstanding = some request := by
    rcases houtstanding with hsame | hnone
    · rw [← hsame, hrequest]
    · rw [hnone] at hrequest
      cases hrequest
  constructor
  · intro d hd
    rw [hderivations] at hd
    obtain ⟨value, hvalue, hmarks⟩ := hfresh.marked d hd
    exact ⟨value, hdrawn hvalue, hmarks⟩
  · intro request hrequest
    obtain ⟨config, init, hrole, hrequested, hvalue⟩ := hfresh.requested request (hkept hrequest)
    exact ⟨config, init, hrole, hrequested, hdrawn hvalue⟩
  · intro request hrequest
    rw [hderivations]
    exact hfresh.unanswered request (hkept hrequest)
  · rw [hderivations]
    exact hfresh.distinct

/-- A fresh value marks no handshake of the past. -/
theorem Fresh.not_marked {s : Snapshot} (hfresh : Fresh cfg s) {value : Bytes}
    (hnodup : (drawn s.base.trace ++ [value]).Nodup) {d e : Derivation}
    (hd : d ∈ derivations s.base.trace) (hmarks : Marks cfg e value) : ¬ d.SameMessages e := by
  intro hsame
  obtain ⟨value', hmem, hmarks'⟩ := hfresh.marked d hd
  rw [hmarks'.unique hmarks hsame] at hmem
  exact (List.nodup_append.mp hnodup).2.2 _ hmem _ List.mem_cons_self rfl

theorem fresh_asks {base base' : CryptoLayer} {o o' : Option Bytes} {k k' : List Task}
    (hasks : Asks cfg base o base' o') (hnodup : (drawn base'.trace).Nodup)
    (hfresh : Fresh cfg ⟨base, o, k⟩) : Fresh cfg ⟨base', o', k'⟩ := by
  have hextends := (@Asks.tableMoves cfg base base' o o' k k' hasks).trace_extends
  cases hasks with
  | stay => exact hfresh.of_same hextends rfl (Or.inl rfl)
  | forget => exact hfresh.of_same hextends rfl (Or.inr rfl)
  | draw value =>
      exact hfresh.of_same hextends (by simp) (Or.inl rfl)
  | @request config init written hrole hready hrequested =>
      let value := Layer.freshValue init config.mode
      let asked := (base.log (.drew value)).sent
        ⟨cfg.ctx.frameWriter.frame written, written, .request⟩
      have hderivations : derivations asked.trace = derivations base.trace := by
        simp [asked]
      have hdrawn : drawn asked.trace = drawn base.trace ++ [value] := by
        simp [asked, drawn, CryptoLayer.sent, CryptoLayer.log]
      have hkept : Fresh cfg ⟨asked, none, k'⟩ := hfresh.of_same hextends hderivations (Or.inr rfl)
      rw [hdrawn] at hnodup
      refine ⟨hkept.marked, ?_, ?_, hkept.distinct⟩
      · rintro request ⟨⟩
        refine ⟨config, init, hrole, hrequested, ?_⟩
        change value ∈ drawn asked.trace
        rw [hdrawn]
        exact List.mem_append_right _ List.mem_cons_self
      · rintro request ⟨⟩ d hd hrequest
        -- a handshake with this request would have had the value that was just drawn
        have hmarks : Marks cfg d value :=
          .initiator hrole (by rw [hrequest]; exact hrequested) rfl
        exact hfresh.not_marked hnodup (hderivations ▸ hd) hmarks ⟨rfl, rfl⟩

/-- A derivation joins the history. -/
theorem Fresh.join {s s' : Snapshot} (hfresh : Fresh cfg s) {d : Derivation}
    (hextends : ∃ new, s'.base.trace = s.base.trace ++ new)
    (hderivations : derivations s'.base.trace = derivations s.base.trace ++ [d])
    (hmarked : ∃ value ∈ drawn s'.base.trace, Marks cfg d value)
    (hdistinct : ∀ e ∈ derivations s.base.trace, ¬ e.SameMessages d)
    (houtstanding : s'.outstanding = none) : Fresh cfg s' := by
  have hnone {request : Bytes} (hrequest : s'.outstanding = some request) : False := by
    rw [houtstanding] at hrequest
    cases hrequest
  constructor
  · intro e he
    rw [hderivations] at he
    rcases List.mem_append.mp he with he | he
    · obtain ⟨value, hvalue, hmarks⟩ := hfresh.marked e he
      obtain ⟨new, hnew⟩ := hextends
      refine ⟨value, ?_, hmarks⟩
      rw [hnew, drawn_append]
      exact List.mem_append_left _ hvalue
    · rw [List.mem_singleton.mp he]
      exact hmarked
  · exact fun request hrequest => (hnone hrequest).elim
  · exact fun request hrequest => (hnone hrequest).elim
  · rw [hderivations, List.pairwise_append]
    refine ⟨hfresh.distinct, List.pairwise_singleton _ _, ?_⟩
    intro e he d' hd'
    rw [List.mem_singleton.mp hd']
    exact hdistinct e he

/-- A responder waits for no reply. -/
theorem Fresh.outstanding_responder {s : Snapshot} (hfresh : Fresh cfg s) {mode : ResponderMode}
    (hrole : cfg.role = .responder mode) : s.outstanding = none := by
  cases houtstanding : s.outstanding with
  | none => rfl
  | some request =>
      obtain ⟨config, -, hrole', -⟩ := hfresh.requested request houtstanding
      cases hrole.symm.trans hrole'

/-- **No move repeats the messages of a handshake.** -/
theorem fresh_move {mayFail : Fault → Prop} {s s' : Snapshot} (hmove : Move cfg mayFail s s')
    (hnodup : (drawn s'.base.trace).Nodup) (hfresh : Fresh cfg s) : Fresh cfg s' := by
  have hextends := hmove.trace_extends
  cases hmove with
  | ask k hasks => exact fresh_asks hasks hnodup hfresh
  | @respond base o k hread mode msg algorithms random findKey now d hrole hderives =>
      let value := Layer.freshReply cfg.ctx.backend mode msg random
      let answered := ((({ base with pending := d.session }.log (.drew value)).log
        (.initialized d))).sent ⟨cfg.ctx.frameWriter.frame d.reply, d.reply, .reply⟩
      have hdrawn : drawn answered.trace = drawn base.trace ++ [value] := by
        simp [answered, drawn, CryptoLayer.sent, CryptoLayer.log]
      have hmarks : Marks cfg d value := .responder hrole hderives.request hderives.reply rfl
      refine hfresh.join hextends ?_ ⟨value, ?_, hmarks⟩ ?_ (hfresh.outstanding_responder hrole)
      · simp
      · change value ∈ drawn answered.trace
        rw [hdrawn]
        exact List.mem_append_right _ List.mem_cons_self
      · intro e he
        exact hfresh.not_marked (hdrawn ▸ hnodup) he hmarks
  | @derive base k hread config init handshake msg now d hrole hderives =>
      -- the value of the request was drawn when the request was made
      obtain ⟨config', init', hrole', hrequested, hvalue⟩ := hfresh.requested d.request rfl
      have hdrawn : drawn (base.trace ++ [.initialized d]) = drawn base.trace := by simp [drawn]
      refine hfresh.join hextends ?_ ⟨_, ?_, .initiator hrole' hrequested rfl⟩ ?_ rfl
      · simp
      · change _ ∈ drawn (base.trace ++ [.initialized d])
        rw [hdrawn]
        exact hvalue
      · intro e he hsame
        exact hfresh.unanswered d.request rfl e he hsame.1
  | @complete base base' o o' hopen hasks hdone =>
      have hcompleted : Fresh cfg ⟨base.complete, o, []⟩ :=
        hfresh.of_same ⟨_, rfl⟩ (by simp [CryptoLayer.complete]) (Or.inl rfl)
      exact fresh_asks hasks hnodup hcompleted
  | @finish base base' o o' hopen hasks hdone =>
      have hcompleted : Fresh cfg ⟨base.complete, o, []⟩ :=
        hfresh.of_same ⟨_, rfl⟩ (by simp [CryptoLayer.complete]) (Or.inl rfl)
      rw [CryptoLayer.notifyTxReady_fst, drawn_append] at hnodup
      have hasked : Fresh cfg ⟨base', o', []⟩ :=
        fresh_asks hasks (List.nodup_append.mp hnodup).1 hcompleted
      exact hasked.of_same ⟨_, by rw [CryptoLayer.notifyTxReady_fst]⟩ (by simp) (Or.inl rfl)
  | lowerClose o hopen ready =>
      exact hfresh.of_same hextends
        (by simp [CryptoLayer.closeFromLower, CryptoLayer.resetBoth]) (Or.inr rfl)
  | _ =>
      exact hfresh.of_same hextends (by simp [CryptoLayer.acceptData, CryptoLayer.placePayload])
        (Or.inl rfl)

/-- **Handshakes of a run with different fresh values have different messages.** -/
theorem fresh_run {labels : List Label} {machine : Machine}
    (hrun : Machine.create.run cfg labels = some machine)
    (hnodup : (drawn machine.layer.base.trace).Nodup) : Fresh cfg machine.snapshot := by
  refine Machine.run_invariant_of_history (C := fun history => (drawn history).Nodup) ?_
    (fun _ _ _ => fresh_move) hrun ?_ hnodup
  · intro history new hboth
    rw [drawn_append] at hboth
    exact (List.nodup_append.mp hboth).1
  · exact ⟨nofun, nofun, nofun, List.Pairwise.nil⟩

end Layer

/-! ## Sessions and their derivations -/

/-- The session was initialized by this derivation; since then only its nonces have
moved. -/
structure Session.From (session : Session) (d : Derivation) : Prop where
  keys : session.keys = d.session.keys
  algorithms : session.algorithms = d.session.algorithms
  parameters : session.parameters = d.session.parameters

theorem Derivation.session_from (d : Derivation) : d.session.From d :=
  ⟨rfl, rfl, rfl⟩

theorem Session.From.tick {session : Session} {d : Derivation} (hfrom : session.From d)
    (rxNonce txNonce : UInt16) :
    Session.From { session with rxNonce := rxNonce, txNonce := txNonce } d :=
  ⟨hfrom.keys, hfrom.algorithms, hfrom.parameters⟩

/-- A derivation of the history that a session comes from. -/
def SessionTable.Origin (table : SessionTable) (slot : Slot) : Prop :=
  (table.session slot).valid = true →
    ∃ d ∈ derivations table.trace, (table.session slot).From d

section Table

variable {cfg : Config}

/-- **Every valid session comes from a derivation.** -/
theorem origin_move {table table' : SessionTable} (hmove : TableMove cfg table table')
    (horigin : ∀ slot, table.Origin slot) : ∀ slot, table'.Origin slot := by
  -- a session that did not change has its derivation still in the history
  have hkept {new : List Observation} {session : Session}
      (hsession : ∃ d ∈ derivations table.trace, session.From d) :
      ∃ d ∈ derivations (table.trace ++ new), session.From d := by
    obtain ⟨d, hd, hfrom⟩ := hsession
    exact ⟨d, by rw [derivations_append]; exact List.mem_append_left _ hd, hfrom⟩
  cases hmove with
  | note => exact fun slot hvalid => hkept (horigin slot hvalid)
  | reset slot' =>
      intro slot hvalid
      cases slot' <;> cases slot
      · cases hvalid
      · exact horigin .pending hvalid
      · exact horigin .active hvalid
      · cases hvalid
  | @init d hderives =>
      intro slot hvalid
      cases slot with
      | active => exact hkept (horigin .active hvalid)
      | pending => exact ⟨d, by simp, d.session_from⟩
  | send slot' hslot hnonce hdata hformats =>
      intro slot hvalid
      obtain ⟨d, hd, hfrom⟩ := horigin slot' hformats.valid
      cases slot' <;> cases slot
      · exact hkept ⟨d, hd, hfrom.tick _ _⟩
      · exact hkept (horigin .pending hvalid)
      · exact hkept (horigin .active hvalid)
      · exact hkept ⟨d, hd, hfrom.tick _ _⟩
  | activate hverified haccepts =>
      intro slot hvalid
      cases slot with
      | active =>
          obtain ⟨d, hd, hfrom⟩ := horigin .pending haccepts.valid
          exact hkept ⟨d, hd, hfrom.tick _ _⟩
      | pending => cases hvalid
  | accept hpayload hnonce hverified haccepts =>
      intro slot hvalid
      cases slot with
      | active =>
          obtain ⟨d, hd, hfrom⟩ := horigin .active haccepts.valid
          exact hkept ⟨d, hd, hfrom.tick _ _⟩
      | pending => exact hkept (horigin .pending hvalid)
  | consume hnonce hverified haccepts =>
      intro slot hvalid
      cases slot with
      | active =>
          obtain ⟨d, hd, hfrom⟩ := horigin .active haccepts.valid
          exact ⟨d, hd, hfrom.tick _ _⟩
      | pending => exact horigin .pending hvalid

/-! ## Keys -/

/-- The keys of one direction are different in all derivations. -/
def Separate (key : SessionKeys → Bytes) (history : List Observation) : Prop :=
  ((derivations history).map (fun d => key d.session.keys)).Nodup

theorem separate_of_append {key : SessionKeys → Bytes} {history new : List Observation}
    (hseparate : Separate key (history ++ new)) : Separate key history := by
  rw [Separate, derivations_append, List.map_append] at hseparate
  exact (List.nodup_append.mp hseparate).1

/-- A derivation is determined by its key. -/
theorem Separate.eq {key : SessionKeys → Bytes} {history : List Observation}
    (hseparate : Separate key history) {d e : Derivation} (hd : d ∈ derivations history)
    (he : e ∈ derivations history) (hkey : key d.session.keys = key e.session.keys) : d = e :=
  List.inj_on_of_nodup_map hseparate hd he hkey

/-- The key of a new derivation is not that of an old one. -/
theorem Separate.ne_new {key : SessionKeys → Bytes} {history : List Observation} {d e : Derivation}
    (hseparate : Separate key (history ++ [.initialized d])) (he : e ∈ derivations history) :
    key e.session.keys ≠ key d.session.keys := by
  rw [Separate, derivations_append, List.map_append] at hseparate
  exact (List.nodup_append.mp hseparate).2.2 _ (List.mem_map_of_mem he) _ (by simp)

/-- If handshakes with different messages give different keys, and no two handshakes of a
run have the same messages, the keys are different. -/
theorem separate_run {labels : List Label} {machine : Machine}
    (hrun : Machine.create.run cfg labels = some machine)
    (hnodup : (drawn machine.layer.base.trace).Nodup) {key : SessionKeys → Bytes}
    (hkeys : ∀ d ∈ derivations machine.layer.base.trace,
      ∀ e ∈ derivations machine.layer.base.trace, ¬ d.SameMessages e →
        key d.session.keys ≠ key e.session.keys) :
    Separate key machine.layer.base.trace := by
  have hdistinct := (fresh_run hrun hnodup).distinct
  refine List.pairwise_map.mpr (hdistinct.imp_of_mem ?_)
  intro d e hd he hmessages
  exact hkeys d hd e he hmessages

/-- What separate keys mean for the sessions of a layer. -/
structure Keyed (key : SessionKeys → Bytes) (table : SessionTable) : Prop where
  origin : ∀ slot, table.Origin slot
  apart : table.active.valid = true → table.pending.valid = true →
    key table.active.keys ≠ key table.pending.keys

theorem keyed_create (key : SessionKeys → Bytes) : Keyed key Machine.create.snapshot.table where
  origin slot hvalid := absurd hvalid (Machine.create_invalid slot)
  apart hvalid := absurd hvalid (Machine.create_invalid .active)

theorem keyed_move {key : SessionKeys → Bytes} {table table' : SessionTable}
    (hmove : TableMove cfg table table') (hseparate : Separate key table'.trace)
    (hkeyed : Keyed key table) : Keyed key table' := by
  refine ⟨origin_move hmove hkeyed.origin, ?_⟩
  cases hmove with
  | note => exact hkeyed.apart
  | reset slot =>
      cases slot with
      | active => exact nofun
      | pending => exact fun _ => nofun
  | @init d hderives =>
      intro hactive _
      obtain ⟨e, he, hfrom⟩ := hkeyed.origin .active hactive
      have hne := hseparate.ne_new he
      rw [← hfrom.keys] at hne
      exact hne
  | send slot => cases slot <;> exact hkeyed.apart
  | activate => exact fun _ => nofun
  | accept => exact hkeyed.apart
  | consume => exact hkeyed.apart

end Table

/-! ## Nonces under keys -/

/-- A way to look at the nonces of one direction: the key that they are used with, the pairs of keys
and nonces in a history, what may stand under the key of a derivation, and what a session knows of
the nonces under its key. -/
structure NonceRecord where
  key : SessionKeys → Bytes
  pick : Observation → Option (Bytes × Nat)
  allowed : Derivation → List Nat → Prop
  known : Slot → Session → List Nat → Prop

namespace NonceRecord

/-- The nonces under a key. -/
def nonces (record : NonceRecord) (key : Bytes) (history : List Observation) : List Nat :=
  History.valuesAt key (history.filterMap record.pick)

/-- The nonces under each key, and the sessions that hold one. -/
structure InOrder (record : NonceRecord) (table : SessionTable) : Prop where
  unused : ∀ key, (∀ d ∈ derivations table.trace, record.key d.session.keys ≠ key) →
    record.nonces key table.trace = []
  used : ∀ d ∈ derivations table.trace,
    record.allowed d (record.nonces (record.key d.session.keys) table.trace)
  held : ∀ slot, (table.session slot).valid = true →
    record.known slot (table.session slot)
      (record.nonces (record.key (table.session slot).keys) table.trace)

variable {record : NonceRecord} {table table' : SessionTable}

theorem nonces_append (key : Bytes) (history new : List Observation) :
    record.nonces key (history ++ new) = record.nonces key history ++ record.nonces key new := by
  rw [nonces, List.filterMap_append, History.valuesAt_append]
  rfl

/-- Neither a nonce nor a derivation is added to the history. -/
theorem InOrder.of_silent (hinOrder : record.InOrder table) (new : List Observation)
    (htrace : table'.trace = table.trace ++ new) (hderivations : derivations new = [])
    (hpick : new.filterMap record.pick = [])
    (hsessions : ∀ slot, (table'.session slot).valid = true → ∃ slot',
      (table.session slot').valid = true ∧
      (table'.session slot).keys = (table.session slot').keys ∧
      ∀ nonces, record.known slot' (table.session slot') nonces →
        record.known slot (table'.session slot) nonces) : record.InOrder table' := by
  have hsame : derivations table'.trace = derivations table.trace := by
    rw [htrace, derivations_append, hderivations, List.append_nil]
  have hnonces (key : Bytes) : record.nonces key table'.trace = record.nonces key table.trace := by
    rw [htrace, nonces, List.filterMap_append, hpick, List.append_nil, nonces]
  constructor
  · intro key hkey
    rw [hsame] at hkey
    rw [hnonces]
    exact hinOrder.unused key hkey
  · intro d hd
    rw [hsame] at hd
    rw [hnonces]
    exact hinOrder.used d hd
  · intro slot hvalid
    obtain ⟨slot', hvalid', hkeys, hknown⟩ := hsessions slot hvalid
    rw [hnonces, hkeys]
    exact hknown _ (hinOrder.held slot' hvalid')

theorem InOrder.note (hinOrder : record.InOrder table) {o : Observation} (hplain : o.plain = true)
    (hpick : record.pick o = none) :
    record.InOrder { table with trace := table.trace ++ [o] } :=
  hinOrder.of_silent [o] rfl (derivations_plain hplain) (by simp [hpick])
    (fun slot hvalid => ⟨slot, hvalid, rfl, fun _ => id⟩)

theorem InOrder.reset (hinOrder : record.InOrder table) (slot : Slot) :
    record.InOrder (table.setSession slot (table.session slot).reset) := by
  refine hinOrder.of_silent [] (by cases slot <;> simp [SessionTable.setSession]) rfl rfl ?_
  intro slot' hvalid
  cases slot <;> cases slot'
  · cases hvalid
  · exact ⟨.pending, hvalid, rfl, fun _ => id⟩
  · exact ⟨.active, hvalid, rfl, fun _ => id⟩
  · cases hvalid

/-- A new session finds its key unused. -/
theorem InOrder.init (hinOrder : record.InOrder table) {d : Derivation}
    (hseparate : Separate record.key (table.trace ++ [.initialized d]))
    (hpick : record.pick (.initialized d) = none) (hallowed : record.allowed d [])
    (hknown : record.known .pending d.session []) :
    record.InOrder
      { table with pending := d.session, trace := table.trace ++ [.initialized d] } := by
  have hnonces (key : Bytes) :
      record.nonces key (table.trace ++ [.initialized d]) = record.nonces key table.trace := by
    simp [nonces, hpick]
  have hunused : record.nonces (record.key d.session.keys) table.trace = [] :=
    hinOrder.unused _ (fun e he => hseparate.ne_new he)
  constructor
  · intro key hkey
    rw [hnonces]
    exact hinOrder.unused key (fun e he => hkey e (by simp [he]))
  · intro e he
    rw [hnonces]
    rw [derivations_append, List.mem_append] at he
    rcases he with he | he
    · exact hinOrder.used e he
    · obtain rfl : e = d := by simpa using he
      rw [hunused]
      exact hallowed
  · intro slot hvalid
    cases slot with
    | active =>
        change record.known .active table.active
          (record.nonces (record.key table.active.keys) (_ ++ _))
        rw [hnonces]
        exact hinOrder.held .active hvalid
    | pending =>
        change record.known .pending d.session (record.nonces (record.key d.session.keys) (_ ++ _))
        rw [hnonces, hunused]
        exact hknown

/-- A nonce joins those under the key of a derivation, and no others. -/
theorem InOrder.grow (hinOrder : record.InOrder table) {d : Derivation} {nonce : Nat}
    {new : List Observation}
    (hseparate : Separate record.key table.trace) (hd : d ∈ derivations table.trace)
    (htrace : table'.trace = table.trace ++ new) (hderivations : derivations new = [])
    (hpick : new.filterMap record.pick = [(record.key d.session.keys, nonce)])
    (hallowed : record.allowed d
      (record.nonces (record.key d.session.keys) table.trace ++ [nonce]))
    (hsessions : ∀ slot, (table'.session slot).valid = true →
      record.key (table'.session slot).keys = record.key d.session.keys ∧
          record.known slot (table'.session slot)
            (record.nonces (record.key d.session.keys) table.trace ++ [nonce]) ∨
        record.key d.session.keys ≠ record.key (table.session slot).keys ∧
          (table.session slot).valid = true ∧ table'.session slot = table.session slot) :
    record.InOrder table' := by
  have hsame : derivations table'.trace = derivations table.trace := by
    rw [htrace, derivations_append, hderivations, List.append_nil]
  have hself : record.nonces (record.key d.session.keys) table'.trace =
      record.nonces (record.key d.session.keys) table.trace ++ [nonce] := by
    rw [htrace, nonces_append, nonces, nonces, hpick, History.valuesAt_self]
  have hother {key : Bytes} (hkey : record.key d.session.keys ≠ key) :
      record.nonces key table'.trace = record.nonces key table.trace := by
    rw [htrace, nonces_append, nonces, nonces, hpick, History.valuesAt_other hkey, List.append_nil]
  constructor
  · intro key hkey
    rw [hsame] at hkey
    exact (hother (hkey d hd)).trans (hinOrder.unused key hkey)
  · intro e he
    rw [hsame] at he
    by_cases hkey : record.key d.session.keys = record.key e.session.keys
    · obtain rfl : d = e := hseparate.eq hd he hkey
      rw [hself]
      exact hallowed
    · rw [hother hkey]
      exact hinOrder.used e he
  · intro slot hvalid
    rcases hsessions slot hvalid with ⟨hkey, hknown⟩ | ⟨hkey, hvalid', hkept⟩
    · rw [hkey, hself]
      exact hknown
    · rw [hkept, hother hkey]
      exact hinOrder.held slot hvalid'

end NonceRecord

end Ssp21
