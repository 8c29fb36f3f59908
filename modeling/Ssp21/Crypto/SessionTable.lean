import Ssp21.Crypto.Emission

/-!
# The table of sessions

`SessionTable` is what a layer knows about its sessions: the active and the pending
one, and the history.  A `TableMove` is one thing that can happen to them:

* a session is initialized from a handshake, reset, or activated,
* a message is sent under a session's transmit key,
* a message is accepted under its receive key.

`Move.tableMoves` says that every move of a layer is a sequence of these.  What is proved
about sessions over whole runs is proved per `TableMove`.
-/

namespace Ssp21

open Wire

structure SessionTable where
  active : Session
  pending : Session
  trace : List Observation

namespace SessionTable

def session (table : SessionTable) : Slot → Session
  | .active => table.active
  | .pending => table.pending

def setSession (table : SessionTable) (slot : Slot) (session : Session) : SessionTable :=
  match slot with
  | .active => { table with active := session }
  | .pending => { table with pending := session }

end SessionTable

def Snapshot.table (s : Snapshot) : SessionTable :=
  ⟨s.base.active, s.base.pending, s.base.trace⟩

/-- Observations that are not about sessions. -/
def Observation.plain : Observation → Bool
  | .transmit ⟨_, _, .session _ _⟩ => false
  | .refused _ => false
  | .initialized _ | .activated _ | .accepted _ _ _ => false
  | _ => true

/-- A derivation of either role. -/
inductive Derives (cfg : Config) (d : Derivation) : Prop
  | initiator {config : InitiatorConfig} {init : InitiatorHandshake.InitResult}
      {handshake : InitiatorHandshake} {msg : ReplyHandshakeBegin} {now : Time}
      (hrole : cfg.role = .initiator config)
      (hderives : InitiatorDerives cfg.ctx config init handshake msg now d)
  | responder {mode : ResponderMode} {msg : RequestHandshakeBegin}
      {algorithms : Algorithms.Common} {random : Random} {findKey : UInt64 → Option Bytes}
      {now : Time} (hrole : cfg.role = .responder mode)
      (hderives : ResponderDerives cfg.ctx mode msg algorithms random findKey now d)

/-- A derived session is valid and has used no nonce. -/
theorem Derives.fresh {cfg : Config} {d : Derivation} (hderives : Derives cfg d) :
    d.session.valid = true ∧ d.session.rxNonce = 0 ∧ d.session.txNonce = 0 := by
  cases hderives with
  | initiator hrole hderives =>
      rw [hderives.session]
      exact ⟨rfl, rfl, rfl⟩
  | responder hrole hderives =>
      rw [hderives.session]
      exact ⟨rfl, rfl, rfl⟩

/-- One thing that happens to the sessions of a layer. -/
inductive TableMove (cfg : Config) : SessionTable → SessionTable → Prop
  | note (table : SessionTable) {o : Observation} (hplain : o.plain = true) :
      TableMove cfg table { table with trace := table.trace ++ [o] }
  | reset (table : SessionTable) (slot : Slot) :
      TableMove cfg table (table.setSession slot (table.session slot).reset)
  | init (table : SessionTable) {d : Derivation} (hderives : Derives cfg d) :
      TableMove cfg table
        { table with pending := d.session, trace := table.trace ++ [.initialized d] }
  /-- only the first message of a session may be empty, and only an initiator sends
  under a session that is not active yet -/
  | send (table : SessionTable) (slot : Slot) {now : Time} {cleartext rest : Bytes}
      {formatted : Session.Formatted}
      (hslot : slot = .pending → ∃ config, cfg.role = .initiator config)
      (hnonce : (table.session slot).txNonce = 0 ∨
        (table.session slot).txNonce < (table.session slot).parameters.maxNonce)
      (hdata : (table.session slot).txNonce ≠ 0 → cleartext ≠ [])
      (hformats : Session.Formats cfg.ctx (table.session slot) now cleartext rest formatted) :
      TableMove cfg table
        { table.setSession slot { table.session slot with
            txNonce := (table.session slot).txNonce + 1 } with
          trace := table.trace ++
            [.transmit (CryptoLayer.sessionTransmission (table.session slot) formatted)] }
  | activate (table : SessionTable) {now : Time} {msg : SessionData} {payload : Bytes}
      (hverified : .verified table.pending.keys.rxKey msg ∈ table.trace)
      (haccepts : Session.Accepts cfg.ctx SessionNonceMode.equalToZero table.pending msg now
        payload) :
      TableMove cfg table
        ⟨{ table.pending with rxNonce := msg.metadata.nonce }, table.active.reset,
          table.trace ++ [.accepted table.pending.keys.rxKey msg payload,
            .activated { table.pending with rxNonce := msg.metadata.nonce }]⟩
  | accept (table : SessionTable) {now : Time} {msg : SessionData} {payload : Bytes}
      (hpayload : payload ≠ []) (hnonce : msg.metadata.nonce ≠ 0)
      (hverified : .verified table.active.keys.rxKey msg ∈ table.trace)
      (haccepts : Session.Accepts cfg.ctx table.active.algorithms.verifyNonce.verify table.active
        msg now payload) :
      TableMove cfg table
        { table with
          active := { table.active with rxNonce := msg.metadata.nonce }
          trace := table.trace ++ [.accepted table.active.keys.rxKey msg payload] }
  /-- a message without user data is refused, but its nonce is taken over -/
  | consume (table : SessionTable) {now : Time} {msg : SessionData}
      (hnonce : msg.metadata.nonce ≠ 0)
      (hverified : .verified table.active.keys.rxKey msg ∈ table.trace)
      (haccepts : Session.Accepts cfg.ctx table.active.algorithms.verifyNonce.verify table.active
        msg now []) :
      TableMove cfg table
        { table with active := { table.active with rxNonce := msg.metadata.nonce } }

abbrev TableMoves (cfg : Config) : SessionTable → SessionTable → Prop :=
  Relation.ReflTransGen (TableMove cfg)

theorem tableMoves_invariant {cfg : Config} {P : SessionTable → Prop}
    (hmove : ∀ table table', TableMove cfg table table' → P table → P table')
    {table table' : SessionTable} (hmoves : TableMoves cfg table table') (hstart : P table) :
    P table' := by
  induction hmoves with
  | refl => exact hstart
  | tail _ hlast ih => exact hmove _ _ hlast ih

/-- The history only grows. -/
theorem TableMove.trace_extends {cfg : Config} {table table' : SessionTable}
    (hmove : TableMove cfg table table') : ∃ new, table'.trace = table.trace ++ new := by
  cases hmove with
  | note => exact ⟨_, rfl⟩
  | reset slot => cases slot <;> exact ⟨[], by simp [SessionTable.setSession]⟩
  | init => exact ⟨_, rfl⟩
  | send => exact ⟨_, rfl⟩
  | activate => exact ⟨_, rfl⟩
  | accept => exact ⟨_, rfl⟩
  | consume => exact ⟨[], by simp⟩

theorem TableMoves.trace_extends {cfg : Config} {table table' : SessionTable}
    (hmoves : TableMoves cfg table table') : ∃ new, table'.trace = table.trace ++ new := by
  induction hmoves with
  | refl => exact ⟨[], by simp⟩
  | tail _ hlast ih =>
      obtain ⟨new, hnew⟩ := ih
      obtain ⟨more, hmore⟩ := hlast.trace_extends
      exact ⟨new ++ more, by rw [hmore, hnew, List.append_assoc]⟩

/-! ## Moves of a layer as moves of its table -/

section Moves

variable {cfg : Config}

theorem TableMoves.notes (table : SessionTable) {new : List Observation}
    (hplain : ∀ o ∈ new, o.plain = true) :
    TableMoves cfg table { table with trace := table.trace ++ new } := by
  induction new generalizing table with
  | nil => simpa using Relation.ReflTransGen.refl
  | cons o new ih =>
      have hfirst : TableMove cfg table { table with trace := table.trace ++ [o] } :=
        .note table (hplain o List.mem_cons_self)
      have hrest := ih { table with trace := table.trace ++ [o] }
        (fun o' ho' => hplain o' (List.mem_cons_of_mem o ho'))
      simpa using Relation.ReflTransGen.head hfirst hrest

theorem Asks.tableMoves {base base' : CryptoLayer} {o o' : Option Bytes} {k k' : List Task}
    (hasks : Asks cfg base o base' o') :
    TableMoves cfg (Snapshot.table ⟨base, o, k⟩) (Snapshot.table ⟨base', o', k'⟩) := by
  cases hasks with
  | stay => exact .refl
  | forget => exact .refl
  | draw value => exact .single (.note _ rfl)
  | @request config init written hrole hready hrequested =>
      have hnotes := @TableMoves.notes cfg (Snapshot.table ⟨base, none, k⟩)
        [.drew (Layer.freshValue init config.mode),
          .transmit ⟨cfg.ctx.frameWriter.frame written, written, .request⟩]
        (by simp [Observation.plain])
      simpa [Snapshot.table, CryptoLayer.sent, CryptoLayer.log] using hnotes

theorem TableMoves.of_notes {s s' : Snapshot} (new : List Observation)
    (hplain : ∀ o ∈ new, o.plain = true) (htrace : s'.base.trace = s.base.trace ++ new)
    (hactive : s'.base.active = s.base.active) (hpending : s'.base.pending = s.base.pending) :
    TableMoves cfg s.table s'.table := by
  have htable : s'.table = { s.table with trace := s.table.trace ++ new } := by
    simp [Snapshot.table, htrace, hactive, hpending]
  rw [htable]
  exact .notes s.table hplain

theorem TableMoves.of_sentSession {base : CryptoLayer} {slot : Slot} {now : Time} {rest : Bytes}
    {formatted : Session.Formatted} {o o' : Option Bytes} {k k' : List Task}
    (hslot : slot = .pending → ∃ config, cfg.role = .initiator config)
    (hnonce : (base.session slot).txNonce = 0 ∨
      (base.session slot).txNonce < (base.session slot).parameters.maxNonce)
    (hdata : (base.session slot).txNonce ≠ 0 → base.txState.remainder ≠ [])
    (hformats : Session.Formats cfg.ctx (base.session slot) now base.txState.remainder rest
      formatted) :
    TableMoves cfg (Snapshot.table ⟨base, o, k⟩)
      (Snapshot.table ⟨base.sentSession slot rest formatted, o', k'⟩) := by
  cases slot with
  | active =>
    exact .single (.send (Snapshot.table ⟨base, o, k⟩) .active hslot hnonce hdata hformats)
  | pending =>
      exact .single (.send (Snapshot.table ⟨base, o, k⟩) .pending hslot hnonce hdata hformats)

theorem openUpper_tableMoves (base : CryptoLayer) {o o' : Option Bytes} {k k' : List Task} :
    TableMoves cfg (Snapshot.table ⟨base, o, k⟩) (Snapshot.table ⟨base.openUpper.1, o', k'⟩) := by
  rw [CryptoLayer.openUpper_fst]
  refine .of_notes (if base.upperOpen then [] else [.opened]) ?_ rfl rfl rfl
  intro observation hmem
  split_ifs at hmem
  · cases hmem
  · rw [List.mem_singleton.mp hmem]
    rfl

theorem closeUpper_tableMoves (base : CryptoLayer) {o o' : Option Bytes} {k k' : List Task} :
    TableMoves cfg (Snapshot.table ⟨base, o, k⟩) (Snapshot.table ⟨base.closeUpper.1, o', k'⟩) := by
  rw [CryptoLayer.closeUpper_fst]
  refine .of_notes (if base.upperOpen then [.closed] else []) ?_ rfl rfl rfl
  intro observation hmem
  split_ifs at hmem
  · rw [List.mem_singleton.mp hmem]
    rfl
  · cases hmem

theorem acceptAuth_tableMove (base : CryptoLayer) (o : Option Bytes) (k : List Task) {now : Time}
    {msg : SessionData} {payload : Bytes}
    (hverified : .verified base.pending.keys.rxKey msg ∈ base.trace)
    (haccepts : Session.Accepts cfg.ctx SessionNonceMode.equalToZero base.pending msg now payload) :
    TableMove cfg (Snapshot.table ⟨base, o, k⟩)
      (Snapshot.table ⟨base.acceptAuth msg payload, o, k⟩) := by
  have hactivate := TableMove.activate (Snapshot.table ⟨base, o, k⟩) hverified haccepts
  have htable : Snapshot.table ⟨base.acceptAuth msg payload, o, k⟩ =
      ⟨{ base.pending with rxNonce := msg.metadata.nonce }, base.active.reset,
        base.trace ++ [.accepted base.pending.keys.rxKey msg payload,
          .activated { base.pending with rxNonce := msg.metadata.nonce }]⟩ := by
    simp [Snapshot.table, CryptoLayer.acceptAuth, CryptoLayer.activatePending, CryptoLayer.log]
  rw [htable]
  exact hactivate

/-- **What each move means for the sessions.** -/
theorem Move.tableMoves {mayFail : Fault → Prop} {s s' : Snapshot} (hmove : Move cfg mayFail s s') :
    TableMoves cfg s.table s'.table := by
  cases hmove with
  | ask k hasks => exact hasks.tableMoves
  | handshakeError o k hread error frame written =>
      exact .of_notes [.transmit ⟨frame, written, .handshakeError error⟩]
        (by simp [Observation.plain]) rfl rfl rfl
  | reply o k hread value frame written =>
      exact .of_notes [.drew value, .transmit ⟨frame, written, .reply⟩]
        (by simp [Observation.plain]) (by simp [CryptoLayer.sent, CryptoLayer.log]) rfl rfl
  | @respond base o k hread mode msg algorithms random findKey now d hrole hderives =>
      -- the fresh value is drawn, the session initialized, and the reply sent
      let drawn : SessionTable := ⟨base.active, base.pending,
        base.trace ++ [.drew (Layer.freshReply cfg.ctx.backend mode msg random)]⟩
      have hdraw : TableMove cfg (Snapshot.table ⟨base, o, k⟩) drawn := .note _ rfl
      have hinit := TableMove.init drawn (.responder hrole hderives)
      have hsend := @TableMove.note cfg
        { drawn with pending := d.session, trace := drawn.trace ++ [.initialized d] }
        (.transmit ⟨cfg.ctx.frameWriter.frame d.reply, d.reply, .reply⟩) rfl
      exact ((Relation.ReflTransGen.single hdraw).tail hinit).tail hsend
  | derive k hread hrole hderives => exact .single (.init _ (.initiator hrole hderives))
  | sendAuth o k hrole hread hnonce hformats =>
      exact .of_sentSession (fun _ => ⟨_, hrole⟩) (Or.inl hnonce)
        (fun hne => absurd hnonce hne) hformats
  | authFailed => exact .of_notes [.authFormatFailed] (by simp [Observation.plain]) rfl rfl rfl
  | @verify base o k slot msg payload hvalid htag =>
      exact .of_notes [.verified (base.session slot).keys.rxKey msg] (by simp [Observation.plain])
        rfl rfl rfl
  | @activate base o k config hrole hread now msg payload hverified haccepts =>
      have hactivate := acceptAuth_tableMove base o k hverified haccepts
      exact (Relation.ReflTransGen.single hactivate).trans (openUpper_tableMoves _)
  | @answer base o k mode hrole hread now later msg payload rest formatted hverified haccepts hnonce
      hformats =>
      have hactivate := acceptAuth_tableMove base o k hverified haccepts
      have hsend : TableMoves cfg (Snapshot.table ⟨base.acceptAuth msg payload, o, k⟩)
          (Snapshot.table ⟨(base.acceptAuth msg payload).sentSession .active rest formatted, o,
            k⟩) :=
        .of_sentSession (by rintro ⟨⟩) (Or.inl hnonce) (fun hne => absurd hnonce hne)
          hformats
      exact ((Relation.ReflTransGen.single hactivate).trans hsend).trans (openUpper_tableMoves _)
  | @leaveUnanswered base o k mode hrole hread now msg payload hverified haccepts hfault =>
      have hactivate := acceptAuth_tableMove base o k hverified haccepts
      exact (Relation.ReflTransGen.single hactivate).tail (.note _ rfl)
  | @acceptData base o k hread now msg payload hpayload hnonce hverified haccepts =>
      have haccept := TableMove.accept (Snapshot.table ⟨base, o, k⟩) hpayload hnonce hverified
        haccepts
      exact (Relation.ReflTransGen.single haccept).tail (.note _ rfl)
  | consume o k hnonce hverified haccepts =>
      exact .single (.consume _ hnonce hverified haccepts)
  | notifyRx => exact .of_notes [.rxReady] (by simp [Observation.plain]) rfl rfl rfl
  | @complete base base' o o' hopen hasks hdone =>
      have hcompleted : TableMoves cfg (Snapshot.table ⟨base, o, []⟩)
          (Snapshot.table ⟨base.complete, o, []⟩) := .single (.note _ rfl)
      exact hcompleted.trans hasks.tableMoves
  | @finish base base' o o' hopen hasks hdone =>
      have hcompleted : TableMoves cfg (Snapshot.table ⟨base, o, []⟩)
          (Snapshot.table ⟨base.complete, o, []⟩) := .single (.note _ rfl)
      have hasked : TableMoves cfg (Snapshot.table ⟨base.complete, o, []⟩)
          (Snapshot.table ⟨base', o', []⟩) := hasks.tableMoves
      refine (hcompleted.trans hasked).trans ?_
      rw [CryptoLayer.notifyTxReady_fst]
      refine TableMoves.of_notes (if base'.upperOpen then [.txReady] else []) ?_ rfl rfl rfl
      intro observation hmem
      split_ifs at hmem
      · rw [List.mem_singleton.mp hmem]
        rfl
      · cases hmem
  | completeClosed => exact .of_notes [.completed] (by simp [Observation.plain]) rfl rfl rfl
  | submit o k data hready =>
      exact .of_notes [.submit data] (by simp [Observation.plain]) rfl rfl rfl
  | transmit o k hready hnonce hformats =>
      simp only [CryptoLayer.canTransmitSessionData, TxState.isReadyTx, Bool.and_eq_true] at hready
      exact .of_sentSession (by rintro ⟨⟩) (Or.inr hnonce)
        (fun _ => by simpa using hready.2.2) hformats
  | @transmitFailed base o k hready hfault =>
      have hreset : TableMove cfg (Snapshot.table ⟨base.log .dataFormatFailed, o, k⟩)
          (Snapshot.table
            ⟨{ base.log .dataFormatFailed with active := base.active.reset }, o, k⟩) :=
        .reset _ .active
      have hnoted : TableMove cfg (Snapshot.table ⟨base, o, k⟩)
          (Snapshot.table ⟨base.log .dataFormatFailed, o, k⟩) := .note _ rfl
      exact ((Relation.ReflTransGen.single hnoted).tail hreset).trans (closeUpper_tableMoves _)
  | read o k hfirst hpayload =>
      exact .of_notes [.read _] (by simp [Observation.plain]) rfl rfl rfl
  | place base o k hpayload =>
      exact .of_notes [.placed _] (by simp [Observation.plain]) rfl rfl rfl
  | @lowerClose base o hopen ready =>
      have hactive := @TableMove.reset cfg (Snapshot.table ⟨base, o, []⟩) .active
      have hpending := @TableMove.reset cfg
        ((Snapshot.table ⟨base, o, []⟩).setSession .active base.active.reset) .pending
      have hboth : TableMoves cfg (Snapshot.table ⟨base, o, []⟩)
          (Snapshot.table ⟨base.closeFromLower ready, o, []⟩) :=
        (Relation.ReflTransGen.single hactive).tail hpending
      exact hboth.trans (closeUpper_tableMoves _)
  | _ => exact .of_notes [] (by simp) (by simp) rfl rfl

theorem Move.trace_extends {mayFail : Fault → Prop} {s s' : Snapshot}
    (hmove : Move cfg mayFail s s') : ∃ new, s'.base.trace = s.base.trace ++ new :=
  hmove.tableMoves.trace_extends

theorem moves_trace_extends {mayFail : Fault → Prop} {s s' : Snapshot}
    (hmoves : Moves cfg mayFail s s') : ∃ new, s'.base.trace = s.base.trace ++ new := by
  refine moves_invariant (P := fun later => ∃ new, later.base.trace = s.base.trace ++ new) ?_ hmoves
    ⟨[], (List.append_nil _).symm⟩
  rintro before after hmove ⟨new, hnew⟩
  obtain ⟨more, hmore⟩ := hmove.trace_extends
  exact ⟨new ++ more, by rw [hmore, hnew, List.append_assoc]⟩

/-! ## Runs

At the start no session is valid.  The results about runs assume something of the whole history,
such as that no fresh value occurs twice in it.  Such a condition holds of every earlier history as
well. -/

theorem Machine.create_invalid (slot : Slot) :
    (create.snapshot.table.session slot).valid ≠ true := by
  cases slot <;> decide

/-- **What no move of the table breaks while a condition on the history holds, no run
breaks under which it holds in the end.** -/
theorem Machine.run_invariant_of_tableMove {P : SessionTable → Prop}
    {C : List Observation → Prop}
    (hC : ∀ history new, C (history ++ new) → C history)
    (hmove : ∀ table table', TableMove cfg table table' → C table'.trace → P table →
      P table')
    {labels : List Label} {machine : Machine} (hrun : create.run cfg labels = some machine)
    (hstart : P create.snapshot.table) (hfinal : C machine.layer.base.trace) :
    P machine.snapshot.table := by
  have hinv : C machine.snapshot.table.trace → P machine.snapshot.table := by
    refine run_invariant_of_move (P := fun s => C s.table.trace → P s.table) ?_ hrun
      (fun _ => hstart)
    intro mayFail s s' hmoves hP
    refine tableMoves_invariant (P := fun table => C table.trace → P table) ?_
      hmoves.tableMoves hP
    intro table table' htable hP hcond
    obtain ⟨new, hnew⟩ := htable.trace_extends
    exact hmove table table' htable hcond (hP (hC _ new (hnew ▸ hcond)))
  exact hinv hfinal

/-- The same for moves of a layer. -/
theorem Machine.run_invariant_of_history {P : Snapshot → Prop}
    {C : List Observation → Prop}
    (hC : ∀ history new, C (history ++ new) → C history)
    (hmove : ∀ mayFail s s', Move cfg mayFail s s' → C s'.base.trace → P s → P s')
    {labels : List Label} {machine : Machine} (hrun : create.run cfg labels = some machine)
    (hstart : P create.snapshot) (hfinal : C machine.layer.base.trace) :
    P machine.snapshot := by
  have hinv : C machine.snapshot.base.trace → P machine.snapshot := by
    refine run_invariant_of_move (P := fun s => C s.base.trace → P s) ?_ hrun
      (fun _ => hstart)
    intro mayFail s s' hmoves hP hcond
    obtain ⟨new, hnew⟩ := hmoves.trace_extends
    exact hmove mayFail s s' hmoves hcond (hP (hC _ new (hnew ▸ hcond)))
  exact hinv hfinal

end Moves

end Ssp21
