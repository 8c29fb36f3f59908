import Ssp21.Crypto.Reactions

/-!
# Waits and their timers

* `Prompt`: every state in which the initiator waits has its timer (`prompt_reacts`,
  `prompt_run`).
* `TimersHeld`: every timer has its state, and its handle (`timersHeld_reacts`,
  `timersHeld_run`).  This one can fail when an answer is read while an accepted auth
  message is still being handled.
-/

namespace Ssp21

open Wire

/-! ## Every wait has its timer -/

namespace InitiatorState

/-- The next handshake is asked for, or its time is set. -/
def Renews (state : InitiatorState) : Prop :=
  state.handshakeRequired = true ∨ state.Armed .session state.sessionTimeoutTimer

/-- The timer of the state is armed, unless the state is about to be left. -/
structure Waits (state : InitiatorState) (entering : Nat) : Prop where
  begin : state.handshakeState = .waitForBeginReply →
    state.Armed .response state.responseAndRetryTimer
  auth : state.handshakeState = .waitForAuthReply → entering = 0 →
    state.Armed .response state.responseAndRetryTimer
  retry : state.handshakeState = .waitForRetry → state.Armed .retry state.responseAndRetryTimer

theorem armed_startResponseTimer (state : InitiatorState) (params : InitiatorParams) (now : Time) :
    (state.startResponseTimer params now).Armed .response
      (state.startResponseTimer params now).responseAndRetryTimer :=
  ⟨⟨state.nextTimer, .response, now + params.responseTimeout⟩, by simp [startResponseTimer], rfl,
    rfl⟩

theorem armed_retryLater (state : InitiatorState) (params : InitiatorParams) (now : Time) :
    (state.retryLater params now).Armed .retry
      (state.retryLater params now).responseAndRetryTimer :=
  ⟨⟨state.nextTimer, .retry, now + params.retryTimeout⟩, by simp [retryLater, startRetryTimer], rfl,
    rfl⟩

theorem armed_startSessionTimer (state : InitiatorState) (due : Time) :
    (state.startSessionTimer due).Armed .session
      (state.startSessionTimer due).sessionTimeoutTimer :=
  ⟨⟨state.nextTimer, .session, due⟩, by simp [startSessionTimer], rfl, rfl⟩

theorem waits_retryLater (state : InitiatorState) (params : InitiatorParams) (now : Time)
    (entering : Nat) : (state.retryLater params now).Waits entering :=
  ⟨nofun, nofun, fun _ => state.armed_retryLater params now⟩

/-- In the other states nothing is waited for. -/
theorem waits_of_idle {state : InitiatorState} (hidle : state.handshakeState = .idle)
    (entering : Nat) : state.Waits entering :=
  ⟨by simp [hidle], by simp [hidle], by simp [hidle]⟩

theorem Renews.cancelResponseAndRetryTimer {state : InitiatorState} (hrenews : state.Renews)
    (htimed : state.WellTimed) : state.cancelResponseAndRetryTimer.Renews :=
  hrenews.imp id (fun harmed => harmed.cancelResponseAndRetryTimer htimed)

theorem Renews.retryLater {state : InitiatorState} (hrenews : state.Renews)
    (params : InitiatorParams) (now : Time) : (state.retryLater params now).Renews :=
  hrenews.imp id (fun harmed => harmed.of_mem (fun _ hmem _ => List.mem_append_left _ hmem))

end InitiatorState

/-- Every state in which the initiator waits has its timer, and an idle one will start
the next handshake. -/
structure Prompt (c : Control) : Prop where
  timed : c.initiator.WellTimed
  nested : c.entering ≠ 0 → c.entering = 1 ∧ c.pending = false ∧
    (c.initiator.handshakeState = .waitForAuthReply ∨ c.initiator.handshakeState = .waitForRetry)
  waits : c.initiator.Waits c.entering
  renews : c.entering ≠ 0 ∨ (c.initiator.handshakeState = .idle ∧ c.isOpen = true) →
    c.initiator.Renews

namespace Prompt

variable {config : InitiatorConfig} {c : Control} {state state' : InitiatorState}

/-- A state in which nothing is being handled, and that is not the idle one. -/
theorem of_busy (htimed : c.initiator.WellTimed) (hzero : c.entering = 0)
    (hwaits : c.initiator.Waits c.entering) (hbusy : c.initiator.handshakeState ≠ .idle) :
    Prompt c :=
  ⟨htimed, fun hne => absurd hzero hne, hwaits, fun h => h.elim (fun hne => absurd hzero hne)
    (fun hidle => absurd hidle.1 hbusy)⟩

/-- A handshake that is called for keeps what is waited for. -/
theorem required (hinv : Prompt c) (hrequired : Required config state state')
    (htimed : state.WellTimed) (hwaits : state.Waits c.entering)
    (hstate : c.entering ≠ 0 → state.handshakeState = c.initiator.handshakeState) (isOpen : Bool) :
    Prompt { c with initiator := state', isOpen := isOpen } := by
  have hidle (h : state.handshakeState = .idle) : c.entering = 0 := by
    by_contra hne
    have hnested := (hinv.nested hne).2.2
    rw [← hstate hne, h] at hnested
    simp at hnested
  cases hrequired with
  | deferred =>
      refine ⟨htimed.of_same rfl rfl rfl rfl, ?_, ⟨hwaits.begin, hwaits.auth, hwaits.retry⟩,
        fun _ => Or.inl rfl⟩
      intro hne
      obtain ⟨hone, hpending, hstates⟩ := hinv.nested hne
      refine ⟨hone, hpending, ?_⟩
      rw [← hstate hne] at hstates
      exact hstates
  | retried h handshake now =>
      exact .of_busy ((htimed.retryLater config.params now).of_same rfl rfl rfl rfl) (hidle h)
        (InitiatorState.waits_retryLater _ _ _ _) nofun
  | failed h handshake =>
      exact .of_busy (htimed.of_same rfl rfl rfl rfl) (hidle h) ⟨nofun, nofun, nofun⟩ nofun
  | requested h handshake requestData now =>
      exact .of_busy ((htimed.startResponseTimer config.params now).of_same rfl rfl rfl rfl)
        (hidle h) ⟨fun _ => InitiatorState.armed_startResponseTimer _ _ _, nofun, nofun⟩ nofun

end Prompt

theorem prompt_reacts {config : InitiatorConfig} {nested : Prop} {c c' : Control}
    (hreacts : Reacts config nested c c') (hinv : Prompt c) : Prompt c' := by
  have hunnested (hwait : c.initiator.handshakeState = .waitForBeginReply) : c.entering = 0 := by
    by_contra hne
    simpa [hwait] using (hinv.nested hne).2.2
  cases hreacts with
  | rest hactive => exact ⟨hinv.timed, hinv.nested, hinv.waits, hinv.renews⟩
  | nonceChange hactive hrequired =>
      refine hinv.required hrequired hinv.timed.cancelSessionTimeoutTimer ?_ (fun _ => rfl) c.isOpen
      exact ⟨fun h => (hinv.waits.begin h).cancelSessionTimeoutTimer nofun hinv.timed,
        fun h hzero => (hinv.waits.auth h hzero).cancelSessionTimeoutTimer nofun hinv.timed,
        fun h => (hinv.waits.retry h).cancelSessionTimeoutTimer nofun hinv.timed⟩
  | opened hclosed hentering hrequired =>
      exact hinv.required hrequired hinv.timed hinv.waits (fun _ => rfl) true
  | preTxReady hentering hdue hrequired =>
      exact hinv.required hrequired hinv.timed hinv.waits (fun _ => rfl) c.isOpen
  | @sessionTimeout state timer hentering hmem hkind hrequired =>
      refine hinv.required hrequired (hinv.timed.fired timer) ?_ (fun _ => rfl) c.isOpen
      exact ⟨fun h => (hinv.waits.begin h).fired (by simp [hkind]) hmem hinv.timed,
        fun h hzero => (hinv.waits.auth h hzero).fired (by simp [hkind]) hmem hinv.timed,
        fun h => (hinv.waits.retry h).fired (by simp [hkind]) hmem hinv.timed⟩
  | @retryTimeout state timer hentering hmem hkind hwait hrequired =>
      exact hinv.required hrequired ((hinv.timed.fired timer).of_same rfl rfl rfl rfl)
        (InitiatorState.waits_of_idle rfl _) (fun hne => absurd hentering hne) c.isOpen
  | @strayRetryTimeout state timer hentering hmem hkind hwait hrequired =>
      refine hinv.required hrequired (hinv.timed.fired timer) ?_ (fun _ => rfl) c.isOpen
      exact ⟨fun h => (hinv.waits.begin h).fired (by simp [hkind]) hmem hinv.timed,
        fun h hzero => (hinv.waits.auth h hzero).fired (by simp [hkind]) hmem hinv.timed,
        fun h => absurd h hwait⟩
  | @responseTimeout timer now hentering hmem hkind hwait =>
      exact .of_busy ((hinv.timed.fired timer).retryLater _ _) hentering
        (InitiatorState.waits_retryLater _ _ _ _) nofun
  | @strayResponseTimeout timer hentering hmem hkind hwait =>
      refine ⟨hinv.timed.fired timer, fun hne => absurd hentering hne, ?_, ?_⟩
      · exact ⟨fun h => absurd h hwait.1, fun h => absurd h hwait.2,
          fun h => (hinv.waits.retry h).fired (by simp [hkind]) hmem hinv.timed⟩
      · intro h
        exact (hinv.renews h).imp id
          (fun harmed => harmed.fired (by simp [hkind]) hmem hinv.timed)
  | beginFailed handshake pending now hwait =>
      have htimed := hinv.timed.cancelResponseAndRetryTimer.retryLater config.params now
      exact .of_busy (htimed.of_same rfl rfl rfl rfl) (hunnested hwait)
        (InitiatorState.waits_retryLater _ _ _ _) nofun
  | begun handshake pending now hwait =>
      have htimed := hinv.timed.cancelResponseAndRetryTimer.startResponseTimer config.params now
      exact .of_busy (htimed.of_same rfl rfl rfl rfl) (hunnested hwait)
        ⟨nofun, fun _ _ => InitiatorState.armed_startResponseTimer _ _ _, nofun⟩ nofun
  | authFailed now hwait hnested =>
      refine ⟨hinv.timed.cancelResponseAndRetryTimer.retryLater _ _, ?_,
        InitiatorState.waits_retryLater _ _ _ _, ?_⟩
      · intro hne
        obtain ⟨hone, hpending, -⟩ := hinv.nested hne
        exact ⟨hone, hpending, Or.inr rfl⟩
      · rintro (hne | ⟨hstate, -⟩)
        · exact ((hinv.renews (Or.inl hne)).cancelResponseAndRetryTimer hinv.timed).retryLater _ _
        · cases hstate
  | accepted due hwait hpending =>
      -- the pending session of an auth message that is being handled is not valid
      have hzero : c.entering = 0 := by
        by_contra hne
        rw [(hinv.nested hne).2.1] at hpending
        cases hpending
      refine ⟨(hinv.timed.cancelResponseAndRetryTimer.startSessionTimer due).of_same rfl
        rfl rfl rfl,
        ?_, ?_, ?_⟩
      · intro _
        exact ⟨by simp [hzero], rfl, Or.inl hwait⟩
      · refine ⟨?_, fun _ => nofun, ?_⟩
        · intro h
          cases hwait.symm.trans h
        · intro h
          cases hwait.symm.trans h
      · intro _
        exact Or.inr (InitiatorState.armed_startSessionTimer _ _)
  | @entered entering hentering =>
      have hne : c.entering ≠ 0 := by omega
      have hzero : entering = 0 := by
        have hone := (hinv.nested hne).1
        omega
      refine ⟨hinv.timed.of_same rfl rfl rfl rfl, fun hne' => absurd hzero hne',
        InitiatorState.waits_of_idle rfl _, ?_⟩
      intro _
      exact hinv.renews (Or.inl hne)
  | closed hopen hentering =>
      refine ⟨?_, fun hne => absurd rfl hne, InitiatorState.waits_of_idle rfl _, ?_⟩
      · exact hinv.timed.cancelResponseAndRetryTimer.cancelSessionTimeoutTimer.of_same
          rfl rfl rfl rfl
      · rintro (hne | ⟨-, hopen'⟩)
        · exact absurd rfl hne
        · cases hopen'

theorem prompt_run {cfg : Config} {config : InitiatorConfig} {labels : List Label}
    {machine : Machine} (hrole : cfg.role = .initiator config)
    (hrun : Machine.create.run cfg labels = some machine) : Prompt machine.control := by
  have halong : Runs.Along (Machine.step cfg) (fun _ _ => True) Machine.create labels :=
    Runs.along_of_forall (fun _ _ => trivial) _ _
  refine Runs.run_invariant (fun machine => Prompt machine.control) ?_ hrun halong ?_
  · intro state label next hinv _ hstep
    exact prompt_reacts (Machine.step_reacts hrole hstep) hinv
  · exact ⟨⟨nofun, List.nodup_nil, nofun, nofun⟩, fun hne => absurd rfl hne,
      InitiatorState.waits_of_idle rfl _, by rintro (hne | ⟨-, ⟨⟩⟩); exact absurd rfl hne⟩

/-- **The initiator is never stuck.**  Between events of an open initiator: while it waits
for an answer its response timer is armed, while it waits for the next attempt its retry
timer is, and when it is idle a handshake is called for or the session timer is armed.
The timers are those of the handles. -/
theorem initiator_never_stuck (cfg : Config) {config : InitiatorConfig} {labels : List Label}
    {machine : Machine} (hrole : cfg.role = .initiator config)
    (hrun : Machine.create.run cfg labels = some machine) (hrest : machine.stack = [])
    (hopen : machine.layer.base.isOpen = true) :
    let initiator := machine.layer.initiator
    match initiator.handshakeState with
    | .waitForBeginReply | .waitForAuthReply =>
        initiator.Armed .response initiator.responseAndRetryTimer
    | .waitForRetry => initiator.Armed .retry initiator.responseAndRetryTimer
    | .idle => initiator.handshakeRequired = true ∨
        initiator.Armed .session initiator.sessionTimeoutTimer
    | .badConfiguration => True := by
  have hinv := prompt_run hrole hrun
  have hzero : machine.control.entering = 0 := by
    simp [Machine.control, Layer.control, hrest]
  dsimp only
  split
  · rename_i hwait
    exact hinv.waits.begin hwait
  · rename_i hwait
    exact hinv.waits.auth hwait hzero
  · rename_i hwait
    exact hinv.waits.retry hwait
  · rename_i hidle
    exact hinv.renews (Or.inr ⟨hidle, hopen⟩)
  · exact trivial

/-- The request is answered with a handshake error. -/
def refused : List Label :=
  Sample.requesting ++ [.lowerTxReady (Sample.env 1), .run (Sample.env 1), .run (Sample.env 1),
    .receive [2, 0, 0, 0, 1, 255], .lowerRxReady, .run (Sample.env 1), .run (Sample.env 1)]

theorem initiator_never_stuck_sample :
    let initiator := (Sample.reached (Sample.initiator ⟨100, 60000⟩) refused).layer.initiator
    initiator.handshakeState = .waitForRetry ∧
      initiator.Armed .retry initiator.responseAndRetryTimer := by
  have hwait : (Sample.reached (Sample.initiator ⟨100, 60000⟩)
      refused).layer.initiator.handshakeState = .waitForRetry := by decide +kernel
  have hstuck := initiator_never_stuck (Sample.initiator ⟨100, 60000⟩) rfl
    (show Machine.create.run (Sample.initiator ⟨100, 60000⟩) refused =
      some (Sample.reached (Sample.initiator ⟨100, 60000⟩) refused) by decide +kernel)
    (by decide +kernel) (by decide +kernel)
  dsimp only at hstuck
  rw [hwait] at hstuck
  exact ⟨hwait, hstuck⟩

/-! ## Every timer has its state -/

/-- The states in which a response or retry timer makes sense. -/
def TimerKind.fits : TimerKind → HandshakeState → Bool
  | .response, .waitForBeginReply => true
  | .response, .waitForAuthReply => true
  | .retry, .waitForRetry => true
  | _, _ => false

theorem TimerKind.fits_response {state : HandshakeState} :
    TimerKind.response.fits state = true ↔
      state = .waitForBeginReply ∨ state = .waitForAuthReply := by
  cases state <;> simp [TimerKind.fits]

theorem TimerKind.fits_retry {state : HandshakeState} :
    TimerKind.retry.fits state = true ↔ state = .waitForRetry := by
  cases state <;> simp [TimerKind.fits]

/-- Every timer is that of a handle, in a state in which it makes sense, and there is none
in a closed layer. -/
structure TimersHeld (c : Control) : Prop where
  timed : c.initiator.WellTimed
  nested : c.entering ≠ 0 → c.entering = 1 ∧ c.pending = false ∧
    c.initiator.handshakeState = .waitForAuthReply ∧ c.initiator.responseAndRetryTimer = none
  answer : ∀ timer ∈ c.initiator.timers, timer.kind ≠ .session →
    c.initiator.responseAndRetryTimer = some timer.id ∧
      timer.kind.fits c.initiator.handshakeState = true
  session : ∀ timer ∈ c.initiator.timers, timer.kind = .session →
    c.initiator.sessionTimeoutTimer = some timer.id ∧ c.isOpen = true ∧
      c.initiator.handshakeRequired = false ∧
      (c.initiator.handshakeState = .idle ∨ c.entering ≠ 0)
  closed : c.isOpen = false → c.initiator.handshakeState = .idle ∧ c.active = false ∧
    c.initiator.handshakeRequired = false

namespace TimersHeld

variable {config : InitiatorConfig} {c : Control} {state state' : InitiatorState}

/-- A handshake that is called for, when no session timer is armed. -/
theorem required (hrequired : Required config state state') (htimed : state.WellTimed)
    (hnested : c.entering ≠ 0 → c.entering = 1 ∧ c.pending = false ∧
      state.handshakeState = .waitForAuthReply ∧ state.responseAndRetryTimer = none)
    (htimers : ∀ timer ∈ state.timers, timer.kind ≠ .session ∧
      state.responseAndRetryTimer = some timer.id ∧ timer.kind.fits state.handshakeState = true)
    {isOpen : Bool} (hopen : isOpen = true) :
    TimersHeld { c with initiator := state', isOpen := isOpen } := by
  have hclosed {P : Prop} (h : isOpen = false) : P := by
    rw [hopen] at h
    cases h
  -- an idle initiator has no timer at all
  have hnone (hidle : state.handshakeState = .idle) : state.timers = [] := by
    rw [List.eq_nil_iff_forall_not_mem]
    intro timer hmem
    obtain ⟨-, -, hfits⟩ := htimers timer hmem
    rw [hidle] at hfits
    cases hkind : timer.kind <;> rw [hkind] at hfits <;> cases hfits
  have hzero (hidle : state.handshakeState = .idle) : ¬ c.entering ≠ 0 := by
    intro hne
    have hauth := (hnested hne).2.2.1
    rw [hidle] at hauth
    cases hauth
  cases hrequired with
  | deferred =>
      refine ⟨htimed.of_same rfl rfl rfl rfl, hnested, fun timer hmem _ => (htimers timer hmem).2,
        fun timer hmem hkind => absurd hkind (htimers timer hmem).1, hclosed⟩
  | retried hidle handshake now =>
      refine ⟨(htimed.retryLater config.params now).of_same rfl rfl rfl rfl,
        fun hne => absurd hne (hzero hidle), ?_, ?_, hclosed⟩
      · simp [InitiatorState.retryLater, InitiatorState.startRetryTimer, hnone hidle,
          TimerKind.fits]
      · simp [InitiatorState.retryLater, InitiatorState.startRetryTimer, hnone hidle]
  | failed hidle handshake =>
      refine ⟨htimed.of_same rfl rfl rfl rfl, fun hne => absurd hne (hzero hidle), ?_, ?_, hclosed⟩
      · simp [hnone hidle]
      · simp [hnone hidle]
  | requested hidle handshake requestData now =>
      refine ⟨(htimed.startResponseTimer config.params now).of_same rfl rfl rfl rfl,
        fun hne => absurd hne (hzero hidle), ?_, ?_, hclosed⟩
      · simp [InitiatorState.startResponseTimer, hnone hidle, TimerKind.fits]
      · simp [InitiatorState.startResponseTimer, hnone hidle]

/-- Cancelling the response or retry timer leaves session timers only. -/
theorem cancelResponse (hinv : TimersHeld c) {timer : Timer}
    (hmem : timer ∈ c.initiator.cancelResponseAndRetryTimer.timers) :
    timer ∈ c.initiator.timers ∧ timer.kind = .session := by
  obtain ⟨hmem, hne⟩ := InitiatorState.mem_cancelHandle.mp hmem
  refine ⟨hmem, ?_⟩
  by_contra hkind
  exact hne (hinv.answer timer hmem hkind).1

/-- A state in which the initiator waits for an answer has no session timer, unless it is
about to be left. -/
theorem no_session (hinv : TimersHeld c) (hstate : c.initiator.handshakeState ≠ .idle)
    (hzero : c.entering = 0) {timer : Timer} (hmem : timer ∈ c.initiator.timers) :
    timer.kind ≠ .session := by
  intro hkind
  rcases (hinv.session timer hmem hkind).2.2.2 with h | h
  · exact hstate h
  · exact h hzero

theorem isOpen (hinv : TimersHeld c) (hstate : c.initiator.handshakeState ≠ .idle) :
    c.isOpen = true := by
  by_contra hopen
  exact hstate (hinv.closed (Bool.eq_false_iff.mpr hopen)).1

/-- When a timer has fired, no timer of its handle is left. -/
theorem of_mem_fired (hinv : TimersHeld c) {timer other : Timer}
    (hmem : timer ∈ c.initiator.timers) (hother : other ∈ (c.initiator.fired timer).timers) :
    other ∈ c.initiator.timers ∧ (timer.kind = .session ↔ other.kind ≠ .session) := by
  obtain ⟨hother, hne⟩ := List.mem_filter.mp hother
  have hid : other.id ≠ timer.id := of_decide_eq_true hne
  refine ⟨hother, ?_, ?_⟩
  · intro hkind hkind'
    have hhandle := (hinv.session timer hmem hkind).1
    have hhandle' := (hinv.session other hother hkind').1
    exact hid (Option.some.inj (hhandle'.symm.trans hhandle))
  · intro hkind'
    by_contra hkind
    have hhandle := (hinv.answer timer hmem hkind).1
    have hhandle' := (hinv.answer other hother hkind').1
    exact hid (Option.some.inj (hhandle'.symm.trans hhandle))

/-- Cancelling the response or retry timer stops all timers of a state that waits. -/
theorem cancelled_nil (hinv : TimersHeld c) (hstate : c.initiator.handshakeState ≠ .idle)
    (hzero : c.entering = 0) : c.initiator.cancelResponseAndRetryTimer.timers = [] := by
  rw [List.eq_nil_iff_forall_not_mem]
  intro timer hmem
  obtain ⟨hmem, hkind⟩ := hinv.cancelResponse hmem
  exact hinv.no_session hstate hzero hmem hkind

/-- A close stops every timer. -/
theorem reset_timers (hinv : TimersHeld c) : c.initiator.resetStateOnClose.timers = [] := by
  rw [List.eq_nil_iff_forall_not_mem]
  intro timer hmem
  obtain ⟨hmem, hne⟩ := InitiatorState.mem_cancelHandle.mp hmem
  obtain ⟨hmem, hkind⟩ := hinv.cancelResponse hmem
  exact hne (hinv.session timer hmem hkind).1

/-- A failed attempt, when no timer is left but the new one. -/
theorem retryLater (htimed : state.WellTimed) (hnone : state.timers = []) (hzero : c.entering = 0)
    (params : InitiatorParams) (now : Time) {pending : Bool} (hopen : c.isOpen = true) :
    TimersHeld { c with initiator := state.retryLater params now, pending := pending } := by
  refine ⟨htimed.retryLater params now, fun hne => absurd hzero hne, ?_, ?_, ?_⟩
  · simp [InitiatorState.retryLater, InitiatorState.startRetryTimer, hnone, TimerKind.fits]
  · simp [InitiatorState.retryLater, InitiatorState.startRetryTimer, hnone]
  · intro hclosed
    rw [show c.isOpen = false from hclosed] at hopen
    cases hopen

end TimersHeld

theorem timersHeld_reacts {config : InitiatorConfig} {nested : Prop} {c c' : Control}
    (hreacts : Reacts config nested c c') (hnot : ¬ nested) (hinv : TimersHeld c) :
    TimersHeld c' := by
  have hnested (hne : c.entering ≠ 0) := hinv.nested hne
  have hzero (hstate : c.initiator.handshakeState ≠ .waitForAuthReply) : c.entering = 0 := by
    by_contra hne
    exact hstate (hinv.nested hne).2.2.1
  cases hreacts with
  | @rest active hactive =>
      refine ⟨hinv.timed, hinv.nested, hinv.answer, hinv.session, ?_⟩
      intro hclosed
      obtain ⟨hidle, hvalid, hflag⟩ := hinv.closed hclosed
      refine ⟨hidle, ?_, hflag⟩
      rw [← Bool.not_eq_true]
      intro h
      rw [hactive h] at hvalid
      cases hvalid
  | nonceChange hactive hrequired =>
      have hopen : c.isOpen = true := by
        by_contra hopen
        rw [(hinv.closed (Bool.eq_false_iff.mpr hopen)).2.1] at hactive
        cases hactive
      refine TimersHeld.required hrequired hinv.timed.cancelSessionTimeoutTimer hnested ?_ hopen
      intro timer hmem
      obtain ⟨hmem, hne⟩ := InitiatorState.mem_cancelHandle.mp hmem
      have hkind : timer.kind ≠ .session := fun hkind => hne (hinv.session timer hmem hkind).1
      exact ⟨hkind, hinv.answer timer hmem hkind⟩
  | opened hclosed hentering hrequired =>
      obtain ⟨hidle, -, -⟩ := hinv.closed hclosed
      refine TimersHeld.required hrequired hinv.timed hnested ?_ rfl
      intro timer hmem
      have hkind : timer.kind ≠ .session := by
        intro hkind
        rw [(hinv.session timer hmem hkind).2.1] at hclosed
        cases hclosed
      exact ⟨hkind, hinv.answer timer hmem hkind⟩
  | preTxReady hentering hdue hrequired =>
      have hopen : c.isOpen = true := by
        by_contra hopen
        rw [(hinv.closed (Bool.eq_false_iff.mpr hopen)).2.2] at hdue
        cases hdue
      refine TimersHeld.required hrequired hinv.timed hnested ?_ hopen
      intro timer hmem
      have hkind : timer.kind ≠ .session := by
        intro hkind
        rw [(hinv.session timer hmem hkind).2.2.1] at hdue
        cases hdue
      exact ⟨hkind, hinv.answer timer hmem hkind⟩
  | @sessionTimeout state timer hentering hmem hkind hrequired =>
      refine TimersHeld.required hrequired (hinv.timed.fired timer) hnested ?_
        (hinv.session timer hmem hkind).2.1
      intro other hother
      obtain ⟨hother, hiff⟩ := hinv.of_mem_fired hmem hother
      exact ⟨hiff.mp hkind, hinv.answer other hother (hiff.mp hkind)⟩
  | @retryTimeout state timer hentering hmem hkind hwait hrequired =>
      refine TimersHeld.required hrequired ((hinv.timed.fired timer).of_same rfl rfl rfl rfl)
        (fun hne => absurd hentering hne) ?_ (hinv.isOpen (by simp [hwait]))
      intro other hother
      -- neither another answer timer nor a session timer is armed
      obtain ⟨hother, hiff⟩ := hinv.of_mem_fired hmem hother
      have hsession : other.kind ≠ .session := hinv.no_session (by simp [hwait]) hentering hother
      rw [hiff.mpr hsession] at hkind
      cases hkind
  | @strayRetryTimeout state timer hentering hmem hkind hwait hrequired =>
      have hfits := (hinv.answer timer hmem (by simp [hkind])).2
      rw [hkind, TimerKind.fits_retry] at hfits
      exact absurd hfits hwait
  | @responseTimeout timer now hentering hmem hkind hwait =>
      have hstate : c.initiator.handshakeState ≠ .idle := by
        rcases hwait with h | h <;> simp [h]
      refine TimersHeld.retryLater (hinv.timed.fired timer) ?_ hentering config.params now
        (hinv.isOpen hstate)
      rw [List.eq_nil_iff_forall_not_mem]
      intro other hother
      obtain ⟨hother, hiff⟩ := hinv.of_mem_fired hmem hother
      rw [hiff.mpr (hinv.no_session hstate hentering hother)] at hkind
      cases hkind
  | @strayResponseTimeout timer hentering hmem hkind hwait =>
      have hfits := (hinv.answer timer hmem (by simp [hkind])).2
      rw [hkind, TimerKind.fits_response] at hfits
      exact absurd hfits (not_or.mpr hwait)
  | beginFailed handshake pending now hwait =>
      have hentering := hzero (by simp [hwait])
      have hstate : c.initiator.handshakeState ≠ .idle := by simp [hwait]
      have htimed : InitiatorState.WellTimed
          { c.initiator.cancelResponseAndRetryTimer with handshake := handshake } :=
        hinv.timed.cancelResponseAndRetryTimer.of_same rfl rfl rfl rfl
      exact TimersHeld.retryLater htimed (hinv.cancelled_nil hstate hentering) hentering
        config.params
        now (hinv.isOpen hstate)
  | begun handshake pending now hwait =>
      have hentering := hzero (by simp [hwait])
      have hstate : c.initiator.handshakeState ≠ .idle := by simp [hwait]
      have hnone := hinv.cancelled_nil hstate hentering
      refine ⟨(hinv.timed.cancelResponseAndRetryTimer.startResponseTimer config.params now).of_same
        rfl rfl rfl rfl, fun hne => absurd hentering hne, ?_, ?_, ?_⟩
      · simp [InitiatorState.startResponseTimer, hnone, TimerKind.fits]
      · simp [InitiatorState.startResponseTimer, hnone]
      · intro hclosed
        exact absurd (hinv.closed hclosed).1 hstate
  | authFailed now hwait hnested =>
      have hentering : c.entering = 0 := by
        by_contra hne
        exact hnot (hnested hne)
      have hstate : c.initiator.handshakeState ≠ .idle := by simp [hwait]
      exact TimersHeld.retryLater hinv.timed.cancelResponseAndRetryTimer
        (hinv.cancelled_nil hstate hentering) hentering config.params now (hinv.isOpen hstate)
  | accepted due hwait hpending =>
      have hentering : c.entering = 0 := by
        by_contra hne
        rw [(hinv.nested hne).2.1] at hpending
        cases hpending
      have hstate : c.initiator.handshakeState ≠ .idle := by simp [hwait]
      have hnone := hinv.cancelled_nil hstate hentering
      refine ⟨(hinv.timed.cancelResponseAndRetryTimer.startSessionTimer due).of_same rfl
        rfl rfl rfl,
        ?_, ?_, ?_, ?_⟩
      · intro _
        exact ⟨by simp [hentering], rfl, hwait, rfl⟩
      · simp [InitiatorState.startSessionTimer, hnone]
      · simp [InitiatorState.startSessionTimer, hnone, hinv.isOpen hstate]
      · intro hclosed
        exact absurd (hinv.closed hclosed).1 hstate
  | @entered entering hentering =>
      obtain ⟨hone, -, hwait, hnone⟩ := hinv.nested (by omega)
      have hleft : entering = 0 := by omega
      refine ⟨hinv.timed.of_same rfl rfl rfl rfl, fun hne => absurd hleft hne, ?_, ?_, ?_⟩
      · intro timer hmem hkind
        rw [(hinv.answer timer hmem hkind).1] at hnone
        cases hnone
      · intro timer hmem hkind
        obtain ⟨hhandle, hopen, hflag, -⟩ := hinv.session timer hmem hkind
        exact ⟨hhandle, hopen, hflag, Or.inl rfl⟩
      · intro hclosed
        rw [(hinv.closed hclosed).1] at hwait
        cases hwait
  | closed hopen hentering =>
      have hnone := hinv.reset_timers
      refine ⟨hinv.timed.cancelResponseAndRetryTimer.cancelSessionTimeoutTimer.of_same rfl
        rfl rfl rfl,
        fun hne => absurd rfl hne, ?_, ?_, fun _ => ⟨rfl, rfl, rfl⟩⟩
      · simp [hnone]
      · simp [hnone]

theorem timersHeld_run {cfg : Config} {config : InitiatorConfig} {labels : List Label}
    {machine : Machine} (hrole : cfg.role = .initiator config)
    (hrun : Machine.create.run cfg labels = some machine)
    (halong : Runs.Along (Machine.step cfg) (fun machine label => ¬ machine.ReadsNestedAnswer label)
      Machine.create labels) : TimersHeld machine.control := by
  refine Runs.run_invariant (fun machine => TimersHeld machine.control) ?_ hrun halong ?_
  · intro state label next hinv hnot hstep
    exact timersHeld_reacts (Machine.step_reacts hrole hstep) hnot hinv
  · exact ⟨⟨nofun, List.nodup_nil, nofun, nofun⟩, fun hne => absurd rfl hne, nofun, nofun,
      fun _ => ⟨rfl, rfl, rfl⟩⟩

/-- At most one of the armed timers is a response or retry timer. -/
theorem TimersHeld.answer_length_le_one {c : Control} (hinv : TimersHeld c) :
    (c.initiator.timers.filter (fun timer => timer.kind ≠ .session)).length ≤ 1 := by
  have hsub : (c.initiator.timers.filter (fun timer => timer.kind ≠ .session)).Sublist
      c.initiator.timers := List.filter_sublist
  have hnodup := (hsub.map Timer.id).nodup hinv.timed.distinct
  have hall : ∀ timer ∈ c.initiator.timers.filter (fun timer => timer.kind ≠ .session),
      c.initiator.responseAndRetryTimer = some timer.id := by
    intro timer hmem
    obtain ⟨hmem, hkind⟩ := List.mem_filter.mp hmem
    exact (hinv.answer timer hmem (of_decide_eq_true hkind)).1
  generalize c.initiator.timers.filter (fun timer => timer.kind ≠ .session) =
    timers at hnodup hall ⊢
  match timers with
  | [] => exact Nat.zero_le 1
  | [_] => exact Nat.le_refl 1
  | first :: second :: rest =>
      have hid : first.id = second.id :=
        Option.some.inj ((hall first (by simp)).symm.trans (hall second (by simp)))
      simp [hid] at hnodup

/-- **No stray timers**, in every state of a run in which no answer is read while an
accepted auth message is being handled: at most one response or retry timer is armed,
each only in a state that waits for it, and no timer at all while the layer is closed. -/
theorem no_stray_timers (cfg : Config) {config : InitiatorConfig} {labels : List Label}
    {machine : Machine} (hrole : cfg.role = .initiator config)
    (hrun : Machine.create.run cfg labels = some machine)
    (halong : Runs.Along (Machine.step cfg) (fun machine label => ¬ machine.ReadsNestedAnswer label)
      Machine.create labels) :
    let initiator := machine.layer.initiator
    (initiator.timers.filter (fun timer => timer.kind ≠ .session)).length ≤ 1 ∧
      (∀ timer ∈ initiator.timers, timer.kind = .response →
        initiator.handshakeState = .waitForBeginReply ∨
          initiator.handshakeState = .waitForAuthReply) ∧
      (∀ timer ∈ initiator.timers, timer.kind = .retry →
        initiator.handshakeState = .waitForRetry) ∧
      (machine.layer.base.isOpen = false → initiator.timers = []) := by
  have hinv := timersHeld_run hrole hrun halong
  refine ⟨hinv.answer_length_le_one, ?_, ?_, ?_⟩
  · intro timer hmem hkind
    have hfits := (hinv.answer timer hmem (by simp [hkind])).2
    rwa [hkind, TimerKind.fits_response] at hfits
  · intro timer hmem hkind
    have hfits := (hinv.answer timer hmem (by simp [hkind])).2
    rwa [hkind, TimerKind.fits_retry] at hfits
  · intro hclosed
    rw [List.eq_nil_iff_forall_not_mem]
    intro timer hmem
    by_cases hkind : timer.kind = .session
    · have hopen := (hinv.session timer hmem hkind).2.1
      rw [show machine.control.isOpen = false from hclosed] at hopen
      cases hopen
    · have hfits := (hinv.answer timer hmem hkind).2
      rw [(hinv.closed hclosed).1] at hfits
      cases hkind' : timer.kind <;> rw [hkind'] at hfits <;> cases hfits

namespace TimersHeld

/-- The responder's answer to the auth message of the sample handshake. -/
def authReply (limits : SessionLimits) : Bytes :=
  Sample.frame (Sample.reached (Sample.responder 1000) (Sample.opening limits)) 1

/-- The initiator accepts the answer, behind which a handshake error is queued, and is in
the callback that opens its upper layer. -/
def accepting : List Label :=
  Sample.authenticating ⟨100, 60000⟩ ++ [.lowerTxReady (Sample.env 1), .run (Sample.env 1),
    .run (Sample.env 1), .receive (authReply ⟨100, 60000⟩), .receive [2, 0, 0, 0, 1, 255],
    .lowerRxReady, .run (Sample.env 1)]

/-- The upper layer returns, and then the error is read. -/
def returning : List Label :=
  accepting ++ [.ret, .run (Sample.env 1), .run (Sample.env 1), .run (Sample.env 1),
    .run (Sample.env 1)]

theorem no_stray_timers_sample :
    let initiator := (Sample.reached (Sample.initiator ⟨100, 60000⟩) returning).layer.initiator
    initiator.handshakeState = .idle ∧
      (initiator.timers.filter (fun timer => timer.kind ≠ .session)).length ≤ 1 :=
  ⟨by decide +kernel, (no_stray_timers (Sample.initiator ⟨100, 60000⟩) rfl
    (show Machine.create.run (Sample.initiator ⟨100, 60000⟩) returning =
      some (Sample.reached (Sample.initiator ⟨100, 60000⟩) returning) by decide +kernel)
    (by decide +kernel)).1⟩

/-- The upper layer reads from inside the callback: the error is taken for an answer to
the auth message, and its retry timer is left armed in the idle state. -/
def readingInside : List Label :=
  accepting ++ [.startRx, .run (Sample.env 1), .run (Sample.env 1), .ret, .run (Sample.env 1),
    .run (Sample.env 1), .run (Sample.env 1)]

theorem retry_timer_in_idle :
    let machine := Sample.reached (Sample.initiator ⟨100, 60000⟩) readingInside
    Machine.create.run (Sample.initiator ⟨100, 60000⟩) readingInside = some machine ∧
      machine.stack = [] ∧ machine.layer.base.isOpen = true ∧
      machine.layer.initiator.handshakeState = .idle ∧
      machine.layer.initiator.timers.any (fun timer => timer.kind = .retry) = true := by
  decide +kernel

end TimersHeld

end Ssp21
