import Ssp21.Crypto.Layer
import Mathlib.Data.List.Nodup

/-!
# The timers of the initiator

The initiator has a handle for its response or retry timer and one for its session
timer.  A handle can be given a new value without the old timer being cancelled.

* `WellTimed`: timers have distinct numbers, and a handle is one of its own kind.
* `Armed`: the timer of a handle will fire.
-/

namespace Ssp21

open Wire

/-! ## Timers and handles -/

namespace InitiatorState

/-- Timers have distinct numbers below the next one, and a handle stands for timers of
its own kind only. -/
structure WellTimed (state : InitiatorState) : Prop where
  below : ∀ timer ∈ state.timers, timer.id < state.nextTimer
  distinct : (state.timers.map Timer.id).Nodup
  answer : ∀ id, state.responseAndRetryTimer = some id →
    id < state.nextTimer ∧ ∀ timer ∈ state.timers, timer.id = id → timer.kind ≠ .session
  session : ∀ id, state.sessionTimeoutTimer = some id →
    id < state.nextTimer ∧ ∀ timer ∈ state.timers, timer.id = id → timer.kind = .session

/-- The timer of a handle will fire. -/
def Armed (state : InitiatorState) (kind : TimerKind) (handle : Option Nat) : Prop :=
  ∃ timer ∈ state.timers, timer.kind = kind ∧ handle = some timer.id

theorem mem_cancelHandle {timers : List Timer} {handle : Option Nat} {timer : Timer} :
    timer ∈ cancelHandle timers handle ↔ timer ∈ timers ∧ handle ≠ some timer.id := by
  cases handle with
  | none => simp [cancelHandle]
  | some id =>
      simp only [cancelHandle, List.mem_filter, decide_eq_true_eq, ne_eq, Option.some.injEq,
        eq_comm (a := id)]

theorem cancelHandle_sublist (timers : List Timer) (handle : Option Nat) :
    (cancelHandle timers handle).Sublist timers := by
  cases handle with
  | none => exact List.Sublist.refl _
  | some id => exact List.filter_sublist

theorem WellTimed.unique {state : InitiatorState} (htimed : state.WellTimed) {timer timer' : Timer}
    (hmem : timer ∈ state.timers) (hmem' : timer' ∈ state.timers) (hid : timer.id = timer'.id) :
    timer = timer' :=
  List.inj_on_of_nodup_map htimed.distinct hmem hmem' hid

/-- A handle stands for timers of some kinds only. -/
def StandsFor (state : InitiatorState) (kinds : TimerKind → Prop) (handle : Option Nat) : Prop :=
  ∀ id, handle = some id →
    id < state.nextTimer ∧ ∀ timer ∈ state.timers, timer.id = id → kinds timer.kind

namespace StandsFor

variable {state state' : InitiatorState} {kinds : TimerKind → Prop} {handle handle' : Option Nat}
  {kind : TimerKind} {due : Time}

/-- Timers are stopped, and the handle may be given up. -/
theorem stop (hstands : state.StandsFor kinds handle)
    (htimers : state'.timers.Sublist state.timers) (hnext : state'.nextTimer = state.nextTimer)
    (hhandle : handle' = handle ∨ handle' = none) : state'.StandsFor kinds handle' := by
  intro id hid
  rcases hhandle with hsame | hnone
  · obtain ⟨hlt, hkind⟩ := hstands id (hsame.symm.trans hid)
    exact ⟨by rw [hnext]; exact hlt, fun timer hmem => hkind timer (htimers.subset hmem)⟩
  · rw [hnone] at hid
    cases hid

/-- A timer is started, for this handle or for another one. -/
theorem start (hstands : state.StandsFor kinds handle)
    (hbelow : ∀ timer ∈ state.timers, timer.id < state.nextTimer)
    (hmem : ∀ timer ∈ state'.timers,
      timer ∈ state.timers ∨ timer = ⟨state.nextTimer, kind, due⟩)
    (hnext : state'.nextTimer = state.nextTimer + 1)
    (hhandle : handle' = handle ∨ kinds kind ∧ handle' = some state.nextTimer) :
    state'.StandsFor kinds handle' := by
  intro id hid
  rw [hnext]
  rcases hhandle with hsame | ⟨hkind, hnew⟩
  · obtain ⟨hlt, hold⟩ := hstands id (hsame.symm.trans hid)
    refine ⟨Nat.lt_succ_of_lt hlt, ?_⟩
    intro timer h heq
    rcases hmem timer h with h | rfl
    · exact hold timer h heq
    · exact absurd heq (Nat.ne_of_gt hlt)
  · obtain rfl : state.nextTimer = id := Option.some.inj (hnew.symm.trans hid)
    refine ⟨Nat.lt_succ_self _, ?_⟩
    intro timer h heq
    rcases hmem timer h with h | rfl
    · exact absurd heq (Nat.ne_of_lt (hbelow timer h))
    · exact hkind

end StandsFor

namespace WellTimed

variable {state state' : InitiatorState} {kind : TimerKind} {due : Time}

theorem standsForAnswer (htimed : state.WellTimed) :
    state.StandsFor (· ≠ .session) state.responseAndRetryTimer :=
  htimed.answer

theorem standsForSession (htimed : state.WellTimed) :
    state.StandsFor (· = .session) state.sessionTimeoutTimer :=
  htimed.session

/-- Timers are stopped, and handles given up. -/
theorem stop (htimed : state.WellTimed) (htimers : state'.timers.Sublist state.timers)
    (hnext : state'.nextTimer = state.nextTimer)
    (hanswer : state'.responseAndRetryTimer = state.responseAndRetryTimer ∨
      state'.responseAndRetryTimer = none)
    (hsession : state'.sessionTimeoutTimer = state.sessionTimeoutTimer ∨
      state'.sessionTimeoutTimer = none) : state'.WellTimed := by
  refine ⟨?_, (htimers.map Timer.id).nodup htimed.distinct,
    htimed.standsForAnswer.stop htimers hnext hanswer,
    htimed.standsForSession.stop htimers hnext hsession⟩
  intro timer hmem
  rw [hnext]
  exact htimed.below timer (htimers.subset hmem)

/-- A timer is started, with the next number and the handle of its kind. -/
theorem start (htimed : state.WellTimed)
    (htimers : state'.timers = state.timers ++ [⟨state.nextTimer, kind, due⟩])
    (hnext : state'.nextTimer = state.nextTimer + 1)
    (hanswer : (kind = .session ∧ state'.responseAndRetryTimer = state.responseAndRetryTimer) ∨
      (kind ≠ .session ∧ state'.responseAndRetryTimer = some state.nextTimer))
    (hsession : (kind ≠ .session ∧ state'.sessionTimeoutTimer = state.sessionTimeoutTimer) ∨
      (kind = .session ∧ state'.sessionTimeoutTimer = some state.nextTimer)) :
    state'.WellTimed := by
  have hmem : ∀ timer ∈ state'.timers,
      timer ∈ state.timers ∨ timer = ⟨state.nextTimer, kind, due⟩ := by
    intro timer h
    rw [htimers] at h
    simpa using h
  refine ⟨?_, ?_, htimed.standsForAnswer.start htimed.below hmem hnext (hanswer.imp_left And.right),
    htimed.standsForSession.start htimed.below hmem hnext (hsession.imp_left And.right)⟩
  · intro timer h
    rw [hnext]
    rcases hmem timer h with hold | rfl
    · exact Nat.lt_succ_of_lt (htimed.below timer hold)
    · exact Nat.lt_succ_self _
  · rw [htimers, List.map_append, List.nodup_append]
    refine ⟨htimed.distinct, List.nodup_singleton _, ?_⟩
    intro id hid id' hid'
    obtain ⟨timer, hold, rfl⟩ := List.mem_map.mp hid
    have hlt := htimed.below timer hold
    simp only [List.map_cons, List.map_nil, List.mem_singleton] at hid'
    omega

theorem startResponseTimer (htimed : state.WellTimed) (params : InitiatorParams) (now : Time) :
    (state.startResponseTimer params now).WellTimed :=
  htimed.start rfl rfl (Or.inr ⟨nofun, rfl⟩) (Or.inl ⟨nofun, rfl⟩)

theorem retryLater (htimed : state.WellTimed) (params : InitiatorParams) (now : Time) :
    (state.retryLater params now).WellTimed :=
  htimed.start rfl rfl (Or.inr ⟨nofun, rfl⟩) (Or.inl ⟨nofun, rfl⟩)

theorem startSessionTimer (htimed : state.WellTimed) (due : Time) :
    (state.startSessionTimer due).WellTimed :=
  htimed.start rfl rfl (Or.inl ⟨rfl, rfl⟩) (Or.inr ⟨rfl, rfl⟩)

theorem cancelResponseAndRetryTimer (htimed : state.WellTimed) :
    state.cancelResponseAndRetryTimer.WellTimed :=
  htimed.stop (cancelHandle_sublist _ _) rfl (Or.inr rfl) (Or.inl rfl)

theorem cancelSessionTimeoutTimer (htimed : state.WellTimed) :
    state.cancelSessionTimeoutTimer.WellTimed :=
  htimed.stop (cancelHandle_sublist _ _) rfl (Or.inl rfl) (Or.inr rfl)

/-- Only the timers and their handles matter. -/
theorem of_same (htimed : state.WellTimed) (htimers : state'.timers = state.timers)
    (hnext : state'.nextTimer = state.nextTimer)
    (hanswer : state'.responseAndRetryTimer = state.responseAndRetryTimer)
    (hsession : state'.sessionTimeoutTimer = state.sessionTimeoutTimer) : state'.WellTimed :=
  htimed.stop (by rw [htimers]) hnext (Or.inl hanswer) (Or.inl hsession)

end WellTimed

namespace Armed

variable {state state' : InitiatorState} {kind : TimerKind} {handle : Option Nat}

theorem of_mem (harmed : state.Armed kind handle)
    (hkept : ∀ timer ∈ state.timers, timer.kind = kind → timer ∈ state'.timers) :
    state'.Armed kind handle := by
  obtain ⟨timer, hmem, hkind, hhandle⟩ := harmed
  exact ⟨timer, hkept timer hmem hkind, hkind, hhandle⟩

theorem cancelResponseAndRetryTimer (harmed : state.Armed .session handle)
    (htimed : state.WellTimed) : state.cancelResponseAndRetryTimer.Armed .session handle := by
  refine harmed.of_mem ?_
  intro timer hmem hkind
  exact mem_cancelHandle.mpr ⟨hmem, fun heq => (htimed.answer _ heq).2 timer hmem rfl hkind⟩

theorem cancelSessionTimeoutTimer (harmed : state.Armed kind handle) (hkind : kind ≠ .session)
    (htimed : state.WellTimed) : state.cancelSessionTimeoutTimer.Armed kind handle := by
  refine harmed.of_mem ?_
  rintro timer hmem rfl
  exact mem_cancelHandle.mpr ⟨hmem, fun heq => hkind ((htimed.session _ heq).2 timer hmem rfl)⟩

end Armed

/-- A timer that has fired is gone. -/
def fired (state : InitiatorState) (timer : Timer) : InitiatorState :=
  { state with timers := state.timers.filter (fun other => other.id ≠ timer.id) }

theorem WellTimed.fired {state : InitiatorState} (htimed : state.WellTimed) (timer : Timer) :
    (state.fired timer).WellTimed :=
  htimed.stop List.filter_sublist rfl (Or.inl rfl) (Or.inl rfl)

theorem Armed.fired {state : InitiatorState} {kind : TimerKind} {handle : Option Nat}
    {timer : Timer}
    (harmed : state.Armed kind handle) (hkind : timer.kind ≠ kind) (hmem : timer ∈ state.timers)
    (htimed : state.WellTimed) : (state.fired timer).Armed kind handle := by
  refine harmed.of_mem ?_
  rintro other hother rfl
  refine List.mem_filter.mpr ⟨hother, decide_eq_true ?_⟩
  intro hid
  exact hkind (congrArg Timer.kind (htimed.unique hmem hother hid.symm))

end InitiatorState

end Ssp21
