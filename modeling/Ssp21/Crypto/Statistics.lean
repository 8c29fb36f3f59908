import Ssp21.Crypto.Formatting
import Ssp21.Foundation.Runs

/-!
# Session statistics

`SessionStatistics` is what an operator sees of the messages that a session was given.  The
counters are moved at the return points of two nested functions: the inner one counts a success,
and the outer one may still refuse the message because it carries no user data.

`Session.statistics_reflect_iff` says that the counters are right along a run of validations exactly
as long as no authentic message without user data is among them.
-/

namespace Ssp21

open Wire

/-- The counters of refused messages. -/
def SessionStatistics.failures (stats : SessionStatistics) : Nat :=
  stats.numUserDataWithoutSession + stats.numAuthFail + stats.numTtlExpiration + stats.numNonceFail

/-- A call of one of the two validations. -/
inductive Validation
  | auth (message : SessionData) (now : Time)
  | data (message : SessionData) (now : Time)
  deriving DecidableEq, Repr

namespace Session

/-- A session with the counters it shares. -/
abbrev Counted := Session × SessionStatistics

def validate (ctx : SessionContext) (state : Counted) :
    Validation → Except CryptoError Bytes × Session × SessionStatistics
  | .auth message now => validateSessionAuth ctx state.1 state.2 message now
  | .data message now => validateSessionData ctx state.1 state.2 message now

/-- A call as a step: every call is possible. -/
def validateStep (ctx : SessionContext) (state : Counted) (call : Validation) : Option Counted :=
  some (validate ctx state call).2

/-- The call returns without an error. -/
def Accepted (ctx : SessionContext) (state : Counted) (call : Validation) : Prop :=
  (validate ctx state call).1.isOk = true

instance (ctx : SessionContext) (state : Counted) (call : Validation) :
    Decidable (Accepted ctx state call) :=
  inferInstanceAs (Decidable (_ = true))

/-- The call counts the message that is accepted and no other, and counts it as a success only. -/
structure Reflects (ctx : SessionContext) (state : Counted) (call : Validation) : Prop where
  success : (validate ctx state call).2.2.numSuccess =
    state.2.numSuccess + if Accepted ctx state call then 1 else 0
  single : (validate ctx state call).2.2.numSuccess ≠ state.2.numSuccess →
    (validate ctx state call).2.2.failures = state.2.failures

/-- The message passes all checks of `validate_session_data_with_nonce_func`, and then carries
nothing. -/
def Emptied (ctx : SessionContext) (state : Counted) : Validation → Prop
  | .auth _ _ => False
  | .data message now =>
      Accepts ctx state.1.algorithms.verifyNonce.verify state.1 message now []

instance (ctx : SessionContext) (state : Counted) : ∀ call, Decidable (Emptied ctx state call)
  | .auth _ _ => isFalse id
  | .data message now => inferInstanceAs (Decidable (Accepts ctx _ state.1 message now []))

/-! ## One call -/

section Call

variable {ctx : SessionContext} {state : Counted} {call : Validation}

/-- What a call does to the counters: it counts a success and accepts, or it counts none and
refuses, or it counts both a success and a failure and refuses. -/
theorem validate_counts (ctx : SessionContext) (state : Counted) (call : Validation) :
    (Accepted ctx state call ∧ ¬ Emptied ctx state call ∧
      (validate ctx state call).2.2 =
        { state.2 with numSuccess := state.2.numSuccess + 1 }) ∨
    (¬ Accepted ctx state call ∧ ¬ Emptied ctx state call ∧
      (validate ctx state call).2.2.numSuccess = state.2.numSuccess) ∨
    (¬ Accepted ctx state call ∧ Emptied ctx state call ∧
      (validate ctx state call).2.2 =
        { state.2 with
          numSuccess := state.2.numSuccess + 1, numAuthFail := state.2.numAuthFail + 1 }) := by
  obtain ⟨session, stats⟩ := state
  cases call with
  | auth message now =>
      simp only [Accepted, Emptied, validate, validateSessionAuth]
      rcases validateWithNonceFunc_cases ctx SessionNonceMode.equalToZero session stats message now
        with ⟨payload, _, haccepts, -⟩ | ⟨e, stats', heq⟩
      · rw [validateWithNonceFunc_of_accepts haccepts]
        exact .inl ⟨rfl, id, rfl⟩
      · have hcount := validateWithNonceFunc_of_error heq
        rw [heq]
        exact .inr (.inl ⟨Bool.false_ne_true, id, hcount⟩)
  | data message now =>
      simp only [Accepted, Emptied, validate, validateSessionData]
      rcases validateWithNonceFunc_cases ctx session.algorithms.verifyNonce.verify session stats
        message now with ⟨payload, _, haccepts, -⟩ | ⟨e, stats', heq⟩
      · rw [validateWithNonceFunc_of_accepts haccepts]
        by_cases hempty : payload = []
        · subst hempty
          exact .inr (.inr ⟨Bool.false_ne_true, haccepts, rfl⟩)
        · -- the payload is the one the message opens to, so that it is not empty either
          have hnot : ¬ Accepts ctx session.algorithms.verifyNonce.verify session message
              now [] := by
            intro hnil
            have heq := hnil.authentic.symm.trans haccepts.authentic
            exact hempty (Except.ok.inj heq).symm
          simp only [hempty, if_false]
          exact .inl ⟨rfl, hnot, trivial⟩
      · have hcount := validateWithNonceFunc_of_error heq
        have hnot : ¬ Accepts ctx session.algorithms.verifyNonce.verify session message now [] := by
          intro hnil
          rw [validateWithNonceFunc_of_accepts hnil] at heq
          cases heq
        rw [heq]
        exact .inr (.inl ⟨Bool.false_ne_true, hnot, hcount⟩)

theorem reflects_iff : Reflects ctx state call ↔ ¬ Emptied ctx state call := by
  rcases validate_counts ctx state call with ⟨haccepted, hempty, hstats⟩ |
    ⟨haccepted, hempty, hcount⟩ | ⟨haccepted, hempty, hstats⟩
  · refine iff_of_true ⟨?_, fun _ => ?_⟩ hempty
    · rw [hstats, if_pos haccepted]
    · rw [hstats]
      rfl
  · refine iff_of_true ⟨?_, fun hne => absurd hcount hne⟩ hempty
    rw [hcount, if_neg haccepted, Nat.add_zero]
  · refine iff_of_false (fun hreflects => ?_) (not_not.mpr hempty)
    have hcount := hreflects.success
    rw [hstats, if_neg haccepted] at hcount
    simp at hcount

end Call

/-! ## A run of calls -/

/-- How many calls of a run meet a condition, each in the state it is made in. -/
def countAlong (ctx : SessionContext) (condition : Counted → Validation → Prop)
    [∀ state call, Decidable (condition state call)] : Counted → List Validation → Nat
  | _, [] => 0
  | state, call :: calls =>
      (if condition state call then 1 else 0) +
        countAlong ctx condition (validate ctx state call).2 calls

/-- Over a run the successes are the messages that were accepted and those that were emptied. -/
theorem numSuccess_run (ctx : SessionContext) (calls : List Validation) (state state' : Counted)
    (hrun : Runs.run (validateStep ctx) state calls = some state') :
    state'.2.numSuccess = state.2.numSuccess + countAlong ctx (Accepted ctx) state calls +
      countAlong ctx (Emptied ctx) state calls := by
  induction calls generalizing state with
  | nil =>
      cases hrun
      rfl
  | cons call calls ih =>
      have hrest := ih (validate ctx state call).2 hrun
      rw [hrest]
      simp only [countAlong]
      rcases validate_counts ctx state call with ⟨haccepted, hempty, hstats⟩ |
        ⟨haccepted, hempty, hcount⟩ | ⟨haccepted, hempty, hstats⟩
      · have hcount : (validate ctx state call).2.2.numSuccess = state.2.numSuccess + 1 := by
          rw [hstats]
        rw [hcount, if_pos haccepted, if_neg hempty]
        omega
      · rw [hcount, if_neg haccepted, if_neg hempty]
        omega
      · have hcount : (validate ctx state call).2.2.numSuccess = state.2.numSuccess + 1 := by
          rw [hstats]
        rw [hcount, if_neg haccepted, if_pos hempty]
        omega

theorem along_not_emptied_iff (ctx : SessionContext) (calls : List Validation) (state : Counted) :
    Runs.Along (validateStep ctx) (fun state call => ¬ Emptied ctx state call) state calls ↔
      countAlong ctx (Emptied ctx) state calls = 0 := by
  induction calls generalizing state with
  | nil => exact iff_of_true trivial rfl
  | cons call calls ih =>
      simp only [Runs.Along, validateStep, Option.some.injEq, forall_eq', countAlong, ih,
        Nat.add_eq_zero_iff, ite_eq_right_iff, one_ne_zero, imp_false]

/-- **Statistics.**  Along a run of validations every call counts what it returns exactly if no
authentic message without user data is among the calls; and exactly then the successes are as many
as the accepted messages. -/
theorem statistics_reflect_iff (ctx : SessionContext) (state state' : Counted)
    (calls : List Validation) (hrun : Runs.run (validateStep ctx) state calls = some state') :
    (Runs.Along (validateStep ctx) (Reflects ctx) state calls ↔
      Runs.Along (validateStep ctx) (fun state call => ¬ Emptied ctx state call) state calls) ∧
    (state'.2.numSuccess = state.2.numSuccess + countAlong ctx (Accepted ctx) state calls ↔
      Runs.Along (validateStep ctx) (fun state call => ¬ Emptied ctx state call) state calls) := by
  constructor
  · have hcondition : Reflects ctx = fun state call => ¬ Emptied ctx state call := by
      funext state call
      exact propext reflects_iff
    rw [hcondition]
  · have htotal := numSuccess_run ctx calls state state' hrun
    rw [along_not_emptied_iff]
    omega

/-! ### An authentic message without user data -/

namespace Statistics

/-- What the peer of a session sends: the message it formats for a clear text. -/
def message (cleartext : Bytes) : SessionData :=
  ⟨⟨1, 10000⟩, cleartext, Sodium.Concrete.tag (List.replicate 32 7) (Sodium.gcmNonce 1)
    (SessionMode.metadataBytes ⟨1, 10000⟩) cleartext⟩

def start : Counted := (Formatting.session .aes256Gcm 1, SessionStatistics.zero)

/-- One message with user data, and the same again. -/
theorem statistics_reflect_replay :
    Runs.Along (validateStep (Formatting.ctx 4092)) (Reflects (Formatting.ctx 4092)) start
        [.data (message [5]) 0, .data (message [5]) 0] ∧
      countAlong (Formatting.ctx 4092) (Accepted (Formatting.ctx 4092)) start
        [.data (message [5]) 0, .data (message [5]) 0] = 1 :=
  ⟨(statistics_reflect_iff (Formatting.ctx 4092) start _
    [.data (message [5]) 0, .data (message [5]) 0] rfl).1.mpr (by decide +kernel),
    by decide +kernel⟩

/-- A message without user data is refused, and counted as a success and as a failure. -/
theorem refused_counted_as_success :
    (validate (Formatting.ctx 4092) start (.data (message []) 0)).1 = .error .emptyUserData ∧
    (validate (Formatting.ctx 4092) start (.data (message []) 0)).2.2.numSuccess = 1 ∧
    (validate (Formatting.ctx 4092) start (.data (message []) 0)).2.2.failures = 1 := by
  decide +kernel

end Statistics

end Session

end Ssp21
