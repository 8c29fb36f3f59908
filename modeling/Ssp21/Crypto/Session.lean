import Ssp21.Crypto.Backend
import Ssp21.Link.LinkFrame

/-!
# Sessions

A `Session` holds the keys, limits and nonces of one direction pair.  It formats
user data into framed `SessionData` messages and validates received ones.

* Times are nanoseconds of a clock that only moves forward; limits on the wire
  are milliseconds.
* Both sessions of a layer share one frame writer, one configuration and one set
  of counters.  The first two are `SessionContext`; the counters are passed
  through.
* The algorithms a session was configured with are named by the enumerations
  they were chosen from.

For each operation there is one lemma that says what a success means
(`validate_ok`, `format_ok`) and one that says what a failure leaves.
-/

namespace Ssp21

open Wire

namespace SessionData

/-- The bytes of a message as sent. -/
def wire (message : SessionData) : Bytes :=
  encMessage .sessionData SessionData.fieldsSpec message

theorem read_wire {raw : Bytes} {message : SessionData} (hread : read raw = .ok message) :
    SessionData.fieldsSpec.fits message ∧ raw = message.wire :=
  readMessage_sound SessionData.fieldsSpec hread

theorem write_wire {message : SessionData} {room : Nat} {bytes : Bytes}
    (hwrite : message.write room = .ok bytes) (hroom : room < 2 ^ 32) :
    SessionData.fieldsSpec.fits message ∧ bytes = message.wire := by
  obtain ⟨hfits, hbytes, -⟩ := writeMessage_ok SessionData.fieldsSpec hwrite hroom
  exact ⟨hfits, hbytes⟩

theorem write_eq {message : SessionData} (hfits : SessionData.fieldsSpec.fits message)
    (room : Nat) :
    message.write room =
      if message.wire.length ≤ room then .ok message.wire else .error .insufficientSpace :=
  ((enumFieldSpec Function.spec).pair SessionData.fieldsSpec).write_eq (.sessionData, message) room
    ⟨trivial, hfits⟩

/-- The function byte, the metadata, and the two byte strings behind their lengths. -/
theorem wire_length {message : SessionData} (hfits : SessionData.fieldsSpec.fits message) :
    message.wire.length =
      7 + (VLength.size (VLength.counter.ofNat message.userData.length) + message.userData.length) +
        (VLength.size (VLength.counter.ofNat message.authTag.length) + message.authTag.length) := by
  have hsize : 2 + 4 + (VLength.size (VLength.counter.ofNat message.userData.length) +
      message.userData.length + (VLength.size (VLength.counter.ofNat message.authTag.length) +
      message.authTag.length)) = (SessionData.fieldsSpec.enc message).length :=
    SessionData.fieldsSpec.size_eq message hfits
  simp only [wire, encMessage, List.length_cons, ← hsize]
  omega

end SessionData

/-- Nanoseconds. -/
abbrev Time := Int

abbrev Duration := Int

/-- One millisecond. -/
def millisecond : Duration := 1000000

def milliseconds (count : UInt32) : Duration := count.toNat * millisecond

structure SessionKeys where
  rxKey : Bytes
  txKey : Bytes
  deriving DecidableEq, Repr

namespace SessionKeys

/-- Both keys have been set to 32 bytes. -/
def valid (keys : SessionKeys) : Bool :=
  keys.rxKey.length == Consts.symmetricKeyLength && keys.txKey.length == Consts.symmetricKeyLength

def zero : SessionKeys := ⟨[], []⟩

end SessionKeys

/-- `Algorithms::Session`: the nonce check and the session mode. -/
structure SessionAlgorithms where
  verifyNonce : SessionNonceMode
  sessionMode : SessionCryptoMode
  deriving DecidableEq, Repr

namespace SessionNonceMode

def verifyStrictIncrement (lastNonce newNonce : UInt16) : Bool :=
  if lastNonce = 65535 then false else newNonce = lastNonce + 1

def verifyGreaterThanLast (lastNonce newNonce : UInt16) : Bool :=
  newNonce > lastNonce

def equalToZero (lastNonce newNonce : UInt16) : Bool :=
  lastNonce = 0 ∧ newNonce = 0

theorem equalToZero_iff {lastNonce newNonce : UInt16} :
    equalToZero lastNonce newNonce = true ↔ lastNonce = 0 ∧ newNonce = 0 := by
  simp [equalToZero]

def verify : SessionNonceMode → UInt16 → UInt16 → Bool
  | .strictIncrement => verifyStrictIncrement
  | .greaterThanLastRx => verifyGreaterThanLast

end SessionNonceMode

/-- `SessionStatistics`.  The counters of the source are `uint64_t`; here they do not wrap. -/
structure SessionStatistics where
  numInit : Nat
  numUserDataWithoutSession : Nat
  numAuthFail : Nat
  numTtlExpiration : Nat
  numNonceFail : Nat
  numSuccess : Nat
  deriving DecidableEq, Repr

def SessionStatistics.zero : SessionStatistics := ⟨0, 0, 0, 0, 0, 0⟩

/-- `Session::Param`. -/
structure SessionParam where
  sessionStart : Time
  maxNonce : UInt16
  maxSessionTime : Duration
  deriving DecidableEq, Repr

structure Session where
  valid : Bool
  rxNonce : UInt16
  txNonce : UInt16
  keys : SessionKeys
  algorithms : SessionAlgorithms
  parameters : SessionParam
  deriving DecidableEq, Repr

/-- What a session shares with its layer. -/
structure SessionContext where
  backend : CryptoBackend
  frameWriter : FrameWriter
  ttlPadMs : UInt32
  payloadBufferLength : Nat

/-- An error code: of the cryptographic layer or of message formatting. -/
inductive ErrorCode
  | crypto (error : CryptoError)
  | format (error : FormatError)
  deriving DecidableEq, Repr

namespace Session

/-- A session as constructed: not valid, with the default parameters. -/
def create : Session where
  valid := false
  rxNonce := 0
  txNonce := 0
  keys := SessionKeys.zero
  algorithms := ⟨.strictIncrement, .hmacSha256_16⟩
  parameters := ⟨0, 32768, milliseconds 3600000⟩

/-- `Session::initialize`. -/
def initializeWith (session : Session) (stats : SessionStatistics) (algorithms : SessionAlgorithms)
    (parameters : SessionParam) (keys : SessionKeys) : Bool × Session × SessionStatistics :=
  if !keys.valid then (false, session, stats)
  else
    (true, { valid := true, rxNonce := 0, txNonce := 0, keys := keys, algorithms := algorithms,
             parameters := parameters },
      { stats with numInit := stats.numInit + 1 })

def reset (session : Session) : Session :=
  { session with valid := false, keys := SessionKeys.zero }

/-- `validate_session_data_with_nonce_func`. -/
def validateWithNonceFunc (ctx : SessionContext) (verifyNonce : UInt16 → UInt16 → Bool)
    (session : Session) (stats : SessionStatistics) (msg : SessionData) (now : Time) :
    Except CryptoError Bytes × Session × SessionStatistics :=
  if !session.valid then
    (.error .noValidSession, session,
      { stats with numUserDataWithoutSession := stats.numUserDataWithoutSession + 1 })
  else
    match SessionMode.read ctx.backend session.algorithms.sessionMode session.keys.rxKey msg
        ctx.payloadBufferLength with
    | .error e => (.error e, session, { stats with numAuthFail := stats.numAuthFail + 1 })
    | .ok payload =>
        if now < session.parameters.sessionStart then (.error .clockRollback, session, stats)
        else
          let currentSessionTime := now - session.parameters.sessionStart
          if currentSessionTime > session.parameters.maxSessionTime then
            (.error .maxSessionTimeExceeded, session, stats)
          else if currentSessionTime > milliseconds msg.metadata.validUntilMs then
            (.error .expiredTtl, session,
              { stats with numTtlExpiration := stats.numTtlExpiration + 1 })
          else if msg.metadata.nonce > session.parameters.maxNonce then
            (.error .maxNonceExceeded, session,
              { stats with numNonceFail := stats.numNonceFail + 1 })
          else if !verifyNonce session.rxNonce msg.metadata.nonce then
            (.error .nonceReplay, session, { stats with numNonceFail := stats.numNonceFail + 1 })
          else
            (.ok payload, { session with rxNonce := msg.metadata.nonce },
              { stats with numSuccess := stats.numSuccess + 1 })

def validateSessionAuth (ctx : SessionContext) (session : Session) (stats : SessionStatistics)
    (msg : SessionData) (now : Time) : Except CryptoError Bytes × Session × SessionStatistics :=
  validateWithNonceFunc ctx SessionNonceMode.equalToZero session stats msg now

/-- A message without user data is refused only after its nonce was taken over. -/
def validateSessionData (ctx : SessionContext) (session : Session) (stats : SessionStatistics)
    (msg : SessionData) (now : Time) : Except CryptoError Bytes × Session × SessionStatistics :=
  match validateWithNonceFunc ctx session.algorithms.verifyNonce.verify session stats msg now with
  | (.error e, session, stats) => (.error e, session, stats)
  | (.ok payload, session, stats) =>
      if payload = [] then
        (.error .emptyUserData, session, { stats with numAuthFail := stats.numAuthFail + 1 })
      else (.ok payload, session, stats)

/-- `calc_max_crypto_payload_length`: the size of the encrypt buffer. -/
def calcMaxCryptoPayloadLength (maxLinkPayloadSize : Nat) : Nat :=
  if maxLinkPayloadSize > 9 then maxLinkPayloadSize - 9 else 0

/-- A formatted message: the message, the user data it carries and its frame. -/
structure Formatted where
  message : SessionData
  userData : Bytes
  frame : Bytes
  deriving DecidableEq, Repr

/-- What a formatting attempt leaves: the session, the clear text that is still
unsent, and the frame or the error. -/
structure FormatOutcome where
  session : Session
  remainder : Bytes
  result : Except ErrorCode Formatted

/-- The metadata of a message sent at `now`. -/
def txMetadata (ctx : SessionContext) (session : Session) (now : Time) : AuthMetadata where
  nonce := session.txNonce
  validUntilMs := UInt32.ofNat
    ((now - session.parameters.sessionStart + milliseconds ctx.ttlPadMs) / millisecond).toNat

/-- `format_session_data_no_nonce_check`. -/
def formatNoNonceCheck (ctx : SessionContext) (session : Session) (now : Time)
    (cleartext : Bytes) : FormatOutcome :=
  let fail (e : CryptoError) : FormatOutcome := ⟨session, cleartext, .error (.crypto e)⟩
  if !session.valid then fail .noValidSession
  else if now < session.parameters.sessionStart then fail .clockRollback
  else
    let sessionTime := now - session.parameters.sessionStart
    if sessionTime > session.parameters.maxSessionTime then fail .maxSessionTimeExceeded
    else
      let remainder := session.parameters.maxSessionTime - sessionTime
      if remainder < milliseconds ctx.ttlPadMs then fail .maxSessionTimeExceeded
      else
        match SessionMode.write ctx.backend session.algorithms.sessionMode session.keys.txKey
            (txMetadata ctx session now) cleartext
            (calcMaxCryptoPayloadLength ctx.frameWriter.maxPayloadSize.toNat) with
        | .error e => fail e
        | .ok (message, rest) =>
            match ctx.frameWriter.write message.write with
            -- the clear text has already been advanced at this point
            | .error e => ⟨session, rest, .error (.format e)⟩
            | .ok result =>
                ⟨{ session with txNonce := session.txNonce + 1 }, rest,
                  .ok ⟨message, cleartext.take (cleartext.length - rest.length), result.frame⟩⟩

def formatSessionAuth (ctx : SessionContext) (session : Session) (now : Time)
    (cleartext : Bytes) : FormatOutcome :=
  if session.txNonce ≠ 0 then ⟨session, cleartext, .error (.crypto .maxNonceExceeded)⟩
  else formatNoNonceCheck ctx session now cleartext

def formatSessionData (ctx : SessionContext) (session : Session) (now : Time)
    (cleartext : Bytes) : FormatOutcome :=
  if session.txNonce ≥ session.parameters.maxNonce then
    ⟨session, cleartext, .error (.crypto .maxNonceExceeded)⟩
  else formatNoNonceCheck ctx session now cleartext

/-! ## What the operations do -/

theorem initializeWith_eq (session : Session) (stats : SessionStatistics)
    (algorithms : SessionAlgorithms) (parameters : SessionParam) (keys : SessionKeys)
    (hkeys : keys.valid = true) :
    session.initializeWith stats algorithms parameters keys =
      (true, ⟨true, 0, 0, keys, algorithms, parameters⟩,
        { stats with numInit := stats.numInit + 1 }) := by
  simp [initializeWith, hkeys]

theorem initializeWith_invalid (session : Session) (stats : SessionStatistics)
    (algorithms : SessionAlgorithms) (parameters : SessionParam) {keys : SessionKeys}
    (hkeys : keys.valid = false) :
    session.initializeWith stats algorithms parameters keys = (false, session, stats) := by
  simp [initializeWith, hkeys]

/-- What it takes for a message to pass all checks of a session. -/
structure Accepts (ctx : SessionContext) (verifyNonce : UInt16 → UInt16 → Bool) (session : Session)
    (msg : SessionData) (now : Time) (payload : Bytes) : Prop where
  valid : session.valid = true
  authentic : SessionMode.read ctx.backend session.algorithms.sessionMode session.keys.rxKey msg
    ctx.payloadBufferLength = .ok payload
  started : session.parameters.sessionStart ≤ now
  inSession : now - session.parameters.sessionStart ≤ session.parameters.maxSessionTime
  inTtl : now - session.parameters.sessionStart ≤ milliseconds msg.metadata.validUntilMs
  belowMax : msg.metadata.nonce ≤ session.parameters.maxNonce
  nonce : verifyNonce session.rxNonce msg.metadata.nonce = true

instance (ctx : SessionContext) (verifyNonce : UInt16 → UInt16 → Bool) (session : Session)
    (msg : SessionData) (now : Time) (payload : Bytes) :
    Decidable (Accepts ctx verifyNonce session msg now payload) :=
  decidable_of_iff (session.valid = true ∧
      SessionMode.read ctx.backend session.algorithms.sessionMode session.keys.rxKey msg
        ctx.payloadBufferLength = .ok payload ∧
      session.parameters.sessionStart ≤ now ∧
      now - session.parameters.sessionStart ≤ session.parameters.maxSessionTime ∧
      now - session.parameters.sessionStart ≤ milliseconds msg.metadata.validUntilMs ∧
      msg.metadata.nonce ≤ session.parameters.maxNonce ∧
      verifyNonce session.rxNonce msg.metadata.nonce = true)
    ⟨fun ⟨h1, h2, h3, h4, h5, h6, h7⟩ => ⟨h1, h2, h3, h4, h5, h6, h7⟩,
      fun ⟨h1, h2, h3, h4, h5, h6, h7⟩ => ⟨h1, h2, h3, h4, h5, h6, h7⟩⟩

/-- A validation either passes every check and moves the receive nonce, or leaves
the session as it was. -/
theorem validateWithNonceFunc_cases (ctx : SessionContext)
    (verifyNonce : UInt16 → UInt16 → Bool) (session : Session) (stats : SessionStatistics)
    (msg : SessionData) (now : Time) :
    (∃ payload stats', Accepts ctx verifyNonce session msg now payload ∧
      validateWithNonceFunc ctx verifyNonce session stats msg now =
        (.ok payload, { session with rxNonce := msg.metadata.nonce }, stats')) ∨
    (∃ e stats', validateWithNonceFunc ctx verifyNonce session stats msg now =
      (.error e, session, stats')) := by
  cases hvalid : session.valid with
  | false =>
      simp only [validateWithNonceFunc, hvalid, Bool.not_false, if_true]
      exact Or.inr ⟨_, _, rfl⟩
  | true =>
      cases hread : SessionMode.read ctx.backend session.algorithms.sessionMode
        session.keys.rxKey msg ctx.payloadBufferLength with
      | error e =>
          simp only [validateWithNonceFunc, hvalid, hread, Bool.not_true, Bool.false_eq_true,
            if_false]
          exact Or.inr ⟨_, _, rfl⟩
      | ok payload =>
          simp only [validateWithNonceFunc, hvalid, hread, Bool.not_true, Bool.false_eq_true,
            if_false]
          split_ifs with hstart htime httl hmax hnonce
          · exact Or.inr ⟨_, _, rfl⟩
          · exact Or.inr ⟨_, _, rfl⟩
          · exact Or.inr ⟨_, _, rfl⟩
          · exact Or.inr ⟨_, _, rfl⟩
          · exact Or.inr ⟨_, _, rfl⟩
          · exact Or.inl ⟨payload, _, ⟨hvalid, hread, not_lt.mp hstart, not_lt.mp htime,
              not_lt.mp httl, by simpa using hmax, by simpa using hnonce⟩, rfl⟩

theorem validateWithNonceFunc_of_accepts {ctx : SessionContext}
    {verifyNonce : UInt16 → UInt16 → Bool} {session : Session} {msg : SessionData} {now : Time}
    {payload : Bytes} (haccepts : Accepts ctx verifyNonce session msg now payload)
    (stats : SessionStatistics) :
    validateWithNonceFunc ctx verifyNonce session stats msg now =
      (.ok payload, { session with rxNonce := msg.metadata.nonce },
        { stats with numSuccess := stats.numSuccess + 1 }) := by
  have hstart := not_lt.mpr haccepts.started
  have htime := not_lt.mpr haccepts.inSession
  have httl := not_lt.mpr haccepts.inTtl
  have hmax := UInt16.not_lt.mpr haccepts.belowMax
  simp only [validateWithNonceFunc, haccepts.valid, haccepts.authentic, haccepts.nonce,
    Bool.not_true, Bool.false_eq_true, if_false, hstart, gt_iff_lt, htime, httl, hmax]

/-- A refusal is not counted as a success. -/
theorem validateWithNonceFunc_of_error {ctx : SessionContext}
    {verifyNonce : UInt16 → UInt16 → Bool} {session session' : Session}
    {stats stats' : SessionStatistics} {msg : SessionData} {now : Time} {e : CryptoError}
    (herror : validateWithNonceFunc ctx verifyNonce session stats msg now =
      (.error e, session', stats')) :
    stats'.numSuccess = stats.numSuccess := by
  cases hvalid : session.valid with
  | false =>
      simp only [validateWithNonceFunc, hvalid, Bool.not_false, if_true] at herror
      cases herror
      rfl
  | true =>
      cases hread : SessionMode.read ctx.backend session.algorithms.sessionMode
        session.keys.rxKey msg ctx.payloadBufferLength with
      | error e =>
          simp only [validateWithNonceFunc, hvalid, hread, Bool.not_true, Bool.false_eq_true,
            if_false] at herror
          cases herror
          rfl
      | ok payload =>
          simp only [validateWithNonceFunc, hvalid, hread, Bool.not_true, Bool.false_eq_true,
            if_false] at herror
          split_ifs at herror
          all_goals cases herror
          all_goals rfl

theorem validateSessionAuth_cases (ctx : SessionContext) (session : Session)
    (stats : SessionStatistics) (msg : SessionData) (now : Time) :
    (∃ payload stats', Accepts ctx SessionNonceMode.equalToZero session msg now payload ∧
      validateSessionAuth ctx session stats msg now =
        (.ok payload, { session with rxNonce := msg.metadata.nonce }, stats')) ∨
    (∃ e stats', validateSessionAuth ctx session stats msg now = (.error e, session, stats')) :=
  validateWithNonceFunc_cases ctx _ session stats msg now

/-- Besides acceptance and plain refusal there is a third case: an authentic
message without user data is refused after it has moved the nonce. -/
theorem validateSessionData_cases (ctx : SessionContext) (session : Session)
    (stats : SessionStatistics) (msg : SessionData) (now : Time) :
    (∃ payload stats', payload ≠ [] ∧
      Accepts ctx session.algorithms.verifyNonce.verify session msg now payload ∧
      validateSessionData ctx session stats msg now =
        (.ok payload, { session with rxNonce := msg.metadata.nonce }, stats')) ∨
    (∃ stats', Accepts ctx session.algorithms.verifyNonce.verify session msg now [] ∧
      validateSessionData ctx session stats msg now =
        (.error .emptyUserData, { session with rxNonce := msg.metadata.nonce }, stats')) ∨
    (∃ e stats', validateSessionData ctx session stats msg now = (.error e, session, stats')) := by
  unfold validateSessionData
  rcases validateWithNonceFunc_cases ctx session.algorithms.verifyNonce.verify session stats msg
    now with ⟨payload, stats', haccept, heq⟩ | ⟨e, stats', heq⟩
  · rw [heq]
    by_cases hempty : payload = []
    · subst hempty
      exact Or.inr (Or.inl ⟨_, haccept, rfl⟩)
    · simp only [hempty, if_false]
      exact Or.inl ⟨payload, stats', hempty, haccept, rfl⟩
  · rw [heq]
    exact Or.inr (Or.inr ⟨e, stats', rfl⟩)

/-- What a successful formatting of `cleartext` says. -/
structure Formats (ctx : SessionContext) (session : Session) (now : Time) (cleartext : Bytes)
    (rest : Bytes) (formatted : Formatted) : Prop where
  valid : session.valid = true
  started : session.parameters.sessionStart ≤ now
  inSession : milliseconds ctx.ttlPadMs ≤
    session.parameters.maxSessionTime - (now - session.parameters.sessionStart)
  writes : SessionMode.Writes ctx.backend session.algorithms.sessionMode session.keys.txKey
    (txMetadata ctx session now) cleartext formatted.message rest formatted.userData
  framed : ∃ written, formatted.message.write ctx.frameWriter.room = .ok written ∧
    formatted.frame = ctx.frameWriter.frame written

/-- Formatting either succeeds and counts the transmit nonce up, or leaves the
session as it was. -/
theorem formatNoNonceCheck_cases (ctx : SessionContext) (session : Session) (now : Time)
    (cleartext : Bytes) :
    (∃ rest formatted, Formats ctx session now cleartext rest formatted ∧
      formatNoNonceCheck ctx session now cleartext =
        ⟨{ session with txNonce := session.txNonce + 1 }, rest, .ok formatted⟩) ∨
    (∃ rest e, formatNoNonceCheck ctx session now cleartext = ⟨session, rest, .error e⟩) := by
  simp only [formatNoNonceCheck]
  split_ifs with hvalid hstart htime hpad
  · exact Or.inr ⟨_, _, rfl⟩
  · exact Or.inr ⟨_, _, rfl⟩
  · exact Or.inr ⟨_, _, rfl⟩
  · exact Or.inr ⟨_, _, rfl⟩
  · split
    · exact Or.inr ⟨_, _, rfl⟩
    · rename_i message rest hwrite
      split
      · exact Or.inr ⟨_, _, rfl⟩
      · rename_i result hframe
        obtain ⟨hwritten, hframed⟩ := FrameWriter.write_ok hframe
        have hformats : Formats ctx session now cleartext rest
            ⟨message, cleartext.take (cleartext.length - rest.length), result.frame⟩ :=
          { valid := by simpa using hvalid
            started := not_lt.mp hstart
            inSession := not_lt.mp hpad
            writes := SessionMode.write_ok hwrite
            framed := ⟨result.written, hwritten, hframed⟩ }
        exact Or.inl ⟨rest, _, hformats, rfl⟩

theorem formatSessionData_cases (ctx : SessionContext) (session : Session) (now : Time)
    (cleartext : Bytes) :
    (∃ rest formatted, session.txNonce < session.parameters.maxNonce ∧
      Formats ctx session now cleartext rest formatted ∧
      formatSessionData ctx session now cleartext =
        ⟨{ session with txNonce := session.txNonce + 1 }, rest, .ok formatted⟩) ∨
    (∃ rest e, formatSessionData ctx session now cleartext = ⟨session, rest, .error e⟩) := by
  simp only [formatSessionData]
  split_ifs with hnonce
  · exact Or.inr ⟨_, _, rfl⟩
  · rcases formatNoNonceCheck_cases ctx session now cleartext with
      ⟨rest, formatted, hformats, heq⟩ | hfail
    · exact Or.inl ⟨rest, formatted, by simpa using hnonce, hformats, heq⟩
    · exact Or.inr hfail

theorem formatSessionData_formats {ctx : SessionContext} {session : Session} {now : Time}
    {cleartext : Bytes} {formatted : Formatted}
    (hresult : (formatSessionData ctx session now cleartext).result = .ok formatted) :
    Formats ctx session now cleartext (formatSessionData ctx session now cleartext).remainder
      formatted := by
  rcases formatSessionData_cases ctx session now cleartext with
    ⟨rest, formatted', -, hformats, heq⟩ | ⟨rest, e, heq⟩
  · rw [heq] at hresult ⊢
    cases hresult
    exact hformats
  · rw [heq] at hresult
    cases hresult

theorem formatSessionAuth_cases (ctx : SessionContext) (session : Session) (now : Time)
    (cleartext : Bytes) :
    (∃ rest formatted, session.txNonce = 0 ∧ Formats ctx session now cleartext rest formatted ∧
      formatSessionAuth ctx session now cleartext =
        ⟨{ session with txNonce := session.txNonce + 1 }, rest, .ok formatted⟩) ∨
    (∃ rest e, formatSessionAuth ctx session now cleartext = ⟨session, rest, .error e⟩) := by
  simp only [formatSessionAuth]
  split_ifs with hnonce
  · exact Or.inr ⟨_, _, rfl⟩
  · rcases formatNoNonceCheck_cases ctx session now cleartext with
      ⟨rest, formatted, hformats, heq⟩ | hfail
    · exact Or.inl ⟨rest, formatted, by simpa using hnonce, hformats, heq⟩
    · exact Or.inr hfail

/-- Formatting does not look at the receive nonce. -/
theorem formatSessionAuth_rxNonce (session : Session) (ctx : SessionContext) (now : Time)
    (cleartext : Bytes) (nonce : UInt16) :
    (formatSessionAuth ctx { session with rxNonce := nonce } now cleartext).result =
      (formatSessionAuth ctx session now cleartext).result := by
  simp only [formatSessionAuth, formatNoNonceCheck, txMetadata]
  split_ifs
  all_goals try rfl
  split
  · rfl
  · split <;> rfl

/-- The user data can be sealed, and the message framed. -/
def writable (ctx : SessionContext) (session : Session) (now : Time) (cleartext : Bytes) : Bool :=
  match SessionMode.write ctx.backend session.algorithms.sessionMode session.keys.txKey
      (txMetadata ctx session now) cleartext
      (calcMaxCryptoPayloadLength ctx.frameWriter.maxPayloadSize.toNat) with
  | .error _ => false
  | .ok (message, _) => (ctx.frameWriter.write message.write).isOk

/-- What the checks of `format_session_data_no_nonce_check` ask of a valid session: the
clock is not behind its start, the padded time to live ends within the session, and
the user data can be sealed and framed. -/
structure CanFormat (ctx : SessionContext) (session : Session) (now : Time) (cleartext : Bytes) :
    Prop where
  started : session.parameters.sessionStart ≤ now
  fits : now - session.parameters.sessionStart + milliseconds ctx.ttlPadMs ≤
    session.parameters.maxSessionTime
  writable : session.writable ctx now cleartext = true

instance (ctx : SessionContext) (session : Session) (now : Time) (cleartext : Bytes) :
    Decidable (CanFormat ctx session now cleartext) :=
  decidable_of_iff (session.parameters.sessionStart ≤ now ∧
      now - session.parameters.sessionStart + milliseconds ctx.ttlPadMs ≤
        session.parameters.maxSessionTime ∧ session.writable ctx now cleartext = true)
    ⟨fun ⟨hstarted, hfits, hwritable⟩ => ⟨hstarted, hfits, hwritable⟩,
      fun ⟨hstarted, hfits, hwritable⟩ => ⟨hstarted, hfits, hwritable⟩⟩

theorem formatNoNonceCheck_ok {ctx : SessionContext} {session : Session} {now : Time}
    {cleartext : Bytes} (hvalid : session.valid = true)
    (hcan : session.CanFormat ctx now cleartext) :
    ∃ formatted, (formatNoNonceCheck ctx session now cleartext).result = .ok formatted := by
  obtain ⟨hstarted, hfits, hwritable⟩ := hcan
  have hpad : 0 ≤ milliseconds ctx.ttlPadMs :=
    Int.mul_nonneg (Int.natCast_nonneg _) (by decide)
  have htime : ¬ now - session.parameters.sessionStart > session.parameters.maxSessionTime :=
    not_lt.mpr ((Int.le_add_of_nonneg_right hpad).trans hfits)
  have hrest : ¬ session.parameters.maxSessionTime - (now - session.parameters.sessionStart) <
      milliseconds ctx.ttlPadMs :=
    not_lt.mpr (Int.le_sub_left_of_add_le hfits)
  simp only [formatNoNonceCheck, hvalid, Bool.not_true, Bool.false_eq_true, if_false,
    if_neg (not_lt.mpr hstarted), if_neg htime, if_neg hrest]
  cases hwrite : SessionMode.write ctx.backend session.algorithms.sessionMode session.keys.txKey
    (txMetadata ctx session now) cleartext
    (calcMaxCryptoPayloadLength ctx.frameWriter.maxPayloadSize.toNat) with
  | error e => simp [writable, hwrite] at hwritable
  | ok result =>
      simp only [writable, hwrite] at hwritable
      cases hframe : ctx.frameWriter.write result.1.write with
      | error e =>
          rw [hframe] at hwritable
          cases hwritable
      | ok written =>
          simp only [hframe]
          exact ⟨_, rfl⟩

theorem formatSessionAuth_ok {ctx : SessionContext} {session : Session} {now : Time}
    {cleartext : Bytes} (hvalid : session.valid = true) (hnonce : session.txNonce = 0)
    (hcan : session.CanFormat ctx now cleartext) :
    ∃ formatted, (formatSessionAuth ctx session now cleartext).result = .ok formatted := by
  simp only [formatSessionAuth, hnonce, ne_eq, not_true_eq_false, if_false]
  exact formatNoNonceCheck_ok hvalid hcan

theorem formatSessionData_ok {ctx : SessionContext} {session : Session} {now : Time}
    {cleartext : Bytes} (hvalid : session.valid = true)
    (hnonce : session.txNonce < session.parameters.maxNonce)
    (hcan : session.CanFormat ctx now cleartext) :
    ∃ formatted, (formatSessionData ctx session now cleartext).result = .ok formatted := by
  have hbelow : ¬ session.txNonce ≥ session.parameters.maxNonce := by simpa using hnonce
  simp only [formatSessionData, if_neg hbelow]
  exact formatNoNonceCheck_ok hvalid hcan

end Session

end Ssp21
