import Ssp21.Crypto.Session

/-!
# Formatting session messages

What `format_session_auth` and `format_session_data` promise about the clear text, the
nonce, the size of the message and its time to live.

* `Session.payload_fits_iff`: how much user data goes into a message is computed from a minimal
  message size that counts neither the tag nor wide length prefixes.  Whether the message fits is
  therefore a matter of luck below 1051 bytes.
* `Session.allOrNothing_iff`: a failure leaves the clear text alone, unless it is the frame
  writer that fails.  The clear text has been advanced by then.
* `Session.ttl_exact`: the time to live is computed without loss.
-/

namespace Ssp21

open Wire

/-! ## Sessions to try things on -/

namespace Formatting

/-- A layer without link frames. -/
def ctx (maxPayloadSize : UInt16) : SessionContext :=
  ⟨Sodium.sample.backend [], .raw maxPayloadSize, 10000, 4092⟩

def session (mode : SessionCryptoMode) (txNonce : UInt16) : Session where
  valid := true
  rxNonce := 0
  txNonce := txNonce
  keys := ⟨List.replicate 32 7, List.replicate 32 9⟩
  algorithms := ⟨.strictIncrement, mode⟩
  parameters := ⟨0, 32768, milliseconds 3600000⟩

end Formatting

namespace Session

/-! ## What a failure leaves -/

/-- The slice that is returned; it is empty on every error. -/
def FormatOutcome.frame (outcome : FormatOutcome) : Bytes :=
  match outcome.result with
  | .ok formatted => formatted.frame
  | .error _ => []

/-- A failed attempt.  Before the message exists nothing has changed; when the frame writer
refuses the message, the user data in it is gone. -/
inductive Refuses (ctx : SessionContext) (session : Session) (now : Time) (cleartext : Bytes) :
    FormatOutcome → Prop
  | early (e : CryptoError) :
      Refuses ctx session now cleartext ⟨session, cleartext, .error (.crypto e)⟩
  | late (e : FormatError) {message : SessionData} {rest : Bytes}
      (hwrite : SessionMode.write ctx.backend session.algorithms.sessionMode session.keys.txKey
        (txMetadata ctx session now) cleartext
        (calcMaxCryptoPayloadLength ctx.frameWriter.maxPayloadSize.toNat) = .ok (message, rest))
      (hframe : ctx.frameWriter.write message.write = .error e) :
      Refuses ctx session now cleartext ⟨session, rest, .error (.format e)⟩

/-- A finished attempt, with its nonce. -/
def Settles (ctx : SessionContext) (session : Session) (now : Time) (cleartext : Bytes)
    (outcome : FormatOutcome) : Prop :=
  (∃ rest formatted, Formats ctx session now cleartext rest formatted ∧ session.txNonce < 65535 ∧
    outcome = ⟨{ session with txNonce := session.txNonce + 1 }, rest, .ok formatted⟩) ∨
  Refuses ctx session now cleartext outcome

section

variable {ctx : SessionContext} {session : Session} {now : Time} {cleartext : Bytes}

theorem formatNoNonceCheck_refuses {e : ErrorCode}
    (hresult : (formatNoNonceCheck ctx session now cleartext).result = .error e) :
    Refuses ctx session now cleartext (formatNoNonceCheck ctx session now cleartext) := by
  unfold formatNoNonceCheck at hresult ⊢
  simp only at hresult ⊢
  split_ifs at hresult ⊢ with hvalid hstart htime hpad
  · exact .early _
  · exact .early _
  · exact .early _
  · exact .early _
  · cases hwrite : SessionMode.write ctx.backend session.algorithms.sessionMode
      session.keys.txKey (txMetadata ctx session now) cleartext
      (calcMaxCryptoPayloadLength ctx.frameWriter.maxPayloadSize.toNat) with
    | error e => exact .early e
    | ok sent =>
        cases hframe : ctx.frameWriter.write sent.1.write with
        | error e =>
            simp only [hframe]
            exact .late e hwrite hframe
        | ok written =>
            simp only [hwrite, hframe] at hresult
            cases hresult

theorem formatNoNonceCheck_settles (hnonce : session.txNonce < 65535) :
    Settles ctx session now cleartext (formatNoNonceCheck ctx session now cleartext) := by
  rcases formatNoNonceCheck_cases ctx session now cleartext with
    ⟨rest, formatted, hformats, heq⟩ | ⟨rest, e, heq⟩
  · exact .inl ⟨rest, formatted, hformats, hnonce, heq⟩
  · exact .inr (formatNoNonceCheck_refuses (e := e) (by rw [heq]))

theorem formatSessionData_settles (ctx : SessionContext) (session : Session) (now : Time)
    (cleartext : Bytes) :
    Settles ctx session now cleartext (formatSessionData ctx session now cleartext) := by
  rw [formatSessionData]
  split_ifs with hnonce
  · exact .inr (.early _)
  · refine formatNoNonceCheck_settles ?_
    have hmax := session.parameters.maxNonce.toNat_lt
    simp only [ge_iff_le, UInt16.le_iff_toNat_le, UInt16.lt_iff_toNat_lt] at hnonce ⊢
    change _ < 65535
    omega

theorem formatSessionAuth_settles (ctx : SessionContext) (session : Session) (now : Time)
    (cleartext : Bytes) :
    Settles ctx session now cleartext (formatSessionAuth ctx session now cleartext) := by
  rw [formatSessionAuth]
  split_ifs with hnonce
  · exact .inr (.early _)
  · refine formatNoNonceCheck_settles ?_
    rw [not_not.mp hnonce]
    decide

/-- An error leaves the clear text and the nonce alone and returns no frame; a success advances
the clear text by what the message carries, and the nonce by one. -/
structure AllOrNothing (session : Session) (cleartext : Bytes) (outcome : FormatOutcome) :
    Prop where
  error : ∀ e, outcome.result = .error e →
    outcome.frame = [] ∧ outcome.remainder = cleartext ∧
      outcome.session.txNonce = session.txNonce
  success : ∀ formatted, outcome.result = .ok formatted →
    outcome.session.txNonce.toNat = session.txNonce.toNat + 1 ∧
      cleartext = formatted.userData ++ outcome.remainder ∧
      formatted.message.userData.length = formatted.userData.length

theorem Settles.all_or_nothing (hkeeps : ctx.backend.KeepsLength) {outcome : FormatOutcome}
    (hsettles : Settles ctx session now cleartext outcome) :
    AllOrNothing session cleartext outcome ↔
      cleartext = [] ∨ ∀ e, outcome.result ≠ .error (.format e) := by
  rcases hsettles with ⟨rest, formatted, hformats, hnonce, rfl⟩ | hrefuses
  · refine ⟨fun _ => .inr (by simp), fun _ => ⟨by simp, ?_⟩⟩
    rintro _ ⟨⟩
    refine ⟨?_, hformats.writes.split, ?_⟩
    · simp only [UInt16.lt_iff_toNat_lt] at hnonce
      have hbelow : session.txNonce.toNat < 65535 := hnonce
      change (session.txNonce.toNat + 1) % 65536 = _
      omega
    · exact SessionMode.encrypt_length hkeeps hformats.writes.encrypted
  · cases hrefuses with
    | early e =>
        refine ⟨fun _ => .inr (by simp), fun _ => ⟨?_, by simp⟩⟩
        intro _ _
        exact ⟨rfl, rfl, rfl⟩
    | late e hwrite hframe =>
        have hwrites := SessionMode.write_ok hwrite
        constructor
        · -- some user data went into the message, so that less is left
          intro hall
          obtain ⟨-, hrest, -⟩ := hall.error _ rfl
          refine .inl (by_contra fun hne => hwrites.progress hne ?_)
          have hlength := congrArg List.length hrest
          rw [hlength, Nat.sub_self, List.take_zero]
        · rintro (rfl | hnone)
          · refine ⟨?_, by simp⟩
            intro _ _
            have hsplit := hwrites.split
            exact ⟨rfl, (List.append_eq_nil_iff.mp hsplit.symm).2, rfl⟩
          · exact absurd rfl (hnone e)

end

/-! ## The size of a message -/

/-- How many bytes the length prefix of `n` bytes takes. -/
def prefixSize (n : Nat) : Nat :=
  if n < 128 then 1 else if n < 256 then 2 else 3

theorem size_counter {n : Nat} (hn : n < 65536) :
    VLength.size (VLength.counter.ofNat n) = prefixSize n := by
  have hnat : (UInt32.ofNat n).toNat = n :=
    UInt32.toNat_ofNat_of_lt' (lt_trans hn (by decide))
  change VLength.size (UInt32.ofNat n) = _
  have hcases := VLength.numValuesBytes_cases (UInt32.ofNat n)
  rw [hnat] at hcases
  simp only [VLength.size, prefixSize]
  rcases hcases with ⟨hwidth, hle⟩ | ⟨hwidth, hlt, hle⟩ | ⟨hwidth, hlt, hle⟩ | ⟨-, hlt, -⟩ |
    ⟨-, hlt, -⟩
  · rw [hwidth, if_pos (by omega)]
    rfl
  · rw [hwidth, if_neg (by omega), if_pos (by omega)]
    rfl
  · rw [hwidth, if_neg (by omega), if_neg (by omega)]
    rfl
  · omega
  · omega

theorem prefixSize_mono {n n' : Nat} (hle : n ≤ n') : prefixSize n ≤ prefixSize n' := by
  unfold prefixSize
  split_ifs <;> omega

/-- The size of a message with `n` bytes of user data and a tag of sixteen bytes. -/
def sealedSize (n : Nat) : Nat := 24 + prefixSize n + n

theorem sealedSize_mono {n n' : Nat} (hle : n ≤ n') : sealedSize n ≤ sealedSize n' := by
  have hprefix := prefixSize_mono hle
  simp only [sealedSize]
  omega

theorem lt_sealedSize (n : Nat) : n + 24 < sealedSize n := by
  have hprefix : 1 ≤ prefixSize n := prefixSize_mono (Nat.zero_le n)
  simp only [sealedSize]
  omega

/-- A message is never larger than this. -/
def maxSealedSize : Nat := sealedSize SessionMode.maxChunk

/-- Messages for `n` bytes of user data fit into `maxPayloadSize` bytes: either all messages do, or
the user data is little enough to go into one message whole. -/
def Fits (maxPayloadSize n : Nat) : Prop :=
  maxSealedSize ≤ maxPayloadSize ∨ sealedSize n ≤ maxPayloadSize

instance (maxPayloadSize n : Nat) : Decidable (Fits maxPayloadSize n) :=
  inferInstanceAs (Decidable (_ ∨ _))

/-- Taking what the encrypt buffer can hold is right exactly if the whole user data fits, or if the
cap applies first. -/
theorem sealedSize_taken_iff {maxPayloadSize : Nat} (hmin : 9 < maxPayloadSize) (n : Nat) :
    sealedSize (SessionMode.calcUserDataTxLength n (calcMaxCryptoPayloadLength maxPayloadSize)
      SessionMode.maxChunk) ≤ maxPayloadSize ↔ Fits maxPayloadSize n := by
  have hbuffer : calcMaxCryptoPayloadLength maxPayloadSize = maxPayloadSize - 9 := if_pos hmin
  have hmax : maxSealedSize = 1051 := rfl
  have hchunk : SessionMode.maxChunk = 1024 := rfl
  rw [hbuffer, SessionMode.calcUserDataTxLength, hchunk]
  by_cases hwhole : n ≤ maxPayloadSize - 9 ∧ n ≤ 1024
  · -- all of the user data is taken
    have htaken : min (min (min n (maxPayloadSize - 9)) 1024) 65535 = n := by omega
    rw [htaken]
    refine ⟨.inr, ?_⟩
    rintro (hall | hfits)
    · exact (sealedSize_mono hwhole.2).trans hall
    · exact hfits
  · by_cases hcap : 1024 ≤ maxPayloadSize - 9
    · -- the cap is taken
      have htaken : min (min (min n (maxPayloadSize - 9)) 1024) 65535 = 1024 := by omega
      rw [htaken]
      refine ⟨.inl, ?_⟩
      rintro (hall | hfits)
      · exact hall
      · exact (sealedSize_mono (by omega)).trans hfits
    · -- the buffer is filled, which leaves no room for the tag
      have htaken : min (min (min n (maxPayloadSize - 9)) 1024) 65535 = maxPayloadSize - 9 := by
        omega
      rw [htaken]
      have hfilled := lt_sealedSize (maxPayloadSize - 9)
      have hlarge := lt_sealedSize n
      refine ⟨fun h => by omega, ?_⟩
      rintro (hall | hfits)
      · omega
      · omega

end Session

namespace Sodium

/-- In both modes the tag has sixteen bytes, and the ciphertext is as long as the text. -/
theorem encrypt_lengths (sodium : Sodium) (behind : Bytes) {mode : SessionCryptoMode} {key : Bytes}
    {nonce : UInt16} {ad cleartext : Bytes} {result : AEADResult}
    (hencrypt : SessionMode.encrypt (sodium.backend behind) mode key nonce ad cleartext =
      .ok result) :
    result.ciphertext.length = cleartext.length ∧ result.authTag.length = 16 :=
  ⟨SessionMode.encrypt_length (sodium.backend_keepsLength behind) hencrypt,
    sodium.encrypt_tag_length behind hencrypt⟩

end Sodium

namespace Session

section

variable {sodium : Sodium} {behind : Bytes} {mode : SessionCryptoMode} {key : Bytes}
variable {metadata : AuthMetadata} {cleartext rest : Bytes} {bufferLen : Nat}
variable {message : SessionData}

/-- What `SessionMode::write` produces has a tag of sixteen bytes and the user data it took. -/
theorem write_lengths
    (hwrite : SessionMode.write (sodium.backend behind) mode key metadata cleartext bufferLen =
      .ok (message, rest)) :
    message.userData.length =
        SessionMode.calcUserDataTxLength cleartext.length bufferLen SessionMode.maxChunk ∧
      message.authTag.length = 16 := by
  simp only [SessionMode.write] at hwrite
  split_ifs at hwrite
  split at hwrite
  · cases hwrite
  · rename_i result hencrypt
    cases hwrite
    obtain ⟨htext, htag⟩ := sodium.encrypt_lengths behind hencrypt
    refine ⟨htext.trans ?_, htag⟩
    rw [List.length_take, SessionMode.calcUserDataTxLength]
    omega

/-- Its fields are short enough for their length prefixes, and its size is the one computed from
the user data taken. -/
theorem write_size
    (hwrite : SessionMode.write (sodium.backend behind) mode key metadata cleartext bufferLen =
      .ok (message, rest)) :
    SessionData.fieldsSpec.fits message ∧ message.size = message.wire.length ∧
      message.wire.length = sealedSize
        (SessionMode.calcUserDataTxLength cleartext.length bufferLen SessionMode.maxChunk) := by
  obtain ⟨hdata, htag⟩ := write_lengths hwrite
  have hshort : message.userData.length < 65536 := by
    rw [hdata, SessionMode.calcUserDataTxLength]
    omega
  have hfits : SessionData.fieldsSpec.fits message :=
    ⟨⟨trivial, trivial⟩, lt_trans hshort (by decide), by
      change message.authTag.length < _
      omega⟩
  refine ⟨hfits, ?_, ?_⟩
  · change 1 + SessionData.fields.size message = _
    rw [SessionData.fieldsSpec.size_eq message hfits, SessionData.wire, encMessage,
      List.length_cons]
    omega
  · have hprefix : prefixSize 16 = 1 := rfl
    rw [SessionData.wire_length hfits, size_counter hshort, htag, size_counter (by decide), hdata,
      sealedSize, hprefix]
    omega

end

/-- A frame writer takes a message of `SessionMode::write` exactly if its size is within the maximum
payload size. -/
theorem frame_error_iff {sodium : Sodium} {behind : Bytes} {mode : SessionCryptoMode} {key : Bytes}
    {metadata : AuthMetadata} {cleartext rest : Bytes} {writer : FrameWriter}
    {message : SessionData}
    (hwrite : SessionMode.write (sodium.backend behind) mode key metadata cleartext
      (calcMaxCryptoPayloadLength writer.maxPayloadSize.toNat) = .ok (message, rest)) :
    writer.write message.write = .error .insufficientSpace ↔
      ¬ Fits writer.maxPayloadSize.toNat cleartext.length := by
  obtain ⟨hfits, -, hsize⟩ := write_size hwrite
  have hmin : 9 < writer.maxPayloadSize.toNat := by
    by_contra hsmall
    simp [SessionMode.write, calcMaxCryptoPayloadLength, hsmall] at hwrite
  have hroom := sealedSize_taken_iff hmin cleartext.length
  rw [← hsize] at hroom
  rw [writer.write_eq (SessionData.write_eq hfits), ← hroom]
  simp

/-- **Sizes.**  For every frame writer with room for at least one byte of user data, both session
modes and every clear text: the message is within the maximum payload size exactly if `Fits` holds,
and then no session fails for lack of space. -/
theorem payload_fits_iff (sodium : Sodium) (behind : Bytes) (ctx : SessionContext)
    (hbackend : ctx.backend = sodium.backend behind)
    (hmin : 26 ≤ ctx.frameWriter.maxPayloadSize.toNat) (cleartext : Bytes) :
    (∀ mode key metadata message rest,
      SessionMode.write ctx.backend mode key metadata cleartext
        (calcMaxCryptoPayloadLength ctx.frameWriter.maxPayloadSize.toNat) = .ok (message, rest) →
      (message.size ≤ ctx.frameWriter.maxPayloadSize.toNat ↔
        Fits ctx.frameWriter.maxPayloadSize.toNat cleartext.length)) ∧
    (Fits ctx.frameWriter.maxPayloadSize.toNat cleartext.length → ∀ session now e,
      (formatSessionData ctx session now cleartext).result ≠ .error (.format e) ∧
      (formatSessionAuth ctx session now cleartext).result ≠ .error (.format e)) := by
  constructor
  · intro mode key metadata message rest hwrite
    rw [hbackend] at hwrite
    obtain ⟨-, hsize, hlength⟩ := write_size hwrite
    rw [hsize, hlength]
    exact sealedSize_taken_iff (by omega) _
  · intro hfits session now e
    have hnever : ∀ outcome, Settles ctx session now cleartext outcome →
        outcome.result ≠ .error (.format e) := by
      rintro outcome (⟨rest, formatted, -, -, rfl⟩ | hrefuses)
      · simp
      · cases hrefuses with
        | early e => simp
        | late e' hwrite hframe =>
            rw [hbackend] at hwrite
            cases e'
            exact absurd hfits ((frame_error_iff hwrite).mp hframe)
    exact ⟨hnever _ (formatSessionData_settles ctx session now cleartext),
      hnever _ (formatSessionAuth_settles ctx session now cleartext)⟩

theorem payload_fits_default : ∃ message rest,
    SessionMode.write (Formatting.ctx 4092).backend .hmacSha256_16 (List.replicate 32 9) ⟨1, 10000⟩
      [1, 2, 3] (calcMaxCryptoPayloadLength 4092) = .ok (message, rest) ∧ message.size ≤ 4092 := by
  refine ⟨_, _, rfl, ?_⟩
  exact ((payload_fits_iff Sodium.sample [] (Formatting.ctx 4092) rfl (by decide) [1, 2, 3]).1
    .hmacSha256_16 (List.replicate 32 9) ⟨1, 10000⟩ _ _ rfl).mpr (.inl (by decide))

/-- The message for three bytes of clear text has 28 bytes, in both modes, where 26 are allowed. -/
theorem payload_too_large :
    (∃ message rest,
      SessionMode.write (Formatting.ctx 26).backend .hmacSha256_16 (List.replicate 32 9) ⟨1, 10000⟩
        [1, 2, 3] (calcMaxCryptoPayloadLength 26) = .ok (message, rest) ∧ message.size = 28) ∧
    (∃ message rest,
      SessionMode.write (Formatting.ctx 26).backend .aes256Gcm (List.replicate 32 9) ⟨1, 10000⟩
        [1, 2, 3] (calcMaxCryptoPayloadLength 26) = .ok (message, rest) ∧ message.size = 28) ∧
    (formatSessionData (Formatting.ctx 26) (Formatting.session .hmacSha256_16 1) 0
        [1, 2, 3]).result = .error (.format .insufficientSpace) ∧
    (formatSessionData (Formatting.ctx 26) (Formatting.session .aes256Gcm 1) 0
        [1, 2, 3]).result = .error (.format .insufficientSpace) :=
  ⟨⟨_, _, rfl, rfl⟩, ⟨_, _, rfl, rfl⟩, rfl, rfl⟩

/-! ## Failures and sizes -/

/-- What the checks before the frame writer ask for: a valid session with a key, in which the padded
time to live ends, and a buffer.  libsodium may refuse to encrypt. -/
structure Sealable (sodium : Sodium) (ctx : SessionContext) (session : Session) (now : Time)
    (cleartext : Bytes) : Prop where
  valid : session.valid = true
  started : session.parameters.sessionStart ≤ now
  inSession : now - session.parameters.sessionStart + milliseconds ctx.ttlPadMs ≤
    session.parameters.maxSessionTime
  keyLength : session.keys.txKey.length = Consts.symmetricKeyLength
  room : 9 < ctx.frameWriter.maxPayloadSize.toNat
  encrypts : session.algorithms.sessionMode = .aes256Gcm →
    (sodium.gcmEncrypt session.keys.txKey (Sodium.gcmNonce session.txNonce)
      (SessionMode.metadataBytes (txMetadata ctx session now))
      (cleartext.take (SessionMode.calcUserDataTxLength cleartext.length
        (calcMaxCryptoPayloadLength ctx.frameWriter.maxPayloadSize.toNat)
        SessionMode.maxChunk))).isSome = true

section

variable {sodium : Sodium} {behind : Bytes} {ctx : SessionContext} {session : Session} {now : Time}
variable {cleartext : Bytes}

/-- `SessionMode::write` succeeds exactly if there is a key, a buffer and, with encryption, a result
of libsodium. -/
theorem write_isOk_iff (mode : SessionCryptoMode) (key : Bytes) (metadata : AuthMetadata)
    (cleartext : Bytes) (bufferLen : Nat) :
    (∃ written, SessionMode.write (sodium.backend behind) mode key metadata cleartext bufferLen =
        .ok written) ↔
      key.length = Consts.symmetricKeyLength ∧ bufferLen ≠ 0 ∧ (mode = .aes256Gcm →
        (sodium.gcmEncrypt key (Sodium.gcmNonce metadata.nonce) (SessionMode.metadataBytes metadata)
          (cleartext.take (SessionMode.calcUserDataTxLength cleartext.length bufferLen
            SessionMode.maxChunk))).isSome = true) := by
  simp only [SessionMode.write]
  split_ifs with hkey hbuffer
  · simp [hkey]
  · simp [hbuffer]
  · cases mode with
    | hmacSha256_16 =>
        have hshort : ¬ (cleartext.take (SessionMode.calcUserDataTxLength cleartext.length bufferLen
            SessionMode.maxChunk)).length > 65535 := by
          rw [List.length_take, SessionMode.calcUserDataTxLength]
          omega
        simp only [SessionMode.encrypt, SessionMode.aeadMacEncrypt, if_neg hshort]
        simp [not_not.mp hkey, hbuffer]
    | aes256Gcm =>
        simp only [SessionMode.encrypt, Sodium.backend]
        cases hgcm : sodium.gcmEncrypt key (Sodium.gcmNonce metadata.nonce)
            (SessionMode.metadataBytes metadata) (cleartext.take
              (SessionMode.calcUserDataTxLength cleartext.length bufferLen
                SessionMode.maxChunk)) with
        | none => simp
        | some result => simp [not_not.mp hkey, hbuffer]

/-- The frame writer is asked exactly for what is sealable, and refuses what does not fit. -/
theorem formatNoNonceCheck_format_iff (hbackend : ctx.backend = sodium.backend behind) :
    (∃ e, (formatNoNonceCheck ctx session now cleartext).result = .error (.format e)) ↔
      Sealable sodium ctx session now cleartext ∧
        ¬ Fits ctx.frameWriter.maxPayloadSize.toNat cleartext.length := by
  have hpad : 0 ≤ milliseconds ctx.ttlPadMs := Int.mul_nonneg (Int.natCast_nonneg _) (by decide)
  have hsealed := @write_isOk_iff sodium behind session.algorithms.sessionMode session.keys.txKey
    (txMetadata ctx session now) cleartext
    (calcMaxCryptoPayloadLength ctx.frameWriter.maxPayloadSize.toNat)
  have hroom : calcMaxCryptoPayloadLength ctx.frameWriter.maxPayloadSize.toNat ≠ 0 ↔
      9 < ctx.frameWriter.maxPayloadSize.toNat := by
    rw [calcMaxCryptoPayloadLength]
    split_ifs <;> omega
  simp only [formatNoNonceCheck, hbackend]
  split_ifs with hvalid hstart htime hend
  · exact ⟨by simp, fun h => absurd h.1.valid (by simpa using hvalid)⟩
  · exact ⟨by simp, fun h => absurd h.1.started (not_le.mpr hstart)⟩
  · exact ⟨by simp, fun h => absurd htime
      (not_lt.mpr ((Int.le_add_of_nonneg_right hpad).trans h.1.inSession))⟩
  · exact ⟨by simp, fun h => absurd hend (not_lt.mpr (Int.le_sub_left_of_add_le h.1.inSession))⟩
  · cases hwrite : SessionMode.write (sodium.backend behind) session.algorithms.sessionMode
      session.keys.txKey (txMetadata ctx session now) cleartext
      (calcMaxCryptoPayloadLength ctx.frameWriter.maxPayloadSize.toNat) with
    | error e =>
        refine ⟨by simp, fun h => ?_⟩
        obtain ⟨written, hok⟩ := hsealed.mpr ⟨h.1.keyLength, hroom.mpr h.1.room, h.1.encrypts⟩
        rw [hwrite] at hok
        cases hok
    | ok written =>
        obtain ⟨hkey, hbuffer, hencrypts⟩ := hsealed.mp ⟨written, hwrite⟩
        have hsealable : Sealable sodium ctx session now cleartext :=
          ⟨by simpa using hvalid, not_lt.mp hstart,
            Int.add_le_of_le_sub_left (not_lt.mp hend), hkey,
            hroom.mp hbuffer, hencrypts⟩
        rw [← frame_error_iff hwrite]
        cases hframe : ctx.frameWriter.write written.1.write with
        | error e =>
            cases e
            simp only [hframe]
            exact ⟨fun _ => ⟨hsealable, trivial⟩, fun _ => ⟨.insufficientSpace, trivial⟩⟩
        | ok framed => simp [hframe]

end

/-- **Formatting is all-or-nothing** exactly if no clear text is lost in the frame writer: there is
none, the nonce or a check before the frame writer stops the attempt, or the message fits. -/
theorem allOrNothing_iff (sodium : Sodium) (behind : Bytes) (ctx : SessionContext)
    (hbackend : ctx.backend = sodium.backend behind) (session : Session) (now : Time)
    (cleartext : Bytes) :
    (AllOrNothing session cleartext (formatSessionData ctx session now cleartext) ↔
      cleartext = [] ∨ session.parameters.maxNonce ≤ session.txNonce ∨
        ¬ Sealable sodium ctx session now cleartext ∨
        Fits ctx.frameWriter.maxPayloadSize.toNat cleartext.length) ∧
    (AllOrNothing session cleartext (formatSessionAuth ctx session now cleartext) ↔
      cleartext = [] ∨ session.txNonce ≠ 0 ∨ ¬ Sealable sodium ctx session now cleartext ∨
        Fits ctx.frameWriter.maxPayloadSize.toNat cleartext.length) := by
  have hkeeps : ctx.backend.KeepsLength := by
    rw [hbackend]
    exact sodium.backend_keepsLength behind
  have hformat := @formatNoNonceCheck_format_iff sodium behind ctx session now cleartext hbackend
  rw [(formatSessionData_settles ctx session now cleartext).all_or_nothing hkeeps,
    (formatSessionAuth_settles ctx session now cleartext).all_or_nothing hkeeps]
  constructor
  · refine or_congr_right ?_
    rw [formatSessionData]
    split_ifs with hnonce
    · simp [hnonce.le]
    · rw [← not_exists, hformat]
      tauto
  · refine or_congr_right ?_
    rw [formatSessionAuth]
    split_ifs with hnonce
    · simp [hnonce]
    · rw [← not_exists, hformat]
      tauto

theorem allOrNothing_default :
    AllOrNothing (Formatting.session .aes256Gcm 1) [1, 2, 3]
      (formatSessionData (Formatting.ctx 4092) (Formatting.session .aes256Gcm 1) 0 [1, 2, 3]) :=
  (allOrNothing_iff Sodium.sample [] (Formatting.ctx 4092) rfl _ 0 [1, 2, 3]).1.mpr
    (.inr (.inr (.inr (by decide))))

/-- Three bytes of clear text and a frame writer for 26 bytes: the message is too large for the
frame, and its user data is lost. -/
theorem cleartext_lost :
    (formatSessionData (Formatting.ctx 26) (Formatting.session .aes256Gcm 1) 0
        [1, 2, 3]).result = .error (.format .insufficientSpace) ∧
    (formatSessionData (Formatting.ctx 26) (Formatting.session .aes256Gcm 1) 0
        [1, 2, 3]).remainder = [] ∧
    (formatSessionAuth (Formatting.ctx 26) (Formatting.session .hmacSha256_16 0) 0
        [1, 2, 3]).result = .error (.format .insufficientSpace) ∧
    (formatSessionAuth (Formatting.ctx 26) (Formatting.session .hmacSha256_16 0) 0
        [1, 2, 3]).remainder = [] :=
  ⟨rfl, rfl, rfl, rfl⟩

/-! ## Time to live -/

/-- A sum of nanoseconds that ends within a limit of at most `2 ^ 32 - 1` milliseconds is narrowed
to 32 bits without loss.  The pad is a whole number of milliseconds, so that it can be added after
rounding. -/
theorem milliseconds_narrow {elapsed limit : Int} {pad : Nat} (helapsed : 0 ≤ elapsed)
    (hpad : pad * 1000000 ≤ limit - elapsed) (hlimit : limit ≤ 4294967295 * 1000000) :
    ((UInt32.ofNat ((elapsed + pad * 1000000) / 1000000).toNat).toNat : Int) =
      elapsed / 1000000 + pad := by
  have hbelow : ((elapsed + pad * 1000000) / 1000000).toNat < UInt32.size := by
    change _ < 4294967296
    omega
  rw [UInt32.toNat_ofNat_of_lt' hbelow, Int.toNat_of_nonneg (by omega)]
  omega

/-- The time to live of a message is the session time in whole milliseconds and the pad, and ends
within the session. -/
theorem Formats.validUntil {ctx : SessionContext} {session : Session} {now : Time}
    {cleartext rest : Bytes} {formatted : Formatted}
    (hformats : Formats ctx session now cleartext rest formatted)
    (hmax : session.parameters.maxSessionTime ≤ milliseconds 4294967295) :
    (formatted.message.metadata.validUntilMs.toNat : Int) =
        (now - session.parameters.sessionStart) / millisecond + ctx.ttlPadMs.toNat ∧
      milliseconds formatted.message.metadata.validUntilMs ≤ session.parameters.maxSessionTime := by
  obtain ⟨-, hstarted, hpad, hwrites, -⟩ := hformats
  have helapsed : 0 ≤ now - session.parameters.sessionStart := Int.sub_nonneg_of_le hstarted
  have hnarrow := milliseconds_narrow helapsed hpad hmax
  rw [hwrites.metadata_eq]
  refine ⟨hnarrow, ?_⟩
  have hlimit : (ctx.ttlPadMs.toNat : Int) * 1000000 ≤
    session.parameters.maxSessionTime - (now - session.parameters.sessionStart) := hpad
  change ((txMetadata ctx session now).validUntilMs.toNat : Int) * 1000000 ≤ _
  change ((txMetadata ctx session now).validUntilMs.toNat : Int) = _ at hnarrow
  rw [hnarrow]
  omega

/-- **Time to live.**  With a maximum session time that the protocol can express, a message that is
formatted carries the session time in whole milliseconds and the pad, exactly, and does not outlive
the session.  A message is accepted only at a session time that is neither negative nor beyond the
session nor beyond the message's time to live. -/
theorem ttl_exact (ctx : SessionContext) (session : Session) (now : Time)
    (hmax : session.parameters.maxSessionTime ≤ milliseconds 4294967295) :
    (∀ cleartext formatted,
      ((formatSessionData ctx session now cleartext).result = .ok formatted ∨
        (formatSessionAuth ctx session now cleartext).result = .ok formatted) →
      (formatted.message.metadata.validUntilMs.toNat : Int) =
          (now - session.parameters.sessionStart) / millisecond + ctx.ttlPadMs.toNat ∧
        milliseconds formatted.message.metadata.validUntilMs ≤
          session.parameters.maxSessionTime) ∧
    (∀ stats msg payload,
      ((validateSessionData ctx session stats msg now).1 = .ok payload ∨
        (validateSessionAuth ctx session stats msg now).1 = .ok payload) →
      0 ≤ now - session.parameters.sessionStart ∧
        now - session.parameters.sessionStart ≤ session.parameters.maxSessionTime ∧
        now - session.parameters.sessionStart ≤ milliseconds msg.metadata.validUntilMs) := by
  constructor
  · intro cleartext formatted hresult
    have hformatted : ∀ outcome, Settles ctx session now cleartext outcome →
        outcome.result = .ok formatted →
        ∃ rest, Formats ctx session now cleartext rest formatted := by
      rintro outcome (⟨rest, formatted', hformats, -, rfl⟩ | hrefuses) hok
      · cases hok
        exact ⟨rest, hformats⟩
      · cases hrefuses <;> cases hok
    rcases hresult with hok | hok
    · obtain ⟨rest, hformats⟩ :=
        hformatted _ (formatSessionData_settles ctx session now cleartext) hok
      exact hformats.validUntil hmax
    · obtain ⟨rest, hformats⟩ :=
        hformatted _ (formatSessionAuth_settles ctx session now cleartext) hok
      exact hformats.validUntil hmax
  · intro stats msg payload hresult
    have haccepts : ∃ verifyNonce, Accepts ctx verifyNonce session msg now payload := by
      rcases hresult with hok | hok
      · rcases validateSessionData_cases ctx session stats msg now with
          ⟨_, _, -, haccepts, heq⟩ | ⟨_, -, heq⟩ | ⟨_, _, heq⟩
        · rw [heq] at hok
          cases hok
          exact ⟨_, haccepts⟩
        · rw [heq] at hok
          cases hok
        · rw [heq] at hok
          cases hok
      · rcases validateSessionAuth_cases ctx session stats msg now with
          ⟨_, _, haccepts, heq⟩ | ⟨_, _, heq⟩
        · rw [heq] at hok
          cases hok
          exact ⟨_, haccepts⟩
        · rw [heq] at hok
          cases hok
    obtain ⟨verifyNonce, haccepts⟩ := haccepts
    exact ⟨Int.sub_nonneg_of_le haccepts.started, haccepts.inSession, haccepts.inTtl⟩

theorem ttl_exact_sample : ∃ formatted,
    (formatSessionData (Formatting.ctx 4092) (Formatting.session .aes256Gcm 1) 1500000
      [1, 2, 3]).result = .ok formatted ∧
    (formatted.message.metadata.validUntilMs.toNat : Int) = 1500000 / millisecond + 10000 := by
  obtain ⟨formatted, hok⟩ := @formatSessionData_ok (Formatting.ctx 4092)
    (Formatting.session .aes256Gcm 1) 1500000 [1, 2, 3] rfl (by decide) (by decide)
  exact ⟨formatted, hok, ((ttl_exact (Formatting.ctx 4092) (Formatting.session .aes256Gcm 1) 1500000
    (by decide)).1 [1, 2, 3] formatted (.inl hok)).1⟩

end Session

end Ssp21
