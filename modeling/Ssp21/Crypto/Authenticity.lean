import Ssp21.Crypto.Session

/-!
# Accepted messages as bytes on the wire

An authenticated message that a session accepts should be, byte for byte, one
that the peer's session produced.  The authentication check covers the metadata,
the ciphertext and the tag that it looks at.  In the authenticate-only mode that
is the whole tag field.  With AES-GCM the backend looks at sixteen bytes from the
start of the field, so a longer or a shorter field passes as well.

`Genuine` is the assumption of an ideal primitive for one received message: the
check succeeds only on a tuple that the peer produced.
-/

namespace Ssp21

open Wire

namespace Session

/-- A message that a session with transmit key `key` formatted. -/
def FormattedUnder (backend : CryptoBackend) (key : Bytes) (message : SessionData) : Prop :=
  ∃ ctx session now cleartext rest formatted, ctx.backend = backend ∧
    session.keys.txKey = key ∧ Formats ctx session now cleartext rest formatted ∧
    formatted.message = message

/-- Whether one of the two validations accepts a message. -/
def accepted (ctx : SessionContext) (session : Session) (stats : SessionStatistics)
    (message : SessionData) (now : Time) : Prop :=
  (∃ payload, (validateSessionAuth ctx session stats message now).1 = .ok payload) ∨
  ∃ payload, (validateSessionData ctx session stats message now).1 = .ok payload

theorem accepted_read {ctx : SessionContext} {session : Session} {stats : SessionStatistics}
    {message : SessionData} {now : Time} (haccept : accepted ctx session stats message now) :
    ∃ payload, SessionMode.read ctx.backend session.algorithms.sessionMode session.keys.rxKey
      message ctx.payloadBufferLength = .ok payload := by
  rcases haccept with ⟨payload, hauth⟩ | ⟨payload, hdata⟩
  · rcases validateSessionAuth_cases ctx session stats message now with
      ⟨payload', stats', haccepts, -⟩ | ⟨e, stats', heq⟩
    · exact ⟨payload', haccepts.authentic⟩
    · rw [heq] at hauth
      cases hauth
  · rcases validateSessionData_cases ctx session stats message now with
      ⟨payload', stats', -, haccepts, -⟩ | ⟨stats', haccepts, -⟩ | ⟨e, stats', heq⟩
    · exact ⟨payload', haccepts.authentic⟩
    · exact ⟨[], haccepts.authentic⟩
    · rw [heq] at hdata
      cases hdata

end Session

namespace Sodium

/-- The tag bytes that the check of a session mode looks at. -/
def checkedTag (behind : Bytes) (mode : SessionCryptoMode) (authTag : Bytes) : Bytes :=
  match mode with
  | .hmacSha256_16 => authTag
  | .aes256Gcm => (authTag ++ behind).take Consts.aesGcmTagLength

/-- The ideal primitive on one received message: if the check succeeds, the peer
produced a message with this metadata, this ciphertext and the checked tag. -/
def Genuine (sodium : Sodium) (behind : Bytes) (produced : List SessionData)
    (mode : SessionCryptoMode) (key : Bytes) (destLength : Nat) (message : SessionData) : Prop :=
  ∀ payload, SessionMode.read (sodium.backend behind) mode key message destLength = .ok payload →
    ∃ original ∈ produced,
      original.metadata.nonce = message.metadata.nonce ∧
      SessionMode.metadataBytes original.metadata = SessionMode.metadataBytes message.metadata ∧
      original.userData = message.userData ∧
      original.authTag = checkedTag behind mode message.authTag

theorem formatted_tag_length {sodium : Sodium} {behind key : Bytes} {message : SessionData}
    (hformatted : Session.FormattedUnder (sodium.backend behind) key message) :
    message.authTag.length = 16 := by
  obtain ⟨ctx, session, now, cleartext, rest, formatted, hbackend, -, hformats, rfl⟩ := hformatted
  have hencrypted := hformats.writes.encrypted
  rw [hbackend] at hencrypted
  exact encrypt_tag_length sodium behind hencrypted

/-- In the authenticate-only mode the whole tag field is compared, its length
included. -/
theorem read_hmac_tag {sodium : Sodium} {behind key payload : Bytes} {message : SessionData}
    {destLength : Nat}
    (hread : SessionMode.read (sodium.backend behind) .hmacSha256_16 key message destLength =
      .ok payload) : message.authTag.length = 16 := by
  simp only [SessionMode.read, SessionMode.decrypt, SessionMode.aeadMacDecrypt] at hread
  split_ifs at hread with hkey hdest hequal
  simp only [backend, Bool.and_eq_true, beq_iff_eq] at hequal
  rw [← hequal.1, List.length_take, sodium.hmac_length]
  rfl

theorem checkedTag_eq (behind : Bytes) (mode : SessionCryptoMode) {authTag : Bytes}
    (hlen : authTag.length = 16) : checkedTag behind mode authTag = authTag := by
  cases mode with
  | hmacSha256_16 => rfl
  | aes256Gcm => exact List.take_left' hlen

end Sodium

theorem AuthMetadata.enc_injective {metadata metadata' : AuthMetadata}
    (henc : SessionMode.metadataBytes metadata = SessionMode.metadataBytes metadata') :
    metadata = metadata' :=
  AuthMetadata.codecSpec.enc_injective ⟨trivial, trivial⟩ ⟨trivial, trivial⟩ henc

/-- **What an accepted message is.**  For an ideal primitive, the bytes of an
accepted message are those of a message that the peer formatted under the same
key exactly when the session authenticates only or the tag field has sixteen
bytes. -/
theorem accepted_wire_iff (sodium : Sodium) (behind : Bytes) (ctx : SessionContext)
    (hbackend : ctx.backend = sodium.backend behind) (session : Session)
    (stats : SessionStatistics) (now : Time) (raw : Bytes) (message : SessionData)
    (hread : SessionData.read raw = .ok message)
    (haccept : Session.accepted ctx session stats message now)
    (produced : List SessionData)
    (hproduced : ∀ original ∈ produced,
      Session.FormattedUnder (sodium.backend behind) session.keys.rxKey original)
    (hgenuine : sodium.Genuine behind produced session.algorithms.sessionMode session.keys.rxKey
      ctx.payloadBufferLength message) :
    (∃ original ∈ produced, raw = original.wire) ↔
      (session.algorithms.sessionMode = .hmacSha256_16 ∨ message.authTag.length = 16) := by
  obtain ⟨hfits, rfl⟩ := SessionData.read_wire hread
  obtain ⟨payload, hpayload⟩ := Session.accepted_read haccept
  rw [hbackend] at hpayload
  constructor
  · rintro ⟨original, hin, hwire⟩
    have hformatted := hproduced original hin
    obtain ⟨ctx', session', now', cleartext, rest, formatted, -, -, hformats, rfl⟩ := hformatted
    obtain ⟨written, hwritten, -⟩ := hformats.framed
    have hfits' := (SessionData.write_wire hwritten (FrameWriter.room_lt _)).1
    have hsame := encMessage_injective SessionData.fieldsSpec hfits hfits' hwire
    rw [hsame]
    exact Or.inr (Sodium.formatted_tag_length (hproduced _ hin))
  · intro hmode
    have hlen : message.authTag.length = 16 := by
      rcases hmode with hhmac | hlen
      · rw [hhmac] at hpayload
        exact Sodium.read_hmac_tag hpayload
      · exact hlen
    obtain ⟨original, hin, -, hmetadata, hdata, htag⟩ := hgenuine payload hpayload
    rw [Sodium.checkedTag_eq behind _ hlen] at htag
    have hsame : original = message := by
      obtain ⟨metadata, userData, authTag⟩ := original
      obtain ⟨metadata', userData', authTag'⟩ := message
      simp only at hmetadata hdata htag
      rw [AuthMetadata.enc_injective hmetadata, hdata, htag]
    exact ⟨original, hin, by rw [hsame]⟩

namespace Authenticity

/-! ## An AES-GCM session and one message of its peer -/

def context : SessionContext := ⟨Sodium.sample.backend [], .raw 1024, 0, 1024⟩

def session (mode : SessionCryptoMode) : Session where
  valid := true
  rxNonce := 0
  txNonce := 1
  keys := ⟨List.replicate 32 7, List.replicate 32 7⟩
  algorithms := ⟨.strictIncrement, mode⟩
  parameters := ⟨0, 10, milliseconds 1000⟩

/-- The message that the peer formats, with `extra` behind its tag. -/
def message (extra : Bytes) : SessionData where
  metadata := ⟨1, 0⟩
  userData := [0xAB, 0xCD]
  authTag := Sodium.Concrete.tag (List.replicate 32 7) (Sodium.gcmNonce 1)
    (SessionMode.metadataBytes ⟨1, 0⟩) [0xAB, 0xCD] ++ extra

theorem message_formatted :
    Session.FormattedUnder (Sodium.sample.backend []) (List.replicate 32 7) (message []) :=
  ⟨context, session .aes256Gcm, 0, [0xAB, 0xCD], _, ⟨message [], [0xAB, 0xCD], (message []).wire⟩,
    rfl, rfl, Session.formatSessionData_formats (by decide +kernel), rfl⟩

theorem message_genuine (extra : Bytes) :
    Sodium.sample.Genuine [] [message []] .aes256Gcm (List.replicate 32 7) 1024
      (message extra) := by
  intro payload _
  refine ⟨message [], List.mem_singleton_self _, rfl, rfl, rfl, ?_⟩
  simp only [Sodium.checkedTag, message, List.append_nil]
  exact (List.take_left' (Sodium.Concrete.tag_length _ _ _ _)).symm

theorem accepted_wire_iff_peer_message :
    ∃ original ∈ [message []], (message []).wire = original.wire :=
  (accepted_wire_iff Sodium.sample [] context rfl (session .aes256Gcm) SessionStatistics.zero 0
    (message []).wire (message []) (by decide +kernel)
    (Or.inr ⟨[0xAB, 0xCD], by decide +kernel⟩) [message []]
    (by intro original hin; rw [List.mem_singleton.mp hin]; exact message_formatted)
    (message_genuine [])).mpr (Or.inr (by decide +kernel))

/-- The peer formatted one message.  With a byte behind its tag the message is
accepted as well. -/
theorem accepted_wire_longer_tag :
    SessionData.read (message [0x55]).wire = .ok (message [0x55]) ∧
    (Session.validateSessionData context (session .aes256Gcm) SessionStatistics.zero
      (message [0x55]) 0).1 = .ok [0xAB, 0xCD] ∧
    (∀ original ∈ [message []], Session.FormattedUnder context.backend
      (session .aes256Gcm).keys.rxKey original) ∧
    Sodium.sample.Genuine [] [message []] .aes256Gcm (List.replicate 32 7) 1024
      (message [0x55]) ∧
    (message [0x55]).wire ∉ [message []].map SessionData.wire := by
  refine ⟨by decide +kernel, by decide +kernel, ?_, message_genuine [0x55], by decide +kernel⟩
  intro original hin
  rw [List.mem_singleton.mp hin]
  exact message_formatted

end Authenticity

end Ssp21
