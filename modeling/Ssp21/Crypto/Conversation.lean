import Ssp21.Crypto.Acts
import Ssp21.Crypto.Formatting

/-!
# Messages between the two ends of a session

One end of a session sends, the other receives, and between them are the messages on the way.

* `SessionTerms.Serves`: what one end formats, the other end opens (`opens_of_formats`).
* `Connects`: the messages on the way are the ones that the receiver expects next, in order, up to
  the last one that was sent.  Sending and receiving keep to it (`Connects.send`,
  `Connects.receive`), so that in a channel without loss no message is ever refused.
-/

namespace Ssp21

open Wire

/-- What was sealed is opened again, if there is room for it. -/
structure CryptoBackend.Decrypts (backend : CryptoBackend) : Prop where
  equal : ∀ bytes, backend.secureEquals bytes bytes = true
  gcm : ∀ key nonce ad cleartext result destLength, key.length = Consts.symmetricKeyLength →
    backend.aes256GcmEncrypt key nonce ad cleartext = .ok result →
    cleartext.length ≤ destLength →
    backend.aes256GcmDecrypt key nonce ad result.ciphertext result.authTag destLength =
      .ok cleartext

/-- A buffer in which every message can be read.  Authentication returns the bytes of the message
itself, and refuses a buffer of more than 65535 bytes; decryption writes into the buffer. -/
def SessionMode.Room (mode : SessionCryptoMode) (destLength : Nat) : Prop :=
  match mode with
  | .hmacSha256_16 => destLength ≤ 65535
  | .aes256Gcm => maxChunk ≤ destLength

instance (mode : SessionCryptoMode) (destLength : Nat) :
    Decidable (SessionMode.Room mode destLength) :=
  match mode with
  | .hmacSha256_16 => inferInstanceAs (Decidable (_ ≤ _))
  | .aes256Gcm => inferInstanceAs (Decidable (_ ≤ _))

theorem SessionMode.read_of_writes {backend : CryptoBackend} (hdecrypts : backend.Decrypts)
    {mode : SessionCryptoMode} {key : Bytes} {metadata : AuthMetadata} {userData : Bytes}
    {message : SessionData} {rest chunk : Bytes}
    (hwrites : Writes backend mode key metadata userData message rest chunk) {destLength : Nat}
    (hroom : Room mode destLength) : read backend mode key message destLength = .ok chunk := by
  have hencrypted := hwrites.encrypted
  rw [read, if_neg (not_not.mpr hwrites.keyLength), hwrites.metadata_eq]
  cases mode with
  | hmacSha256_16 =>
      simp only [encrypt, aeadMacEncrypt] at hencrypted
      split_ifs at hencrypted
      obtain ⟨hdata, htag⟩ := AEADResult.mk.inj (Except.ok.inj hencrypted)
      rw [decrypt, aeadMacDecrypt, if_neg (not_lt.mpr hroom), ← htag, ← hdata, hdecrypts.equal,
        if_pos rfl]
  | aes256Gcm =>
      exact hdecrypts.gcm _ _ _ _ _ _ hwrites.keyLength hencrypted (hwrites.bounded.trans hroom)

/-! ## Two ends -/

/-- What one end sends is for the other end, whose layer has room for it. -/
structure SessionTerms.Serves (ctx : SessionContext) (sender receiver : SessionTerms) : Prop where
  key : receiver.keys.rxKey = sender.keys.txKey
  algorithms : receiver.algorithms = sender.algorithms
  maxNonce : receiver.parameters.maxNonce = sender.parameters.maxNonce
  maxSessionTime : receiver.parameters.maxSessionTime = sender.parameters.maxSessionTime
  /-- the limit has been on the wire -/
  expressible : sender.parameters.maxSessionTime ≤ milliseconds 4294967295
  room : SessionMode.Room sender.algorithms.sessionMode ctx.payloadBufferLength

/-- The two contexts use the same primitives. -/
structure SessionContext.Readable (sender receiver : SessionContext) : Prop where
  backend : receiver.backend = sender.backend
  decrypts : sender.backend.Decrypts

/-- A frame that a session with these terms opens, with its user data. -/
def Carries (ctx : SessionContext) (terms : SessionTerms) (nonce : Nat)
    (transmission : Transmission) : Prop :=
  ∃ msg, SessionData.read transmission.written = .ok msg ∧ msg.metadata.nonce.toNat = nonce ∧
    Session.Opens ctx terms msg transmission.userData

section Messages

variable {senderContext ctx : SessionContext} {sender receiver : Session} {now : Time}
  {cleartext rest : Bytes} {formatted : Session.Formatted}

theorem Session.Formats.read_wire (hformats : sender.Formats ctx now cleartext rest formatted) :
    SessionData.read formatted.message.wire = .ok formatted.message := by
  obtain ⟨written, hwrite, -⟩ := hformats.framed
  obtain ⟨hfits, -⟩ := SessionData.write_wire hwrite (FrameWriter.room_lt _)
  exact readMessage_encMessage SessionData.fieldsSpec .sessionData hfits

theorem opens_of_formats (hreadable : senderContext.Readable ctx)
    (hserves : sender.terms.Serves ctx receiver.terms)
    (hformats : sender.Formats senderContext now cleartext rest formatted)
    (hnonce : sender.txNonce ≤ sender.parameters.maxNonce) :
    Session.Opens ctx receiver.terms formatted.message formatted.userData := by
  have hwrites := hformats.writes
  constructor
  · rw [hserves.key, hserves.algorithms, hreadable.backend]
    exact SessionMode.read_of_writes hreadable.decrypts hwrites hserves.room
  · rw [hserves.maxSessionTime]
    exact (hformats.validUntil hserves.expressible).2
  · rw [hserves.maxNonce, hwrites.metadata_eq]
    exact hnonce

/-- What one end formats is carried to the other end, under the nonce of the sender. -/
theorem carries_of_formats (hreadable : senderContext.Readable ctx)
    (hserves : sender.terms.Serves ctx receiver.terms)
    (hformats : sender.Formats senderContext now cleartext rest formatted)
    (hnonce : sender.txNonce ≤ sender.parameters.maxNonce) :
    Carries ctx receiver.terms sender.txNonce.toNat
      (CryptoLayer.sessionTransmission sender formatted) := by
  refine ⟨formatted.message, hformats.read_wire, ?_,
    opens_of_formats hreadable hserves hformats hnonce⟩
  rw [hformats.writes.metadata_eq]
  rfl

end Messages

/-! ## Messages on the way -/

/-- Between two valid ends: the messages have the nonces behind the last one that was received, up
to the last one that was sent. -/
structure Flows (ctx : SessionContext) (sender receiver : Session)
    (messages : List Transmission) : Prop where
  sending : sender.valid = true
  receiving : receiver.valid = true
  serves : sender.terms.Serves ctx receiver.terms
  inOrder : List.Forall₂ (Carries ctx receiver.terms)
    (List.range' (receiver.rxNonce.toNat + 1) messages.length) messages
  counted : receiver.rxNonce.toNat + 1 + messages.length = sender.txNonce.toNat

/-- Between two ends that are valid, or of which none is. -/
def Connects (ctx : SessionContext) (sender receiver : Session) (messages : List Transmission) :
    Prop :=
  Flows ctx sender receiver messages ∨
    (sender.valid = false ∧ receiver.valid = false ∧ messages = [])

section Connects

variable {senderContext ctx : SessionContext} {sender receiver : Session}
  {messages : List Transmission} {transmission : Transmission}

theorem Connects.valid_eq (hconnects : Connects ctx sender receiver messages) :
    sender.valid = receiver.valid := by
  rcases hconnects with hflows | ⟨hsender, hreceiver, -⟩
  · rw [hflows.sending, hflows.receiving]
  · rw [hsender, hreceiver]

theorem Connects.flows (hconnects : Connects ctx sender receiver messages)
    (hvalid : sender.valid = true) : Flows ctx sender receiver messages := by
  rcases hconnects with hflows | ⟨hsender, -⟩
  · exact hflows
  · rw [hvalid] at hsender
    cases hsender

/-- What the sender receives does not matter. -/
theorem Connects.sender_rxNonce (hconnects : Connects ctx sender receiver messages)
    (nonce : UInt16) : Connects ctx { sender with rxNonce := nonce } receiver messages :=
  hconnects.imp_left fun ⟨hsending, hreceiving, hserves, hinOrder, hcounted⟩ =>
    ⟨hsending, hreceiving, hserves, hinOrder, hcounted⟩

/-- What the receiver sends does not matter. -/
theorem Connects.receiver_txNonce (hconnects : Connects ctx sender receiver messages)
    (nonce : UInt16) : Connects ctx sender { receiver with txNonce := nonce } messages :=
  hconnects.imp_left fun ⟨hsending, hreceiving, hserves, hinOrder, hcounted⟩ =>
    ⟨hsending, hreceiving, hserves, hinOrder, hcounted⟩

/-- The next nonce passes either check. -/
theorem SessionNonceMode.verify_next (mode : SessionNonceMode) {last next : UInt16}
    (hnext : next.toNat = last.toNat + 1) : mode.verify last next = true := by
  have hlt : next.toNat < 65536 := next.toNat_lt
  cases mode with
  | strictIncrement =>
      have hlast : last ≠ 65535 := by
        rintro rfl
        change next.toNat = 65536 at hnext
        omega
      simp only [verify, verifyStrictIncrement, if_neg hlast, decide_eq_true_eq]
      apply UInt16.toNat_inj.mp
      rw [hnext, UInt16.toNat_add]
      change last.toNat + 1 = (last.toNat + 1) % 65536
      omega
  | greaterThanLastRx =>
      simp only [verify, verifyGreaterThanLast, gt_iff_lt, decide_eq_true_eq,
        UInt16.lt_iff_toNat_lt]
      omega

/-- The next message on the way is one that the receiver admits. -/
theorem Connects.receive (hconnects : Connects ctx sender receiver (transmission :: messages)) :
    ∃ msg, SessionData.read transmission.written = .ok msg ∧ msg.metadata.nonce ≠ 0 ∧
      receiver.Admits ctx receiver.algorithms.verifyNonce.verify msg transmission.userData ∧
      Connects ctx sender { receiver with rxNonce := msg.metadata.nonce } messages := by
  rcases hconnects with hflows | ⟨-, -, hnil⟩
  · have hinOrder := hflows.inOrder
    rw [List.length_cons, List.range'_succ, List.forall₂_cons] at hinOrder
    obtain ⟨⟨msg, hread, hnonce, hopens⟩, hrest⟩ := hinOrder
    refine ⟨msg, hread, ?_, ⟨hflows.receiving, hopens, ?_⟩, .inl ?_⟩
    · intro hzero
      rw [hzero] at hnonce
      cases hnonce
    · exact SessionNonceMode.verify_next _ hnonce
    · refine ⟨hflows.sending, hflows.receiving, hflows.serves, ?_, ?_⟩
      · change List.Forall₂ (Carries ctx receiver.terms)
          (List.range' (msg.metadata.nonce.toNat + 1) messages.length) messages
        rw [hnonce]
        exact hrest
      · have hcounted := hflows.counted
        rw [List.length_cons] at hcounted
        change msg.metadata.nonce.toNat + 1 + messages.length = sender.txNonce.toNat
        omega
  · cases hnil

/-- A message that is sent is the last one on the way. -/
theorem Connects.send (hconnects : Connects ctx sender receiver messages)
    (hreadable : senderContext.Readable ctx) {now : Time} {cleartext rest : Bytes}
    {formatted : Session.Formatted}
    (hformats : sender.Formats senderContext now cleartext rest formatted)
    (hnonce : sender.txNonce < sender.parameters.maxNonce) :
    Connects ctx { sender with txNonce := sender.txNonce + 1 } receiver
      (messages ++ [CryptoLayer.sessionTransmission sender formatted]) := by
  obtain ⟨hsending, hreceiving, hserves, hinOrder, hcounted⟩ := hconnects.flows hformats.valid
  have hcarries := carries_of_formats hreadable hserves hformats (UInt16.le_of_lt hnonce)
  refine .inl ⟨hsending, hreceiving, hserves, ?_, ?_⟩
  · rw [List.length_append, List.length_singleton, List.range'_concat, Nat.one_mul, hcounted]
    exact List.rel_append hinOrder (.cons hcarries .nil)
  · -- below the maximum the nonce does not wrap around
    have hlt : sender.txNonce.toNat < sender.parameters.maxNonce.toNat :=
      UInt16.lt_iff_toNat_lt.mp hnonce
    have hmax : sender.parameters.maxNonce.toNat < 65536 := sender.parameters.maxNonce.toNat_lt
    have hnext : (sender.txNonce + 1).toNat = sender.txNonce.toNat + 1 := by
      rw [UInt16.toNat_add]
      change (sender.txNonce.toNat + 1) % 65536 = _
      omega
    rw [List.length_append, List.length_singleton]
    change _ = (sender.txNonce + 1).toNat
    omega

end Connects

end Ssp21
