import Ssp21.Crypto.Emission
import Ssp21.Crypto.HandshakeChecks

/-!
# What the layer hands down

`Proceeds` says what the functions of the layer leave alone as long as the lower layer is ready for
a frame, and what they add to the history.  Only the upper layer submits and reads data, a frame is
the frame writer's work, and whoever leaves the lower layer ready has left the transmission as it
was.

* `FrameWriter.Framed`: the frame of a message that is not empty and within the limit.
* `Transmission.Faithful`: the record of a frame and the bytes in it agree.
* `faithful_run`: so do those of everything that a layer hands down, whatever it receives.
* `emission_exactly_once`: the upper layer's data leaves the layer in order and once.
-/

namespace Ssp21

open Wire

/-! ## Frames -/

namespace FrameWriter

/-- A frame as the writer makes it: around a message that is not empty, and not larger than what
was configured. -/
structure Framed (writer : FrameWriter) (transmission : Transmission) : Prop where
  frame : transmission.frame = writer.frame transmission.written
  nonempty : transmission.written ≠ []
  fits : transmission.written.length ≤ writer.maxPayloadSize.toNat

/-- The link writer has four bytes more than the message may have, and takes them back for the
checksum. -/
theorem write_length_le {writer : FrameWriter} {payload : Nat → Except FormatError Bytes}
    {result : WriteResult} (hwrite : writer.write payload = .ok result)
    (hroom : result.written.length ≤ writer.room) :
    result.written.length ≤ writer.maxPayloadSize.toNat := by
  cases writer with
  | raw size => exact hroom
  | link destination source size =>
      simp only [write] at hwrite
      split at hwrite
      · cases hwrite
      · split_ifs at hwrite with hcrc hlong
        cases hwrite
        simp only [maxPayloadSize]
        simp only [Link.minFrameSize, Link.headerTotalSize, Link.headerFieldsSize, Link.crcSize]
          at hcrc
        omega

theorem framed_of_write {α : Type} {fields : Codec ParseError FormatError α}
    (spec : FieldSpec fields) {writer : FrameWriter} {function : Function} {value : α}
    {result : WriteResult}
    (hwrite : writer.write (writeMessage function fields value) = .ok result) (content : Content) :
    writer.Framed ⟨result.frame, result.written, content⟩ := by
  obtain ⟨hwritten, hframe⟩ := write_ok hwrite
  obtain ⟨-, hbytes, hroom⟩ := writeMessage_ok spec hwritten writer.room_lt
  refine ⟨hframe, ?_, write_length_le hwrite hroom⟩
  rw [hbytes]
  exact List.cons_ne_nil _ _

end FrameWriter

/-! ## Messages in frames -/

/-- The message is no session message. -/
def Foreign (message : Bytes) : Prop :=
  ∀ msg, SessionData.read message ≠ .ok msg

theorem foreign_nil : Foreign [] := by
  intro msg hread
  cases hread

theorem foreign_of_function {message : Bytes} {function : Function}
    (hfunction : message.head?.bind Function.spec.fromType = some function)
    (hother : function ≠ .sessionData) : Foreign message := by
  intro msg hread
  rw [readMessage_function SessionData.fieldsSpec hread] at hfunction
  exact hother (Option.some.inj hfunction).symm

theorem foreign_of_reply {message : Bytes} {msg : ReplyHandshakeBegin}
    (hread : ReplyHandshakeBegin.read message = .ok msg) : Foreign message :=
  foreign_of_function (readMessage_function ReplyHandshakeBegin.fieldsSpec hread) nofun

theorem foreign_of_request {message : Bytes} {msg : RequestHandshakeBegin}
    (hread : RequestHandshakeBegin.read message = .ok msg) : Foreign message :=
  foreign_of_function (readMessage_function RequestHandshakeBegin.fieldsSpec hread) nofun

/-- A message whose function is not that of session messages is none. -/
theorem foreign_of_fromType {byte : UInt8} {bytes : Bytes}
    (hother : Function.spec.fromType byte ≠ some .sessionData) : Foreign (byte :: bytes) := by
  intro msg hread
  exact hother (readMessage_function SessionData.fieldsSpec hread)

/-- The frame is the writer's, and the message in it seals the recorded user data under the recorded
key, or is no session message. -/
structure Transmission.Faithful (ctx : SessionContext) (transmission : Transmission) : Prop where
  framed : ctx.frameWriter.Framed transmission
  message : match transmission.content with
    | .session key formatted =>
        SessionData.read transmission.written = .ok formatted.message ∧
          ∃ mode, SessionMode.encrypt ctx.backend mode key formatted.message.metadata.nonce
            (SessionMode.metadataBytes formatted.message.metadata) formatted.userData =
              .ok ⟨formatted.message.userData, formatted.message.authTag⟩
    | _ => Foreign transmission.written

theorem Session.formatNoNonceCheck_faithful {ctx : SessionContext} {session : Session} {now : Time}
    {cleartext : Bytes} {formatted : Formatted}
    (hok : (session.formatNoNonceCheck ctx now cleartext).result = .ok formatted) :
    (CryptoLayer.sessionTransmission session formatted).Faithful ctx := by
  simp only [formatNoNonceCheck] at hok
  split_ifs at hok
  split at hok
  · cases hok
  · rename_i message rest hmessage
    have hwrites := SessionMode.write_ok hmessage
    split at hok
    · cases hok
    · rename_i result hwrite
      cases hok
      obtain ⟨hfits, hwire⟩ :=
        SessionData.write_wire (FrameWriter.write_ok hwrite).1 ctx.frameWriter.room_lt
      have hframed := FrameWriter.framed_of_write SessionData.fieldsSpec hwrite
        (.session session.keys.txKey ⟨message, cleartext.take (cleartext.length - rest.length),
          result.frame⟩)
      rw [hwire] at hframed
      refine ⟨hframed, readMessage_encMessage SessionData.fieldsSpec .sessionData hfits,
        session.algorithms.sessionMode, ?_⟩
      simp only [hwrites.metadata_eq]
      exact hwrites.encrypted

theorem Session.formatSessionAuth_faithful {ctx : SessionContext} {session : Session} {now : Time}
    {cleartext : Bytes} {formatted : Formatted}
    (hok : (session.formatSessionAuth ctx now cleartext).result = .ok formatted) :
    (CryptoLayer.sessionTransmission session formatted).Faithful ctx := by
  unfold formatSessionAuth at hok
  split_ifs at hok
  exact formatNoNonceCheck_faithful hok

theorem Session.formatSessionData_faithful {ctx : SessionContext} {session : Session} {now : Time}
    {cleartext : Bytes} {formatted : Formatted}
    (hok : (session.formatSessionData ctx now cleartext).result = .ok formatted) :
    (CryptoLayer.sessionTransmission session formatted).Faithful ctx := by
  unfold formatSessionData at hok
  split_ifs at hok
  exact formatNoNonceCheck_faithful hok

/-- A message of a handshake. -/
theorem Transmission.Faithful.of_write {α : Type} {fields : Codec ParseError FormatError α}
    (spec : FieldSpec fields) {ctx : SessionContext} {function : Function} {value : α}
    {result : FrameWriter.WriteResult}
    (hwrite : ctx.frameWriter.write (writeMessage function fields value) = .ok result)
    (hother : function ≠ .sessionData) {content : Content}
    (hcontent : ∀ key formatted, content ≠ .session key formatted) :
    Faithful ctx ⟨result.frame, result.written, content⟩ := by
  have hforeign : Foreign result.written := foreign_of_function
    (writeMessage_function spec (FrameWriter.write_ok hwrite).1 ctx.frameWriter.room_lt) hother
  refine ⟨FrameWriter.framed_of_write spec hwrite content, ?_⟩
  cases content with
  | session key formatted => exact absurd rfl (hcontent key formatted)
  | _ => exact hforeign

/-! ## The functions of the base class -/

namespace Observation

/-- Neither a call of the upper layer nor a frame that goes down. -/
def passive : Observation → Bool
  | .transmit _ | .submit _ | .read _ => false
  | _ => true

/-- The layer's own doing: a frame is faithful, and data is submitted and read by the upper layer
only. -/
def Own (ctx : SessionContext) : Observation → Prop
  | .transmit transmission => transmission.Faithful ctx
  | .submit _ | .read _ => False
  | _ => True

theorem own_of_passive {ctx : SessionContext} {observation : Observation}
    (hpassive : observation.passive = true) : observation.Own ctx := by
  cases observation with
  | transmit transmission => cases hpassive
  | submit data => cases hpassive
  | read payload => cases hpassive
  | _ => trivial

end Observation

/-- A transmission goes on, if there is one. -/
theorem TxState.isIdle_beginTransmit (tx : TxState) (rest : Bytes) :
    (tx.beginTransmit rest).isIdle = tx.isIdle := by
  cases hrest : tx.remainder <;> simp [beginTransmit, isIdle, hrest]

namespace CryptoLayer

/-- If the lower layer is ready afterwards, then it was ready before, and the transmission is where
it was.  In any case a transmission is neither begun nor finished. -/
structure Proceeds (ctx : SessionContext) (base base' : CryptoLayer) : Prop where
  isOpen : base'.isOpen = base.isOpen
  ready : base'.lowerTxReady = true → base.lowerTxReady = true
  txState : base'.lowerTxReady = true → base'.txState = base.txState
  idle : base'.txState.isIdle = base.txState.isIdle
  trace : ∃ new, base'.trace = base.trace ++ new ∧ ∀ o ∈ new, o.Own ctx

namespace Proceeds

variable {ctx : SessionContext} {base base' base'' : CryptoLayer}

theorem of_same (hopen : base'.isOpen = base.isOpen)
    (hready : base'.lowerTxReady = base.lowerTxReady) (htx : base'.txState = base.txState)
    (htrace : base'.trace = base.trace) : Proceeds ctx base base' where
  isOpen := hopen
  ready h := by rwa [hready] at h
  txState _ := htx
  idle := by rw [htx]
  trace := ⟨[], by rw [htrace, List.append_nil], nofun⟩

theorem refl (base : CryptoLayer) : Proceeds ctx base base :=
  .of_same rfl rfl rfl rfl

theorem trans (h : Proceeds ctx base base') (h' : Proceeds ctx base' base'') :
    Proceeds ctx base base'' :=
  ⟨h'.isOpen.trans h.isOpen, fun hready => h.ready (h'.ready hready),
    fun hready => (h'.txState hready).trans (h.txState (h'.ready hready)), h'.idle.trans h.idle,
    History.extends_trans h.trace h'.trace⟩

theorem log (base : CryptoLayer) {observation : Observation}
    (hpassive : observation.passive = true) : Proceeds ctx base (base.log observation) where
  isOpen := rfl
  ready := id
  txState _ := rfl
  idle := rfl
  trace := ⟨[observation], rfl, by simpa using Observation.own_of_passive hpassive⟩

/-- The sessions, the statistics and the payload. -/
theorem internal (base : CryptoLayer) (active pending : Session) (stats : SessionStatistics)
    (payload : Bytes) :
    Proceeds ctx base { base with
      active := active, pending := pending, statistics := stats, payloadData := payload } :=
  .of_same rfl rfl rfl rfl

theorem lowerStartTx (base : CryptoLayer) {transmission : Transmission}
    (hfaithful : transmission.Faithful ctx) :
    Proceeds ctx base (base.lowerStartTx transmission).2 := by
  unfold CryptoLayer.lowerStartTx
  split_ifs
  · exact ⟨rfl, nofun, nofun, rfl, [.transmit transmission], rfl,
      List.forall_mem_singleton.mpr hfaithful⟩
  · exact .log base rfl

/-- A frame of a session takes the lower layer, or is refused and leaves the transmission. -/
theorem sessionFrame (base : CryptoLayer) {transmission : Transmission} {tx : TxState}
    (hidle : tx.isIdle = base.txState.isIdle) (active pending : Session)
    (hfaithful : transmission.Faithful ctx) (hready : base.lowerTxReady = true) :
    Proceeds ctx base ({ base with
      active := active, pending := pending, txState := tx }.lowerStartTx transmission).2 := by
  rw [lowerStartTx_ready (by exact hready)]
  exact ⟨rfl, nofun, nofun, hidle, [.transmit transmission], rfl,
      List.forall_mem_singleton.mpr hfaithful⟩

theorem openUpper (base : CryptoLayer) : Proceeds ctx base base.openUpper.1 := by
  rw [openUpper_fst]
  refine ⟨rfl, id, fun _ => rfl, rfl, _, rfl, ?_⟩
  split_ifs
  · nofun
  · exact List.forall_mem_singleton.mpr trivial

theorem closeUpper (base : CryptoLayer) : Proceeds ctx base base.closeUpper.1 := by
  rw [closeUpper_fst]
  refine ⟨rfl, id, fun _ => rfl, rfl, _, rfl, ?_⟩
  split_ifs
  · exact List.forall_mem_singleton.mpr trivial
  · nofun

theorem notifyTxReady (base : CryptoLayer) : Proceeds ctx base base.notifyTxReady.1 := by
  unfold CryptoLayer.notifyTxReady
  split_ifs
  · exact .log base rfl
  · exact .refl base

theorem notifyRxReady (base : CryptoLayer) : Proceeds ctx base base.notifyRxReady.1 := by
  unfold CryptoLayer.notifyRxReady
  split_ifs
  · exact .log base rfl
  · exact .refl base

theorem logVerified (ctx : SessionContext) (session : Session) (msg : SessionData)
    (base : CryptoLayer) : Proceeds ctx base (base.logVerified ctx session msg) := by
  unfold CryptoLayer.logVerified
  split
  · exact .log base rfl
  · exact .refl base

theorem activatePending (base : CryptoLayer) : Proceeds ctx base base.activatePending :=
  (Proceeds.internal base base.pending base.active.reset base.statistics base.payloadData).trans
    (.log _ rfl)

theorem placePayload (base : CryptoLayer) (payload : Bytes) :
    Proceeds ctx base (base.placePayload payload) :=
  (Proceeds.internal base base.active base.pending base.statistics payload).trans (.log _ rfl)

theorem transmitSessionAuth (hready : base.lowerTxReady = true) (slot : Slot) (now : Time) :
    Proceeds ctx base (base.transmitSessionAuth ctx slot now).2 := by
  unfold CryptoLayer.transmitSessionAuth
  dsimp only
  split
  · exact .log base rfl
  · rename_i formatted hok
    have hfaithful := Session.formatSessionAuth_faithful hok
    cases slot with
    | active =>
        split_ifs
        · exact .sessionFrame base rfl _ base.pending hfaithful hready
        · exact .sessionFrame base (TxState.isIdle_beginTransmit _ _) _ base.pending
            hfaithful hready
    | pending =>
        split_ifs
        · exact .sessionFrame base rfl base.active _ hfaithful hready
        · exact .sessionFrame base (TxState.isIdle_beginTransmit _ _) base.active _ hfaithful hready

end Proceeds

/-- What a call of `start_rx_from_upper` leaves alone; a payload that is returned is logged. -/
theorem startRxFromUpper_frame (base : CryptoLayer) :
    base.startRxFromUpper.1.isOpen = base.isOpen ∧
      base.startRxFromUpper.1.lowerTxReady = base.lowerTxReady ∧
      base.startRxFromUpper.1.txState = base.txState ∧
      ∃ payloads : List Bytes,
        base.startRxFromUpper.1.trace = base.trace ++ payloads.map Observation.read := by
  unfold startRxFromUpper
  dsimp only
  split_ifs
  · exact ⟨rfl, rfl, rfl, [], (List.append_nil _).symm⟩
  · exact ⟨rfl, rfl, rfl, [_], rfl⟩
  · exact ⟨rfl, rfl, rfl, [], (List.append_nil _).symm⟩
  · exact ⟨rfl, rfl, rfl, [_], rfl⟩

end CryptoLayer

/-! ## The functions of the layer -/

namespace Layer

open CryptoLayer (Proceeds)

variable {cfg : Config} {ctx : SessionContext} {config : InitiatorConfig} {layer : Layer}

/-- A relation on the base class contains what the functions of a handshake do: it is a preorder,
and contains the parts that they are made of. -/
structure HandshakeRules (ctx : SessionContext) (related : CryptoLayer → CryptoLayer → Prop) :
    Prop where
  refl (base : CryptoLayer) : related base base
  trans {base base' base'' : CryptoLayer} : related base base' → related base' base'' →
    related base base''
  drew (base : CryptoLayer) (value : Bytes) : related base (base.log (.drew value))
  initialized (base : CryptoLayer) (d : Derivation) : related base (base.log (.initialized d))
  settle (base : CryptoLayer) (pending : Session) (stats : SessionStatistics) :
    related base { base with pending := pending, statistics := stats }
  start (base : CryptoLayer) {transmission : Transmission} : transmission.Faithful ctx →
    related base (base.lowerStartTx transmission).2
  auth {base : CryptoLayer} (now : Time) : base.lowerTxReady = true →
    related base (base.transmitSessionAuth ctx .pending now).2

namespace HandshakeRules

variable {related : CryptoLayer → CryptoLayer → Prop}

theorem onHandshakeRequired (rules : HandshakeRules ctx related) (base : CryptoLayer)
    (initiator : InitiatorState) (env : Env) (now : Time) :
    related base (onHandshakeRequired ctx config env now ⟨base, initiator⟩).base := by
  unfold Layer.onHandshakeRequired
  split
  · split_ifs
    · exact rules.refl _
    · split
      · exact rules.refl _
      · split
        · exact rules.drew _ _
        · rename_i result hwrite
          exact rules.trans (rules.drew _ _) (rules.start _
            (.of_write RequestHandshakeBegin.fieldsSpec hwrite nofun nofun))
  · exact rules.refl _

theorem onSessionNonceChange (rules : HandshakeRules cfg.ctx related) (base : CryptoLayer)
    (initiator : InitiatorState) (env : Env) :
    related base (onSessionNonceChange cfg env ⟨base, initiator⟩).base := by
  unfold Layer.onSessionNonceChange
  split
  · exact rules.refl _
  · split_ifs
    · exact rules.onHandshakeRequired _ _ env env.later
    · exact rules.refl _

theorem onPreTxReady (rules : HandshakeRules cfg.ctx related) (base : CryptoLayer)
    (initiator : InitiatorState) (env : Env) :
    related base (onPreTxReady cfg env ⟨base, initiator⟩).base := by
  unfold Layer.onPreTxReady
  split
  · split_ifs
    · exact rules.onHandshakeRequired _ _ env env.now
    · exact rules.refl _
  · exact rules.refl _

theorem onTimer (rules : HandshakeRules cfg.ctx related) (env : Env) (timer : Timer) :
    related layer.base (layer.onTimer cfg env timer).base := by
  unfold Layer.onTimer
  dsimp only
  split
  · exact rules.refl _
  · split
    · split <;> exact rules.refl _
    · split
      · exact rules.onHandshakeRequired _ _ env env.now
      · exact rules.onHandshakeRequired _ _ env env.now
    · exact rules.onHandshakeRequired _ _ env env.now

theorem replyWithHandshakeError (rules : HandshakeRules ctx related) (base : CryptoLayer)
    (initiator : InitiatorState) (error : HandshakeError) :
    related base (replyWithHandshakeError ctx ⟨base, initiator⟩ error).base := by
  unfold Layer.replyWithHandshakeError
  split
  · exact rules.refl _
  · rename_i result hwrite
    exact rules.start _ (.of_write ReplyHandshakeError.fieldsSpec hwrite nofun nofun)

theorem onReplyMessage (rules : HandshakeRules ctx related)
    (hready : layer.base.lowerTxReady = true) (env : Env) (msg : ReplyHandshakeBegin)
    (rawData : Bytes) :
    related layer.base (layer.onReplyMessage ctx config env msg rawData).base := by
  unfold Layer.onReplyMessage
  split_ifs
  · exact rules.refl _
  · dsimp only
    split_ifs
    · exact rules.settle _ _ _
    · -- the derived session, its record, and then its first message
      generalize InitiatorHandshake.initializeSession _ _ _ _ _ _ _ _ _ = outcome
      generalize Derivation.mk _ _ _ _ = derivation
      have hsent := rules.trans (rules.trans (rules.settle layer.base outcome.session outcome.stats)
        (rules.initialized _ derivation)) (rules.auth env.later hready)
      split
      · rename_i base heq
        rw [heq] at hsent
        exact hsent
      · rename_i base heq
        rw [heq] at hsent
        exact hsent

theorem onErrorMessage (rules : HandshakeRules ctx related) (env : Env) :
    related layer.base (layer.onErrorMessage config env).base := by
  unfold Layer.onErrorMessage
  split <;> exact rules.refl _

theorem onRequest (rules : HandshakeRules ctx related) (mode : ResponderMode) (env : Env)
    (msg : RequestHandshakeBegin) (rawMsg : Bytes) :
    related layer.base (layer.onRequest ctx mode env msg rawMsg).base := by
  unfold Layer.onRequest
  split_ifs
  · exact rules.replyWithHandshakeError _ _ _
  · dsimp only
    generalize hprocess : ResponderMode.process _ _ _ _ _ _ _ _ _ _ = outcome
    have hsettled := rules.settle layer.base outcome.session outcome.stats
    split
    · exact rules.trans hsettled (rules.replyWithHandshakeError _ _ _)
    · rename_i result hok
      rw [← hprocess] at hok
      have hfaithful : Transmission.Faithful ctx ⟨result.frame, result.written, .reply⟩ :=
        .of_write ReplyHandshakeBegin.fieldsSpec (ResponderMode.process_result hok) nofun nofun
      have hdrawn := rules.trans hsettled
        (rules.drew _ (freshReply ctx.backend mode msg env.random))
      split_ifs
      · exact rules.trans (rules.trans hdrawn (rules.initialized _ _)) (rules.start _ hfaithful)
      · exact rules.trans hdrawn (rules.start _ hfaithful)

end HandshakeRules

/-- The layer proceeds in its handshakes. -/
theorem handshakes_proceed (ctx : SessionContext) : HandshakeRules ctx (Proceeds ctx) where
  refl := .refl
  trans := .trans
  drew base _ := .log base rfl
  initialized base _ := .log base rfl
  settle base pending stats := .internal base base.active pending stats base.payloadData
  start base := .lowerStartTx base
  auth now hready := .transmitSessionAuth hready .pending now

theorem onAuthMessage_proceeds (env : Env) (msg : SessionData) :
    Proceeds ctx layer.base (layer.onAuthMessage ctx config env msg).1.base := by
  have hlogged := Proceeds.logVerified ctx layer.base.pending msg layer.base
  unfold onAuthMessage
  dsimp only
  split_ifs
  · exact .refl _
  · split
    · exact hlogged.trans (.of_same rfl rfl rfl rfl)
    · rename_i payload pending stats _
      have hchecked : Proceeds ctx layer.base
        { layer.base.logVerified ctx layer.base.pending msg with
          pending := pending, statistics := stats } := hlogged.trans (.of_same rfl rfl rfl rfl)
      exact ((hchecked.trans (.log _ rfl)).trans (.activatePending _)).trans (.openUpper _)

theorem onAuthSession_proceeds (hready : layer.base.lowerTxReady = true) (env : Env)
    (msg : SessionData) : Proceeds ctx layer.base (layer.onAuthSession ctx env msg).1.base := by
  have hlogged := Proceeds.logVerified ctx layer.base.pending msg layer.base
  obtain ⟨trace, htrace⟩ := logVerified_eq ctx layer.base.pending msg layer.base
  unfold onAuthSession
  dsimp only
  split_ifs
  · exact (handshakes_proceed _).replyWithHandshakeError _ _ _
  · split
    · exact hlogged.trans (.of_same rfl rfl rfl rfl)
    · rename_i payload pending stats _
      have hchecked : Proceeds ctx layer.base
        { layer.base.logVerified ctx layer.base.pending msg with
          pending := pending, statistics := stats } := hlogged.trans (.of_same rfl rfl rfl rfl)
      have haccepted := (hchecked.trans (.log _
        (show (Observation.accepted layer.base.pending.keys.rxKey msg payload).passive = true from
          rfl))).trans (.activatePending _)
      have hsent := haccepted.trans (.transmitSessionAuth (by rw [htrace]; exact hready) .active
        env.later)
      split
      · rename_i base heq
        rw [heq] at hsent
        exact hsent
      · rename_i base heq
        rw [heq] at hsent
        exact hsent.trans (.openUpper _)

theorem onSessionData_proceeds (env : Env) (msg : SessionData) :
    Proceeds cfg.ctx layer.base (layer.onSessionData cfg env msg).1.base := by
  have hlogged := Proceeds.logVerified cfg.ctx layer.base.active msg layer.base
  unfold onSessionData
  dsimp only
  split
  · exact hlogged.trans (.of_same rfl rfl rfl rfl)
  · rename_i payload active stats _
    have hchecked : Proceeds cfg.ctx layer.base
      { layer.base.logVerified cfg.ctx layer.base.active msg with
        active := active, statistics := stats } := hlogged.trans (.of_same rfl rfl rfl rfl)
    have hplaced := (hchecked.trans (.log _
      (show (Observation.accepted layer.base.active.keys.rxKey msg payload).passive = true from
        rfl))).trans (.placePayload _ payload)
    exact (hplaced.trans ((handshakes_proceed _).onSessionNonceChange _ _ env)).trans
      (.notifyRxReady _)

theorem process_proceeds (hready : layer.base.lowerTxReady = true) (env : Env) (message : Bytes) :
    Proceeds cfg.ctx layer.base (layer.process cfg env message).1.base := by
  unfold process
  split
  · exact .refl _
  · split
    · split
      · exact .refl _
      · exact (handshakes_proceed _).onReplyMessage hready env _ _
    · split
      · exact .refl _
      · exact (handshakes_proceed _).onErrorMessage env
    · split
      · exact (handshakes_proceed _).replyWithHandshakeError _ _ _
      · exact (handshakes_proceed _).onRequest _ env _ _
    · split
      · exact .refl _
      · unfold onSessionMessage
        split_ifs
        · split
          · exact onAuthMessage_proceeds env _
          · exact onAuthSession_proceeds hready env _
        · exact onSessionData_proceeds env _
    · exact .refl _

theorem tryReadFromLower_proceeds (env : Env) :
    Proceeds cfg.ctx layer.base (layer.tryReadFromLower cfg env).1.base := by
  unfold tryReadFromLower
  split_ifs with hguard
  · exact .refl _
  · have hready := (CryptoLayer.canRead_of_guard hguard).1
    split
    · exact .refl _
    · rename_i message messages _
      have htaken : Proceeds cfg.ctx layer.base { layer.base with lowerRx := messages } :=
        .of_same rfl rfl rfl rfl
      split_ifs
      · exact htaken
      · have hprocessed := @process_proceeds cfg
          { layer with base := { layer.base with lowerRx := messages } } hready env message
        exact htaken.trans hprocessed

theorem checkTransmit_proceeds (env : Env) :
    Proceeds cfg.ctx layer.base (layer.checkTransmit cfg env).1.base := by
  unfold checkTransmit
  dsimp only
  split_ifs with hguard
  · exact .refl _
  · have hready := (CryptoLayer.ready_of_canTransmit (by simpa using hguard)).2
    split
    · have hfailed : Proceeds cfg.ctx layer.base
          { layer.base.log .dataFormatFailed with active := layer.base.active.reset } :=
        (Proceeds.log layer.base rfl).trans (.of_same rfl rfl rfl rfl)
      exact hfailed.trans (.closeUpper _)
    · rename_i formatted hok
      exact (Proceeds.sessionFrame layer.base (TxState.isIdle_beginTransmit _ _) _
        layer.base.pending (Session.formatSessionData_faithful hok) hready).trans
        ((handshakes_proceed _).onSessionNonceChange _ _ env)

/-- A closed layer is opened, and an initiator asks for a session. -/
theorem onLowerOpen_proceeds (hclosed : layer.base.isOpen = false) (ready : Bool) (env : Env) :
    Proceeds cfg.ctx { layer.base with isOpen := true, lowerTxReady := ready }
      (layer.onLowerOpen cfg env ready).base := by
  rw [onLowerOpen, if_neg (by simp [hclosed])]
  dsimp only
  split
  · exact (handshakes_proceed _).onHandshakeRequired _ _ env env.now
  · exact .refl _

/-- An open layer learns that the lower layer is ready again. -/
theorem onLowerTxReady_proceeds (hopen : layer.base.isOpen = true) (env : Env) :
    Proceeds cfg.ctx layer.base.complete (layer.onLowerTxReady cfg env).1.base := by
  have hasked : Proceeds cfg.ctx layer.base.complete
      (onPreTxReady cfg env { layer with base := layer.base.complete }).base :=
    (handshakes_proceed _).onPreTxReady _ _ env
  rw [onLowerTxReady, if_neg (by simpa [CryptoLayer.log] using hopen)]
  dsimp only
  split_ifs
  · exact hasked.trans (.notifyTxReady _)
  · exact hasked

theorem runTask_proceeds {task : Task} {result : Layer × List Task} {env : Env}
    (hrun : layer.runTask cfg env task = some result) (hclose : task ≠ .afterClose) :
    CryptoLayer.Proceeds cfg.ctx layer.base result.1.base := by
  cases ran_of_runTask hrun with
  | tryReadFromLower => exact tryReadFromLower_proceeds env
  | checkTransmit => exact checkTransmit_proceeds env
  | noPayload => exact .refl _
  | @authPayload payload hne =>
      exact (CryptoLayer.Proceeds.placePayload layer.base payload).trans (.notifyRxReady _)
  | enterIdle => exact .refl _
  | afterClose => exact absurd rfl hclose

/-- A task does not open or close the layer, and adds to the history what is the layer's own doing.
-/
theorem runTask_own {task : Task} {result : Layer × List Task} {env : Env}
    (hrun : layer.runTask cfg env task = some result) :
    result.1.base.isOpen = layer.base.isOpen ∧
      ∃ new, result.1.base.trace = layer.base.trace ++ new ∧ ∀ o ∈ new, o.Own cfg.ctx := by
  by_cases hclose : task = .afterClose
  · subst hclose
    cases hrun
    exact ⟨rfl, [], (List.append_nil _).symm, by simp⟩
  · have hproceeds := runTask_proceeds hrun hclose
    exact ⟨hproceeds.isOpen, hproceeds.trace⟩

end Layer

/-! ## Runs -/

/-- The upper layer calls, or returns from a callback. -/
def Label.isCall : Label → Bool
  | .startRx | .startTx _ | .ret => true
  | _ => false

namespace Machine

/-- Everything that was handed down is faithful. -/
def AllFaithful (ctx : SessionContext) (history : List Observation) : Prop :=
  ∀ transmission, .transmit transmission ∈ history → transmission.Faithful ctx

theorem allFaithful_append {ctx : SessionContext} {history new : List Observation}
    (hfaithful : AllFaithful ctx history) (hnew : AllFaithful ctx new) :
    AllFaithful ctx (history ++ new) :=
  fun transmission hmem => (List.mem_append.mp hmem).elim (hfaithful transmission)
    (hnew transmission)

/-- What a step adds to the history is the layer's own doing, unless the upper layer calls. -/
theorem own_step {cfg : Config} {machine machine' : Machine} {label : Label}
    (hstep : machine.step cfg label = some machine') (hcall : label.isCall = false) :
    ∃ new, machine'.layer.base.trace = machine.layer.base.trace ++ new ∧
      ∀ o ∈ new, o.Own cfg.ctx := by
  have hsame {trace : List Observation} (htrace : trace = machine.layer.base.trace) :
      ∃ new, trace = machine.layer.base.trace ++ new ∧ ∀ o ∈ new, o.Own cfg.ctx :=
    ⟨[], by rw [htrace, List.append_nil], by simp⟩
  cases steps_of_step hstep with
  | receive => exact hsame rfl
  | lowerOpen layer ready env =>
      by_cases hopen : layer.base.isOpen = true
      · rw [Layer.onLowerOpen, if_pos hopen]
        exact hsame rfl
      · exact (Layer.onLowerOpen_proceeds (by simpa using hopen) ready env).trace
  | lowerClose layer ready =>
      unfold Layer.onLowerClose
      split_ifs
      · exact hsame rfl
      · exact (CryptoLayer.Proceeds.closeUpper (layer.base.closeFromLower ready)).trace
  | lowerTxReady layer env =>
      by_cases hopen : layer.base.isOpen = true
      · obtain ⟨new, htrace, hnew⟩ := (@Layer.onLowerTxReady_proceeds cfg layer hopen env).trace
        refine ⟨.completed :: new, ?_, List.forall_mem_cons.mpr ⟨trivial, hnew⟩⟩
        rw [htrace, List.append_cons]
        rfl
      · rw [Layer.onLowerTxReady, if_pos (by simpa [CryptoLayer.log] using hopen)]
        exact ⟨[.completed], rfl, List.forall_mem_singleton.mpr trivial⟩
  | lowerRxReady layer =>
      unfold Layer.onLowerRxReady
      split_ifs <;> exact hsame rfl
  | timer env => exact ((Layer.handshakes_proceed _).onTimer env _).trace
  | startRx => cases hcall
  | startTx => cases hcall
  | ret => cases hcall
  | run _ _ hrun => exact (Layer.runTask_own hrun).2

theorem faithful_step {cfg : Config} {machine machine' : Machine} {label : Label}
    (hfaithful : AllFaithful cfg.ctx machine.layer.base.trace)
    (hstep : machine.step cfg label = some machine') :
    AllFaithful cfg.ctx machine'.layer.base.trace := by
  cases hcall : label.isCall with
  | false =>
      obtain ⟨new, htrace, hnew⟩ := own_step hstep hcall
      rw [htrace]
      exact allFaithful_append hfaithful (fun transmission hmem => hnew _ hmem)
  | true =>
      cases steps_of_step hstep with
      | startRx layer hcall =>
          change AllFaithful cfg.ctx layer.base.startRxFromUpper.1.trace
          obtain ⟨-, -, -, payloads, htrace⟩ := layer.base.startRxFromUpper_frame
          rw [htrace]
          refine allFaithful_append hfaithful (fun transmission hmem => ?_)
          obtain ⟨payload, -, hpayload⟩ := List.mem_map.mp hmem
          cases hpayload
      | startTx layer data =>
          change AllFaithful cfg.ctx (layer.base.startTxFromUpper data).1.trace
          unfold CryptoLayer.startTxFromUpper
          split_ifs
          · refine allFaithful_append hfaithful (fun transmission hmem => ?_)
            cases List.mem_singleton.mp hmem
          · exact hfaithful
      | ret => exact hfaithful
      | _ => cases hcall

/-- **What goes down is what the history records of it.** -/
theorem faithful_run {cfg : Config} {labels : List Label} {machine : Machine}
    (hrun : create.run cfg labels = some machine) :
    AllFaithful cfg.ctx machine.layer.base.trace :=
  Runs.run_invariant (fun machine => AllFaithful cfg.ctx machine.layer.base.trace)
    (fun _ _ _ hfaithful _ hstep => faithful_step hfaithful hstep) hrun
    (Runs.along_of_forall (fun _ _ => trivial) create labels) nofun

end Machine

/-- **User data leaves the layer exactly once.**  `post` is what happens from the
submission of `data` on, up to the next submission or to the present, while the
upper layer stays open.  The pieces in it are bounded and make up a front part of
the data, and each is sealed in the message that goes down with it (`Faithful`).  The
upper layer is told once that the transmission is complete, behind the completion of
the last piece, and not before it is told is new data accepted. -/
theorem emission_exactly_once (cfg : Config) {labels : List Label} {machine : Machine}
    (hrun : Machine.create.run cfg labels = some machine) {pre post later : List Observation}
    {data : Bytes} (htrace : machine.layer.base.trace = pre ++ .submit data :: post ++ later)
    (hlater : later = [] ∨ ∃ next rest, later = .submit next :: rest)
    (hpost : ∀ next, .submit next ∉ post) (hopen : .closed ∉ post) (hdata : data ≠ []) :
    (∀ transmission, .transmit transmission ∈ post → transmission.Faithful cfg.ctx) ∧
      (∀ chunk ∈ chunks post, chunk ≠ [] ∧ chunk.length ≤ 1024) ∧
      (chunks post).flatten <+: data ∧
      post.count .txReady ≤ 1 ∧
      (∀ before after, post = before ++ .txReady :: after →
        (chunks before).flatten = data ∧ PieceCompleted before ∧ chunks after = []) ∧
      ((chunks post).flatten = data → PieceCompleted post → .txReady ∈ post) ∧
      (later ≠ [] → .txReady ∈ post) ∧
      (later = [] → .txReady ∉ post →
        ∀ next, machine.layer.base.startTxFromUpper next = (machine.layer.base, [])) := by
  have hemission := (txInvariant_run hrun).emission
  have hfaithful : ∀ transmission, .transmit transmission ∈ post →
      transmission.Faithful cfg.ctx := by
    intro transmission hmem
    refine Machine.faithful_run hrun transmission ?_
    rw [htrace]
    simp [hmem]
  have hbounded : ∀ chunk ∈ chunks post, chunk ≠ [] ∧ chunk.length ≤ 1024 := by
    intro chunk hchunk
    refine hemission.bounded chunk ?_
    rw [show machine.snapshot.base.trace = _ from htrace, chunks_append, chunks_append,
      show chunks (.submit data :: post) = chunks post from rfl]
    simp [hchunk]
  rcases hlater with rfl | ⟨next, rest, rfl⟩
  · rw [List.append_nil] at htrace
    have hemitting := hemission.current pre data post htrace hpost hopen hdata
    refine ⟨hfaithful, hbounded, hemitting.flatten_prefix, hemitting.count_txReady,
      fun before after => hemitting.txReady_split, hemitting.txReady_mem,
      fun hne => absurd rfl hne, fun _ hnot next => ?_⟩
    cases hemitting with
    | sending hready hdata hbusy hlast =>
        have hbusy : machine.layer.base.txState.isIdle = false := hbusy
        simp [CryptoLayer.startTxFromUpper, CryptoLayer.isTxReady, hbusy]
    | done first between last hhistory =>
        rw [hhistory] at hnot
        simp at hnot
  · have hemitting := hemission.past pre data post next rest htrace hpost hopen hdata
    refine ⟨hfaithful, hbounded, hemitting.flatten_prefix, hemitting.count_txReady,
      fun before after => hemitting.txReady_split, hemitting.txReady_mem, fun _ => ?_,
      fun hnil => absurd hnil (by simp)⟩
    cases hemitting with
    | sending hready hdata hbusy hlast => cases hbusy
    | done first between last hhistory =>
        rw [hhistory]
        simp

namespace Emission

/-- The upper layer submits data while it is being opened; the data goes out behind
the answer to the auth message. -/
def submitting : List Label :=
  Sample.opening ⟨100, 60000⟩ ++ [.startTx [1, 2, 3], .run (Sample.env 2), .ret,
    .run (Sample.env 2), .run (Sample.env 2), .lowerTxReady (Sample.env 2), .run (Sample.env 2),
    .run (Sample.env 2), .lowerTxReady (Sample.env 2)]

def submitted : Machine := Sample.reached (Sample.responder 1000) submitting

def since : List Observation := submitted.layer.base.trace.drop 10

theorem emission_exactly_once_sample :
    (chunks since).flatten <+: [1, 2, 3] ∧ since.count .txReady ≤ 1 ∧ .txReady ∈ since := by
  have hrun : Machine.create.run (Sample.responder 1000) submitting = some submitted := by
    decide +kernel
  have htrace : submitted.layer.base.trace =
      submitted.layer.base.trace.take 9 ++ .submit [1, 2, 3] :: since ++ [] := by
    decide +kernel
  have hpost (next : Bytes) : .submit next ∉ since := by
    have hall : ∀ o ∈ since, (match o with | .submit _ => false | _ => true) = true := by
      decide +kernel
    exact fun hmem => Bool.false_ne_true (hall _ hmem)
  obtain ⟨-, -, hstarts, hcount, -, hready, -⟩ := emission_exactly_once (Sample.responder 1000) hrun
    htrace (Or.inl rfl) hpost (by decide +kernel) (by decide)
  exact ⟨hstarts, hcount, hready (by decide +kernel)
    ⟨since.take 2, since.drop 3, by decide +kernel, by decide +kernel⟩⟩

end Emission

end Ssp21
