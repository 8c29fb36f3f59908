import Ssp21.Crypto.Network
import Ssp21.Crypto.MirroredSessions

/-!
# Agreement

When a party activates a session, its peer holds the other half of it.

A session is activated by an auth message whose tag is right under its receive key.  The
message was sealed under that key by a party that had derived the key before, and a
responder seals only under a session that it has activated (`Recorded`).  Outputs of the
key derivation determine the two messages of the handshake (`Symbolic`), so both parties
have derived their sessions from the same messages.
-/

namespace Ssp21

open Wire

/-! ## What precedes an observation -/

/-- What has happened in a layer before an observation. -/
def Recorded (cfg : Config) (before : List Observation) : Observation → Prop
  | .transmit ⟨_, _, .session key _⟩ => ∃ d ∈ derivations before, d.session.keys.txKey = key ∧
      ∀ mode, cfg.role = .responder mode → ∃ session, .activated session ∈ before ∧ session.From d
  | .refused _ => False
  | .initialized d => Derives cfg d
  | .activated session => (∃ d ∈ derivations before, session.From d) ∧
      ∃ msg, .verified session.keys.rxKey msg ∈ before ∧ msg.metadata.nonce = 0
  | _ => True

theorem recorded_plain {cfg : Config} {o : Observation} (hplain : o.plain = true)
    (before : List Observation) : Recorded cfg before o := by
  cases o with
  | transmit transmission =>
      obtain ⟨frame, written, content⟩ := transmission
      cases content with
      | session key formatted => cases hplain
      | _ => trivial
  | refused transmission => cases hplain
  | initialized d => cases hplain
  | activated session => cases hplain
  | _ => trivial

/-- The history of a layer, with the activation of its active session. -/
structure Traced (cfg : Config) (table : SessionTable) : Prop where
  origin : ∀ slot, table.Origin slot
  activated : table.active.valid = true → ∃ d ∈ derivations table.trace, table.active.From d ∧
    ∃ session, .activated session ∈ table.trace ∧ session.From d
  recorded : History.Preceded (Recorded cfg) table.trace

section Table

variable {cfg : Config} {table table' : SessionTable}

/-- The active session of a longer history. -/
theorem Traced.activated_append (htraced : Traced cfg table) (new : List Observation)
    {active : Session} (hvalid : table.active.valid = true)
    (hsame : ∀ d, table.active.From d → active.From d) :
    ∃ d ∈ derivations (table.trace ++ new), active.From d ∧
      ∃ session, .activated session ∈ table.trace ++ new ∧ session.From d := by
  obtain ⟨d, hd, hfrom, session, hmem, hsession⟩ := htraced.activated hvalid
  refine ⟨d, ?_, hsame d hfrom, session, List.mem_append_left _ hmem, hsession⟩
  rw [derivations_append]
  exact List.mem_append_left _ hd

/-- **Every move records what it rests on.** -/
theorem traced_move (hmove : TableMove cfg table table') (htraced : Traced cfg table) :
    Traced cfg table' := by
  have horigin := origin_move hmove htraced.origin
  cases hmove with
  | @note o hplain =>
      exact ⟨horigin, fun hvalid => htraced.activated_append [o] hvalid (fun _ hfrom => hfrom),
        htraced.recorded.concat (recorded_plain hplain _)⟩
  | reset slot =>
      refine ⟨horigin, ?_, ?_⟩
      · cases slot with
        | active => exact nofun
        | pending => exact htraced.activated
      · cases slot <;> exact htraced.recorded
  | @init d hderives =>
      exact ⟨horigin, fun hvalid => htraced.activated_append _ hvalid (fun _ hfrom => hfrom),
        htraced.recorded.concat hderives⟩
  | @send slot now cleartext rest formatted hslot hnonce hdata hformats =>
      refine ⟨horigin, ?_, htraced.recorded.concat ?_⟩
      · intro hvalid
        cases slot with
        | active =>
            exact htraced.activated_append _ hformats.valid (fun _ hfrom => hfrom.tick _ _)
        | pending => exact htraced.activated_append _ hvalid (fun _ hfrom => hfrom)
      · cases slot with
        | active =>
            obtain ⟨d, hd, hfrom, hactivated⟩ := htraced.activated hformats.valid
            exact ⟨d, hd, congrArg SessionKeys.txKey hfrom.keys.symm, fun _ _ => hactivated⟩
        | pending =>
            obtain ⟨d, hd, hfrom⟩ := htraced.origin .pending hformats.valid
            refine ⟨d, hd, congrArg SessionKeys.txKey hfrom.keys.symm, ?_⟩
            -- only an initiator sends from this slot
            intro mode hrole
            obtain ⟨config, hrole'⟩ := hslot rfl
            cases hrole.symm.trans hrole'
  | @activate now msg payload hverified haccepts =>
      obtain ⟨d, hd, hfrom⟩ := htraced.origin .pending haccepts.valid
      let session : Session := { table.pending with rxNonce := msg.metadata.nonce }
      have hsession : session.From d := hfrom.tick msg.metadata.nonce table.pending.txNonce
      have hnonce : msg.metadata.nonce = 0 :=
        (SessionNonceMode.equalToZero_iff.mp haccepts.nonce).2
      refine ⟨horigin, ?_, ?_⟩
      · intro _
        exact ⟨d, by simp [hd], hsession, session, List.mem_append_right _ (by simp [session]),
          hsession⟩
      · have haccepted : Recorded cfg table.trace
            (.accepted table.pending.keys.rxKey msg payload) := trivial
        have hactivated : Recorded cfg
            (table.trace ++ [.accepted table.pending.keys.rxKey msg payload])
            (.activated session) :=
          ⟨⟨d, by simp [hd], hsession⟩, msg, List.mem_append_left _ hverified, hnonce⟩
        have hboth := (htraced.recorded.concat haccepted).concat hactivated
        rw [List.append_assoc] at hboth
        exact hboth
  | accept hpayload hnonce hverified haccepts =>
      refine ⟨horigin, ?_, htraced.recorded.concat trivial⟩
      intro _
      exact htraced.activated_append _ haccepts.valid (fun _ hfrom => hfrom.tick _ _)
  | consume hnonce hverified haccepts =>
      refine ⟨horigin, ?_, htraced.recorded⟩
      intro _
      obtain ⟨d, hd, hfrom, hactivated⟩ := htraced.activated haccepts.valid
      exact ⟨d, hd, hfrom.tick _ _, hactivated⟩

/-- **Everything in the history of a run rests on what precedes it.** -/
theorem recorded_run {labels : List Label} {machine : Machine}
    (hrun : Machine.create.run cfg labels = some machine) :
    History.Preceded (Recorded cfg) machine.layer.base.trace := by
  have htraced := Machine.run_invariant_of_tableMove (P := Traced cfg) (C := fun _ => True)
    (fun _ _ _ => trivial) (fun _ _ hmove _ => traced_move hmove) hrun
    ⟨fun slot hvalid => absurd hvalid (Machine.create_invalid slot), nofun, .nil _⟩ trivial
  exact htraced.recorded

end Table

/-! ## Keys and the messages that they come from -/

namespace Derivation

/-- The salt of the key derivation: the hash of both messages. -/
def salt (backend : CryptoBackend) (d : Derivation) : Bytes :=
  handshakeHash backend.hashSha256 d.request d.reply

/-- What is hashed for the salt: the request, then its digest with the reply. -/
def hashed (backend : CryptoBackend) (d : Derivation) : List (List Bytes) :=
  [[d.request], [backend.hashSha256 [d.request], d.reply]]

/-- The two keys that come out of the key derivation. -/
def outputs (backend : CryptoBackend) (d : Derivation) : Bytes × Bytes :=
  backend.hkdfSha256 (d.salt backend) d.inputKeyMaterial

end Derivation

/-- The primitives behave injectively on the handshakes of a run: the digests have one length, the
digest determines what was hashed, each output of the key derivation determines its inputs, and the
two outputs are never the same key. -/
structure Symbolic (backend : CryptoBackend) (ds : List Derivation) : Prop where
  digest : ∀ data, (backend.hashSha256 data).length = 32
  hash : ∀ d ∈ ds, ∀ e ∈ ds, ∀ data ∈ d.hashed backend, ∀ data' ∈ e.hashed backend,
    backend.hashSha256 data = backend.hashSha256 data' → data.flatten = data'.flatten
  first : ∀ d ∈ ds, ∀ e ∈ ds, (d.outputs backend).1 = (e.outputs backend).1 →
    d.salt backend = e.salt backend ∧ d.inputKeyMaterial = e.inputKeyMaterial
  second : ∀ d ∈ ds, ∀ e ∈ ds, (d.outputs backend).2 = (e.outputs backend).2 →
    d.salt backend = e.salt backend ∧ d.inputKeyMaterial = e.inputKeyMaterial
  apart : ∀ d ∈ ds, ∀ e ∈ ds, (d.outputs backend).1 ≠ (e.outputs backend).2

/-- The salt determines both messages. -/
theorem Symbolic.sameMessages {backend : CryptoBackend} {ds : List Derivation}
    (hsymbolic : Symbolic backend ds) {d e : Derivation} (hd : d ∈ ds) (he : e ∈ ds)
    (hsalt : d.salt backend = e.salt backend) : d.SameMessages e := by
  have hmixed := hsymbolic.hash d hd e he _ (by simp [Derivation.hashed]) _
    (by simp [Derivation.hashed]) hsalt
  simp only [List.flatten_cons, List.flatten_nil, List.append_nil] at hmixed
  -- the digests in front of the replies are equally long
  obtain ⟨hdigest, hreply⟩ := List.append_inj hmixed
    ((hsymbolic.digest _).trans (hsymbolic.digest _).symm)
  have hrequest := hsymbolic.hash d hd e he _ (by simp [Derivation.hashed]) _
    (by simp [Derivation.hashed]) hdigest
  simp only [List.flatten_cons, List.flatten_nil, List.append_nil] at hrequest
  exact ⟨hrequest, hreply⟩

/-- An initiator sends under the first key. -/
theorem InitiatorDerives.keys_eq {ctx : SessionContext} {config : InitiatorConfig}
    {init : InitiatorHandshake.InitResult} {handshake : InitiatorHandshake}
    {msg : ReplyHandshakeBegin} {now : Time} {d : Derivation}
    (hderives : InitiatorDerives ctx config init handshake msg now d) :
    d.session.keys = ⟨(d.outputs ctx.backend).2, (d.outputs ctx.backend).1⟩ := by
  rw [hderives.session]
  simp only [InitiatorHandshake.derived, hderives.hash, Algorithms.Handshake.hashWith_eq,
    Algorithms.Handshake.kdfWith_eq]
  rfl

/-- A responder sends under the second key. -/
theorem ResponderDerives.keys_eq {ctx : SessionContext} {mode : ResponderMode}
    {msg : RequestHandshakeBegin} {algorithms : Algorithms.Common} {random : Random}
    {findKey : UInt64 → Option Bytes} {now : Time} {d : Derivation}
    (hderives : ResponderDerives ctx mode msg algorithms random findKey now d) :
    d.session.keys = ⟨(d.outputs ctx.backend).1, (d.outputs ctx.backend).2⟩ := by
  rw [hderives.session]
  simp only [ResponderMode.derived, Algorithms.Handshake.hashWith_eq,
    Algorithms.Handshake.kdfWith_eq]
  rfl

namespace Agreement

variable {pairing : Pairing}

theorem initiator_keys {d : Derivation} (hderives : Derives (pairing.config .initiator) d) :
    d.session.keys = ⟨(d.outputs pairing.backend).2, (d.outputs pairing.backend).1⟩ := by
  cases hderives with
  | initiator hrole hderives => exact hderives.keys_eq
  | responder hrole => cases hrole

theorem responder_keys {d : Derivation} (hderives : Derives (pairing.config .responder) d) :
    d.session.keys = ⟨(d.outputs pairing.backend).1, (d.outputs pairing.backend).2⟩ := by
  cases hderives with
  | initiator hrole => cases hrole
  | responder hrole hderives =>
      have hkeys := hderives.keys_eq
      rwa [pairing.config_backend] at hkeys

/-- Sessions of the two parties that come from the same messages and key material mirror
each other. -/
theorem derives_mirrors {d e : Derivation} (hd : Derives (pairing.config .initiator) d)
    (he : Derives (pairing.config .responder) e) (hmessages : d.SameMessages e)
    (hmaterial : d.inputKeyMaterial = e.inputKeyMaterial) : Mirrors d.session e.session := by
  have houtputs : d.outputs pairing.backend = e.outputs pairing.backend := by
    rw [Derivation.outputs, Derivation.outputs, Derivation.salt, Derivation.salt, hmessages.1,
      hmessages.2, hmaterial]
  have hdkeys := initiator_keys hd
  have hekeys := responder_keys he
  cases hd with
  | responder hrole => cases hrole
  | @initiator config init handshake msg now hrole hd =>
      cases he with
      | initiator hrole' => cases hrole'
      | @responder mode request algorithms random findKey now' hrole' he =>
          cases hrole
          -- the responder read the request that the initiator wrote
          have hread := he.request
          rw [← hmessages.1] at hread
          have hrequest := readMessage_of_write RequestHandshakeBegin.fieldsSpec hd.requested
            (FrameWriter.room_lt _) hread
          have hconfigured := he.configured
          rw [hrequest] at hconfigured
          have halgorithms : algorithms = pairing.initiatorConfig.mode.algorithms :=
            Algorithms.configure_ok hconfigured
          have hdsession := hd.session
          have hesession := he.session
          refine ⟨?_, ?_, ?_, ?_, ?_⟩
          · rw [hdkeys, hekeys, houtputs]
          · rw [hdkeys, hekeys, houtputs]
          · rw [hdsession, hesession, hrequest]
            rfl
          · rw [hdsession, hesession, hrequest]
            rfl
          · rw [hdsession, hesession, halgorithms]
            rfl

theorem mirrors_from {session session' : Session} {d e : Derivation}
    (hmirrors : Mirrors d.session e.session) (hfrom : session.From d) (hfrom' : session'.From e) :
    Mirrors session session' := by
  constructor
  · rw [hfrom.keys, hfrom'.keys, hmirrors.forward]
  · rw [hfrom.keys, hfrom'.keys, hmirrors.backward]
  · rw [hfrom.parameters, hfrom'.parameters, hmirrors.maxNonce]
  · rw [hfrom.parameters, hfrom'.parameters, hmirrors.maxSessionTime]
  · rw [hfrom.algorithms, hfrom'.algorithms, hmirrors.algorithms]

/-! ## Both parties -/

section Parties

variable {labels : List (Party × Label)} {network : Network}

/-- An entry of the log rests on what its party had recorded before. -/
theorem recorded_split (hrun : Network.create.run pairing labels = some network) {party : Party}
    {before after : List (Party × Observation)} {o : Observation}
    (hlog : network.log = before ++ (party, o) :: after) :
    Recorded (pairing.config party) (History.valuesAt party before) o := by
  have hreached := Network.reached_run hrun party
  obtain ⟨labels', hrun'⟩ := hreached.run
  exact recorded_run hrun' _ o _ (Network.trace_split hreached hlog)

/-- A party derived what it says. -/
theorem derives_of_mem (hrun : Network.create.run pairing labels = some network) {party : Party}
    {d : Derivation} (hmem : (party, .initialized d) ∈ network.log) :
    Derives (pairing.config party) d := by
  obtain ⟨before, after, hlog⟩ := List.append_of_mem hmem
  exact recorded_split hrun hlog

/-- An auth message, and the session that it was sealed under. -/
structure SentAuth (before : List (Party × Observation)) (party : Party) (e : Derivation) :
    Prop where
  initialized : (party, .initialized e) ∈ before
  sent : ∃ frame written formatted,
    (party, .transmit ⟨frame, written, .session e.session.keys.txKey formatted⟩) ∈ before ∧
      formatted.message.metadata.nonce = 0
  activated : party = .responder → ∃ session, (party, .activated session) ∈ before ∧ session.From e

/-- **What an activation rests on**: a derivation of the party, and an auth message that
was sealed under the receive key by one of the parties. -/
theorem activation_traced (hrun : Network.create.run pairing labels = some network)
    (hideal : Unforgeable network.log) {before after : List (Party × Observation)} {party : Party}
    {session : Session} (hlog : network.log = before ++ (party, .activated session) :: after) :
    ∃ d, (party, .initialized d) ∈ before ∧ session.From d ∧
      ∃ sender e, SentAuth before sender e ∧ e.session.keys.txKey = d.session.keys.rxKey := by
  obtain ⟨⟨d, hd, hfrom⟩, msg, hverified, hnonce⟩ := recorded_split hrun hlog
  refine ⟨d, History.mem_valuesAt.mp (mem_derivations.mp hd), hfrom, ?_⟩
  -- the message that was checked had been sealed
  have hideal' : Unforgeable before := .of_append (hlog ▸ hideal)
  obtain ⟨formatted, hproduced, hmetadata, -⟩ :=
    hideal'.sealed (History.mem_valuesAt.mp hverified)
  obtain ⟨sender, o, hmem, hseals⟩ := mem_produced hproduced
  obtain ⟨earlier, later, hsplit⟩ := List.append_of_mem hmem
  have hlog' : network.log = earlier ++ (sender, o) :: (later ++ (party, .activated session) ::
      after) := by
    rw [hlog, hsplit, List.append_assoc, List.cons_append]
  have hrecorded := recorded_split hrun hlog'
  have hbefore {o' : Observation} (hmem' : o' ∈ History.valuesAt sender earlier) :
      (sender, o') ∈ before := by
    rw [hsplit]
    exact List.mem_append_left _ (History.mem_valuesAt.mp hmem')
  cases o with
  | refused transmission => exact hrecorded.elim
  | transmit transmission =>
      obtain ⟨frame, written, content⟩ := transmission
      cases content with
      | session key formatted' =>
          simp only [Observation.seals] at hseals
          split_ifs at hseals with hkey
          cases hseals
          obtain ⟨e, he, hekey, hactivated⟩ := hrecorded
          have hrx : e.session.keys.txKey = d.session.keys.rxKey := by
            rw [hekey, hkey, hfrom.keys]
          refine ⟨sender, e, ⟨hbefore (mem_derivations.mp he), ?_, ?_⟩, hrx⟩
          · refine ⟨frame, written, formatted, ?_, by rw [hmetadata, hnonce]⟩
            rw [hekey]
            exact hmem
          · rintro rfl
            obtain ⟨session', hsession', hfrom'⟩ := hactivated pairing.responderMode rfl
            exact ⟨session', hbefore hsession', hfrom'⟩
      | _ => cases hseals
  | _ => cases hseals

end Parties

end Agreement

/-- The handshakes of both parties. -/
def Network.derivations (network : Network) : List Derivation :=
  Ssp21.derivations (network.trace .initiator) ++ Ssp21.derivations (network.trace .responder)

/-- A handshake that a party has completed is one of the handshakes of the run. -/
theorem Network.derived_before {pairing : Pairing} {labels : List (Party × Label)}
    {network : Network} (hrun : Network.create.run pairing labels = some network) {party : Party}
    {before after : List (Party × Observation)} {d : Derivation}
    (hlog : network.log = before ++ after) (hd : (party, .initialized d) ∈ before) :
    d ∈ network.derivations ∧ Derives (pairing.config party) d := by
  have hd' : (party, .initialized d) ∈ network.log := hlog ▸ List.mem_append_left _ hd
  have htrace := mem_derivations.mpr ((Network.mem_trace hrun).mpr hd')
  refine ⟨?_, Agreement.derives_of_mem hrun hd'⟩
  cases party with
  | initiator => exact List.mem_append_left _ htrace
  | responder => exact List.mem_append_right _ htrace

/-- **Agreement.**  An initiator and a responder run over a network that may do anything
to their messages; the hash and the key derivation are injective on the handshakes of the
run, and tags cannot be forged.

* Whenever the initiator activates a session, the responder has activated one with the
  mirrored keys, limits and algorithms that comes from the same two messages.
* Whenever the responder activates a session, the initiator has initialized one that
  mirrors it from the same two messages and has sent an auth message under it. -/
theorem handshake_agreement (pairing : Pairing) {labels : List (Party × Label)}
    {network : Network} (hrun : Network.create.run pairing labels = some network)
    (hsymbolic : Symbolic pairing.backend network.derivations)
    (hideal : Unforgeable network.log) :
    (∀ before after session, network.log = before ++ (.initiator, .activated session) :: after →
      ∃ d e session', (.initiator, .initialized d) ∈ before ∧ session.From d ∧
        (.responder, .initialized e) ∈ before ∧ session'.From e ∧
        (.responder, .activated session') ∈ before ∧ d.SameMessages e ∧
        Mirrors session session') ∧
    (∀ before after session, network.log = before ++ (.responder, .activated session) :: after →
      ∃ d e, (.responder, .initialized d) ∈ before ∧ session.From d ∧
        (.initiator, .initialized e) ∈ before ∧ d.SameMessages e ∧ Mirrors e.session session ∧
        ∃ frame written formatted, (.initiator, .transmit
          ⟨frame, written, .session e.session.keys.txKey formatted⟩) ∈ before ∧
          formatted.message.metadata.nonce = 0) := by
  constructor
  · intro before after session hlog
    obtain ⟨d, hd, hfrom, sender, e, hsent, hkey⟩ :=
      Agreement.activation_traced hrun hideal hlog
    obtain ⟨hdmem, hdd⟩ := Network.derived_before hrun hlog hd
    obtain ⟨hemem, hed⟩ := Network.derived_before hrun hlog hsent.initialized
    have hdkeys := Agreement.initiator_keys hdd
    cases sender with
    | initiator =>
        -- the initiator itself seals only under first keys
        have hekeys := Agreement.initiator_keys hed
        rw [hdkeys, hekeys] at hkey
        exact absurd hkey (hsymbolic.apart e hemem d hdmem)
    | responder =>
        have hekeys := Agreement.responder_keys hed
        rw [hdkeys, hekeys] at hkey
        obtain ⟨hsalt, hmaterial⟩ := hsymbolic.second d hdmem e hemem hkey.symm
        have hmessages := hsymbolic.sameMessages hdmem hemem hsalt
        obtain ⟨session', hsession', hfrom'⟩ := hsent.activated rfl
        exact ⟨d, e, session', hd, hfrom, hsent.initialized, hfrom', hsession', hmessages,
          Agreement.mirrors_from (Agreement.derives_mirrors hdd hed hmessages hmaterial) hfrom
            hfrom'⟩
  · intro before after session hlog
    obtain ⟨d, hd, hfrom, sender, e, hsent, hkey⟩ :=
      Agreement.activation_traced hrun hideal hlog
    obtain ⟨hdmem, hdd⟩ := Network.derived_before hrun hlog hd
    obtain ⟨hemem, hed⟩ := Network.derived_before hrun hlog hsent.initialized
    have hdkeys := Agreement.responder_keys hdd
    cases sender with
    | responder =>
        -- the responder itself seals only under second keys
        have hekeys := Agreement.responder_keys hed
        rw [hdkeys, hekeys] at hkey
        exact absurd hkey.symm (hsymbolic.apart d hdmem e hemem)
    | initiator =>
        have hekeys := Agreement.initiator_keys hed
        rw [hdkeys, hekeys] at hkey
        obtain ⟨hsalt, hmaterial⟩ := hsymbolic.first e hemem d hdmem hkey
        have hmessages := hsymbolic.sameMessages hemem hdmem hsalt
        exact ⟨d, e, hd, hfrom, hsent.initialized, ⟨hmessages.1.symm, hmessages.2.symm⟩,
          Agreement.mirrors_from (Agreement.derives_mirrors hed hdd hmessages hmaterial)
            e.session_from hfrom, hsent.sent⟩

namespace Agreement

theorem sample_symbolic : Symbolic Sample.pairing.backend Sample.network.derivations :=
  ⟨fun _ => Sodium.sample.sha256_length _, by decide +kernel, by decide +kernel, by decide +kernel,
    by decide +kernel⟩

/-- In the sample exchange both parties activate their session. -/
theorem handshake_agreement_sample :
    ∃ before after session, Sample.network.log = before ++ (.initiator, .activated session) ::
        after ∧
      ∃ session', (.responder, .activated session') ∈ before ∧ Mirrors session session' := by
  have hlog : Sample.network.log = Sample.network.log.take 19 ++
      (.initiator, .activated Sample.network.initiator.layer.base.active) ::
        Sample.network.log.drop 20 := by
    decide +kernel
  obtain ⟨-, -, session', -, -, -, -, hactivated, -, hmirrors⟩ :=
    (handshake_agreement Sample.pairing Sample.network_run sample_symbolic (by decide +kernel)).1
      _ _ _ hlog
  exact ⟨_, _, _, hlog, session', hactivated, hmirrors⟩

end Agreement

end Ssp21
