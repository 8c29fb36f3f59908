import Ssp21.Crypto.Network

/-!
# Acceptance over an arbitrary network

Under one receive key a layer accepts at most one auth message, which comes first, and
then messages with rising nonces.  With strict increments there is no gap between them.

The nonce of a session stays zero when its auth message is accepted, so the nonce check
would let a second one through.  That there is none rests on the slots: auth messages are
only given to the pending session, and acceptance makes it the active one.

A message without user data is refused after its nonce was taken over and would leave a
gap.  No party sends one behind the auth message, and an unforged tag belongs to a
message that a party has sent (`Laden`).  A layer that decrypts into a buffer without
room (`SessionMode.Blind`) reads every message as empty and never leaves the first nonce.
-/

namespace Ssp21

open Wire

/-- The keys and messages that passed all checks, in order. -/
def acceptances (history : List Observation) : List (Bytes × SessionData) :=
  history.filterMap (fun | .accepted key msg _ => some (key, msg) | _ => none)

/-- The key and the nonce of an accepted message. -/
def acceptedPairs (history : List Observation) : List (Bytes × Nat) :=
  (acceptances history).map (fun entry => (entry.1, entry.2.metadata.nonce.toNat))

/-- The nonces that were accepted under a key. -/
def acceptedNonces (key : Bytes) (history : List Observation) : List Nat :=
  History.valuesAt key (acceptedPairs history)

/-- Messages behind the auth message carry user data. -/
def Laden (history : List Observation) : Prop :=
  ∀ key msg, .verified key msg ∈ history → msg.metadata.nonce ≠ 0 → msg.userData ≠ []

namespace Acceptance

/-- The key and the nonce of one message that passed all checks. -/
def acceptedPair : Observation → Option (Bytes × Nat)
  | .accepted key msg _ => some (key, msg.metadata.nonce.toNat)
  | _ => none

theorem acceptedPairs_eq (history : List Observation) :
    acceptedPairs history = history.filterMap acceptedPair := by
  rw [acceptedPairs, acceptances, List.map_filterMap]
  congr 1
  funext o
  cases o <;> rfl

theorem acceptedPair_plain {o : Observation} (hplain : o.plain = true) : acceptedPair o = none := by
  cases o with
  | accepted key msg payload => cases hplain
  | _ => rfl

/-! ## The nonces of one session -/

/-- Nonces that rise from zero, within the limit and according to the nonce mode of a
session. -/
structure Rising (d : Derivation) (nonces : List Nat) : Prop where
  sorted : nonces.Pairwise (· < ·)
  first : ∀ nonce ∈ nonces.head?, nonce = 0
  bounded : ∀ nonce ∈ nonces, nonce ≤ d.session.parameters.maxNonce.toNat
  gapless : d.session.algorithms.verifyNonce = .strictIncrement → nonces = List.range nonces.length

theorem Rising.nil (d : Derivation) : Rising d [] :=
  ⟨List.Pairwise.nil, nofun, nofun, fun _ => rfl⟩

/-- The auth message. -/
theorem Rising.auth (d : Derivation) : Rising d [0] := by
  refine ⟨List.pairwise_singleton _ _, ?_, ?_, fun _ => rfl⟩
  · rintro nonce ⟨⟩
    rfl
  · intro nonce hmem
    rw [List.mem_singleton.mp hmem]
    exact Nat.zero_le _

/-- What the nonce check of either mode says. -/
theorem verify_rises {mode : SessionNonceMode} {last next : UInt16}
    (hverify : mode.verify last next = true) :
    last.toNat < next.toNat ∧ (mode = .strictIncrement → next.toNat = last.toNat + 1) := by
  cases mode with
  | strictIncrement =>
      simp only [SessionNonceMode.verify, SessionNonceMode.verifyStrictIncrement] at hverify
      split_ifs at hverify with hmax
      have hnext : next = last + 1 := by simpa using hverify
      have hlt := last.toNat_lt
      have hne : last.toNat ≠ 65535 := fun heq => hmax (UInt16.toNat_inj.mp heq)
      have hsucc : next.toNat = last.toNat + 1 := by
        rw [hnext, UInt16.toNat_add]
        simp only [UInt16.reduceToNat]
        omega
      exact ⟨by omega, fun _ => hsucc⟩
  | greaterThanLastRx =>
      have hlt : last < next := by
        simpa [SessionNonceMode.verify, SessionNonceMode.verifyGreaterThanLast] using hverify
      exact ⟨UInt16.lt_iff_toNat_lt.mp hlt, nofun⟩

/-- The next message with data. -/
theorem Rising.next {d : Derivation} {earlier : List Nat} {last next : Nat}
    (hrising : Rising d (earlier ++ [last])) (hlt : last < next)
    (hbound : next ≤ d.session.parameters.maxNonce.toNat)
    (hstrict : d.session.algorithms.verifyNonce = .strictIncrement → next = last + 1) :
    Rising d (earlier ++ [last] ++ [next]) := by
  constructor
  · rw [List.pairwise_append]
    refine ⟨hrising.sorted, List.pairwise_singleton _ _, ?_⟩
    intro nonce hmem next' hnext
    rw [List.mem_singleton.mp hnext]
    rcases List.mem_append.mp hmem with hearlier | hlast
    · have hbefore := (List.pairwise_append.mp hrising.sorted).2.2 nonce hearlier last
        List.mem_cons_self
      omega
    · rw [List.mem_singleton.mp hlast]
      exact hlt
  · intro nonce hhead
    refine hrising.first nonce ?_
    cases earlier <;> exact hhead
  · intro nonce hmem
    rcases List.mem_append.mp hmem with hold | hnew
    · exact hrising.bounded nonce hold
    · rw [List.mem_singleton.mp hnew]
      exact hbound
  · intro hmode
    have hrange := hrising.gapless hmode
    -- the last nonce says how many there are
    have hcount : earlier.length = last := by
      have hlast := congrArg (fun nonces => nonces[earlier.length]?) hrange
      simpa using hlast.symm
    rw [hrange, hstrict hmode]
    simp [hcount, List.range_succ]

/-! ## The invariant -/

/-- The nonces of accepted messages: none under the key of a pending session, and under the key of
the active one its own is the last.  A session that reads into no buffer accepts nothing but its
auth message. -/
def receivingRecord (destLength : Nat) : NonceRecord where
  key := SessionKeys.rxKey
  pick := acceptedPair
  allowed := Rising
  known slot session nonces := match slot with
    | .pending => nonces = []
    | .active => ¬ SessionMode.Blind session.algorithms.sessionMode destLength →
        ∃ earlier, nonces = earlier ++ [session.rxNonce.toNat]

theorem receivingRecord_nonces (destLength : Nat) (key : Bytes) (history : List Observation) :
    (receivingRecord destLength).nonces key history = acceptedNonces key history := by
  rw [acceptedNonces, acceptedPairs_eq]
  rfl

section Moves

variable {cfg : Config} {table table' : SessionTable}

/-- **Every move keeps the accepted nonces in order.** -/
theorem inOrder_move (hkeeps : cfg.ctx.backend.KeepsLength) (hmove : TableMove cfg table table')
    (hseparate : Separate SessionKeys.rxKey table'.trace) (hladen : Laden table'.trace)
    (hkeyed : Keyed SessionKeys.rxKey table)
    (hinOrder : (receivingRecord cfg.ctx.payloadBufferLength).InOrder table) :
    (receivingRecord cfg.ctx.payloadBufferLength).InOrder table' := by
  cases hmove with
  | @note o hplain => exact hinOrder.note hplain (acceptedPair_plain hplain)
  | reset slot => exact hinOrder.reset slot
  | @init d hderives => exact hinOrder.init hseparate rfl (.nil d) rfl
  | send slot =>
      refine hinOrder.of_silent _ rfl (by simp) rfl ?_
      intro slot' hvalid
      refine ⟨slot', ?_, ?_⟩
      · cases slot <;> cases slot' <;> exact hvalid
      · cases slot <;> cases slot' <;> exact ⟨rfl, fun _ => id⟩
  | @activate now msg payload hverified haccepts =>
      obtain ⟨d, hd, hfrom⟩ := hkeyed.origin .pending haccepts.valid
      have hkeys : table.pending.keys = d.session.keys := hfrom.keys
      have hnonce : msg.metadata.nonce = 0 :=
        (SessionNonceMode.equalToZero_iff.mp haccepts.nonce).2
      have hunused : (receivingRecord _).nonces table.pending.keys.rxKey table.trace = [] :=
        hinOrder.held .pending haccepts.valid
      refine hinOrder.grow (separate_of_append hseparate) hd rfl rfl
        (congrArg (fun keys : SessionKeys => [(keys.rxKey, msg.metadata.nonce.toNat)]) hkeys) ?_ ?_
      · change Rising d ((receivingRecord _).nonces d.session.keys.rxKey table.trace ++ _)
        rw [← hkeys, hunused, hnonce]
        exact .auth d
      · intro slot hvalid
        cases slot with
        | active => exact Or.inl ⟨congrArg SessionKeys.rxKey hkeys, fun _ => ⟨_, rfl⟩⟩
        | pending => cases hvalid
  | @accept now msg payload hpayload hnonce hverified haccepts =>
      obtain ⟨d, hd, hfrom⟩ := hkeyed.origin .active haccepts.valid
      have hkeys : table.active.keys = d.session.keys := hfrom.keys
      have halgorithms : table.active.algorithms = d.session.algorithms := hfrom.algorithms
      have hparameters : table.active.parameters = d.session.parameters := hfrom.parameters
      have hsees : ¬ SessionMode.Blind table.active.algorithms.sessionMode
          cfg.ctx.payloadBufferLength :=
        fun hblind =>
          hpayload ((SessionMode.read_eq_nil_iff hkeeps haccepts.authentic).mpr (Or.inr hblind))
      obtain ⟨earlier, hearlier⟩ := hinOrder.held .active haccepts.valid hsees
      have hearlier' : (receivingRecord cfg.ctx.payloadBufferLength).nonces d.session.keys.rxKey
          table.trace = earlier ++ [table.active.rxNonce.toNat] := by
        rw [← hkeys]
        exact hearlier
      obtain ⟨hlt, hstrict⟩ := verify_rises haccepts.nonce
      have hrising : Rising d ((receivingRecord _).nonces d.session.keys.rxKey table.trace) :=
        hinOrder.used d hd
      rw [hearlier'] at hrising
      refine hinOrder.grow (separate_of_append hseparate) hd rfl (by simp)
        (congrArg (fun keys : SessionKeys => [(keys.rxKey, msg.metadata.nonce.toNat)]) hkeys) ?_ ?_
      · change Rising d ((receivingRecord _).nonces d.session.keys.rxKey table.trace ++ _)
        rw [hearlier']
        refine hrising.next hlt ?_ (halgorithms ▸ hstrict)
        rw [← hparameters]
        exact UInt16.le_iff_toNat_le.mp haccepts.belowMax
      · intro slot hvalid
        cases slot with
        | active => exact Or.inl ⟨congrArg SessionKeys.rxKey hkeys, fun _ => ⟨_, rfl⟩⟩
        | pending => exact Or.inr ⟨hkeys ▸ hkeyed.apart haccepts.valid hvalid, hvalid, rfl⟩
  | @consume now msg hnonce hverified haccepts =>
      -- an unforged message behind the auth message is not empty
      have hblind : SessionMode.Blind table.active.algorithms.sessionMode
          cfg.ctx.payloadBufferLength :=
        ((SessionMode.read_eq_nil_iff hkeeps haccepts.authentic).mp rfl).resolve_left
          (hladen _ _ hverified hnonce)
      refine hinOrder.of_silent [] (List.append_nil _).symm rfl rfl ?_
      intro slot hvalid
      cases slot with
      | active => exact ⟨.active, haccepts.valid, rfl, fun _ _ hsees => absurd hblind hsees⟩
      | pending => exact ⟨.pending, hvalid, rfl, fun _ => id⟩

/-- **The accepted nonces of a run are in order.** -/
theorem inOrder_run (hkeeps : cfg.ctx.backend.KeepsLength) {labels : List Label}
    {machine : Machine} (hrun : Machine.create.run cfg labels = some machine)
    (hseparate : Separate SessionKeys.rxKey machine.layer.base.trace)
    (hladen : Laden machine.layer.base.trace) :
    (receivingRecord cfg.ctx.payloadBufferLength).InOrder machine.snapshot.table := by
  have hboth := Machine.run_invariant_of_tableMove
    (P := fun table => Keyed SessionKeys.rxKey table ∧
      (receivingRecord cfg.ctx.payloadBufferLength).InOrder table)
    (C := fun history => Separate SessionKeys.rxKey history ∧ Laden history)
    (fun _ _ hcond => ⟨separate_of_append hcond.1,
      fun key msg hmem => hcond.2 key msg (List.mem_append_left _ hmem)⟩)
    (fun _ _ hmove hcond hinv => ⟨keyed_move hmove hcond.1 hinv.1,
      inOrder_move hkeeps hmove hcond.1 hcond.2 hinv.1 hinv.2⟩)
    hrun
    ⟨keyed_create _, fun _ _ => rfl, nofun,
      fun slot hvalid => absurd hvalid (Machine.create_invalid slot)⟩ ⟨hseparate, hladen⟩
  exact hboth.2

/-! ## Where accepted messages come from -/

theorem seals_plain {o : Observation} (hplain : o.plain = true) (key : Bytes) :
    o.seals key = none := by
  cases o with
  | transmit transmission =>
      obtain ⟨frame, written, content⟩ := transmission
      cases content with
      | session key' formatted => cases hplain
      | _ => rfl
  | refused transmission => cases hplain
  | _ => rfl

/-- A message behind the auth message that is sent carries data. -/
theorem formats_laden (hkeeps : cfg.ctx.backend.KeepsLength) {session : Session} {now : Time}
    {cleartext rest : Bytes} {formatted : Session.Formatted}
    (hdata : session.txNonce ≠ 0 → cleartext ≠ [])
    (hformats : Session.Formats cfg.ctx session now cleartext rest formatted)
    (hnonce : formatted.message.metadata.nonce ≠ 0) : formatted.message.userData ≠ [] := by
  rw [hformats.writes.metadata_eq] at hnonce
  have hchunk := hformats.writes.progress (hdata hnonce)
  have hlength := SessionMode.encrypt_length hkeeps hformats.writes.encrypted
  intro hempty
  rw [hempty] at hlength
  exact hchunk (List.length_eq_zero_iff.mp hlength.symm)

/-- What a party has sealed, and what it has accepted. -/
structure Honest (history : List Observation) : Prop where
  sealed : ∀ o ∈ history, ∀ key formatted, o.seals key = some formatted →
    formatted.message.metadata.nonce ≠ 0 → formatted.message.userData ≠ []
  checked : ∀ key msg payload, .accepted key msg payload ∈ history → .verified key msg ∈ history

theorem Honest.append {history new : List Observation} (hhonest : Honest history)
    (hsealed : ∀ o ∈ new, ∀ key formatted, o.seals key = some formatted →
      formatted.message.metadata.nonce ≠ 0 → formatted.message.userData ≠ [])
    (hchecked : ∀ key msg payload, .accepted key msg payload ∈ new → .verified key msg ∈ history) :
    Honest (history ++ new) := by
  constructor
  · intro o hmem
    rcases List.mem_append.mp hmem with hold | hnew
    · exact hhonest.sealed o hold
    · exact hsealed o hnew
  · intro key msg payload hmem
    refine List.mem_append_left _ ?_
    rcases List.mem_append.mp hmem with hold | hnew
    · exact hhonest.checked key msg payload hold
    · exact hchecked key msg payload hnew

theorem honest_move (hkeeps : cfg.ctx.backend.KeepsLength) (hmove : TableMove cfg table table')
    (hhonest : Honest table.trace) : Honest table'.trace := by
  cases hmove with
  | @note o hplain =>
      refine hhonest.append ?_ ?_
      · intro o' hmem key formatted hseals
        rw [List.mem_singleton.mp hmem, seals_plain hplain key] at hseals
        cases hseals
      · intro key msg payload hmem
        rw [← List.mem_singleton.mp hmem] at hplain
        cases hplain
  | reset slot => cases slot <;> exact hhonest
  | init hderives => exact hhonest.append (by simp [Observation.seals]) (by simp)
  | @send slot now cleartext rest formatted hslot hnonce hdata hformats =>
      refine hhonest.append ?_ (by simp)
      intro o hmem key formatted' hseals hne
      rw [List.mem_singleton.mp hmem] at hseals
      simp only [Observation.seals, CryptoLayer.sessionTransmission] at hseals
      split_ifs at hseals
      cases hseals
      exact formats_laden hkeeps hdata hformats hne
  | activate hverified haccepts =>
      refine hhonest.append (by simp [Observation.seals]) ?_
      intro key msg payload hmem
      obtain ⟨rfl, rfl, rfl⟩ : _ ∧ _ ∧ _ := by simpa using hmem
      exact hverified
  | accept hpayload hnonce hverified haccepts =>
      refine hhonest.append (by simp [Observation.seals]) ?_
      intro key msg payload hmem
      obtain ⟨rfl, rfl, rfl⟩ : _ ∧ _ ∧ _ := by simpa using hmem
      exact hverified
  | consume => exact hhonest

theorem honest_run (hkeeps : cfg.ctx.backend.KeepsLength) {labels : List Label} {machine : Machine}
    (hrun : Machine.create.run cfg labels = some machine) : Honest machine.layer.base.trace :=
  Machine.run_invariant_of_tableMove (P := fun table => Honest table.trace) (C := fun _ => True)
    (fun _ _ _ => trivial) (fun _ _ hmove _ => honest_move hkeeps hmove) hrun ⟨nofun, nofun⟩ trivial

end Moves

/-! ## Two parties -/

section Parties

variable {pairing : Pairing} {labels : List (Party × Label)} {network : Network}

/-- Unforged messages behind the auth message carry data. -/
theorem laden (hrun : Network.create.run pairing labels = some network)
    (hkeeps : pairing.backend.KeepsLength) (hideal : Unforgeable network.log) (party : Party) :
    Laden (network.trace party) := by
  intro key msg hverified hnonce
  obtain ⟨formatted, hproduced, hmetadata, hdata⟩ :=
    hideal.sealed ((Network.mem_trace hrun).mp hverified)
  obtain ⟨sender, o, hmem, hseals⟩ := mem_produced hproduced
  obtain ⟨labels', hrun'⟩ := (Network.reached_run hrun sender).run
  have hhonest := honest_run (by rw [pairing.config_backend]; exact hkeeps) hrun'
  rw [← hdata]
  refine hhonest.sealed o ((Network.mem_trace hrun).mpr hmem) key formatted hseals ?_
  rw [hmetadata]
  exact hnonce

end Parties

end Acceptance

/-- **At most once, and in order.**  An initiator and a responder run over a network that
may do anything to their messages.  Fresh values do not repeat, handshakes with different
messages give different receive keys, and tags cannot be forged.  Then for each party:

* what it accepts was sealed under the same key, and a sealed message is accepted at most
  once;
* in each of its sessions the accepted nonces are zero, for the auth message, and then
  strictly increasing up to the limit; with strict increments they are `1, 2, ..., k`. -/
theorem accepted_at_most_once (pairing : Pairing) {labels : List (Party × Label)}
    {network : Network} (hrun : Network.create.run pairing labels = some network)
    (hkeeps : pairing.backend.KeepsLength)
    (hdrawn : ∀ party, (drawn (network.trace party)).Nodup)
    (hkdf : ∀ party, ∀ d ∈ derivations (network.trace party),
      ∀ e ∈ derivations (network.trace party), ¬ d.SameMessages e →
        d.session.keys.rxKey ≠ e.session.keys.rxKey)
    (hideal : Unforgeable network.log) (party : Party) :
    (∀ entry ∈ acceptances (network.trace party), ∃ formatted ∈ produced entry.1 network.log,
      formatted.message.metadata = entry.2.metadata ∧
        formatted.message.userData = entry.2.userData) ∧
    (∀ key, ∀ formatted ∈ produced key network.log,
      ((acceptances (network.trace party)).filter (fun entry =>
        entry.1 = key ∧ entry.2.metadata.nonce = formatted.message.metadata.nonce)).length ≤ 1) ∧
    ∀ d ∈ derivations (network.trace party),
      acceptedNonces d.session.keys.rxKey (network.trace party) = [] ∨
        ∃ nonces, acceptedNonces d.session.keys.rxKey (network.trace party) = 0 :: nonces ∧
          (0 :: nonces).Pairwise (· < ·) ∧
          (∀ nonce ∈ nonces, nonce ≤ d.session.parameters.maxNonce.toNat) ∧
          (d.session.algorithms.verifyNonce = .strictIncrement →
            ∃ k ≤ d.session.parameters.maxNonce.toNat, nonces = List.range' 1 k) := by
  have hkeeps' : (pairing.config party).ctx.backend.KeepsLength := by
    rw [pairing.config_backend]
    exact hkeeps
  obtain ⟨labels', hrun'⟩ := (Network.reached_run hrun party).run
  have hinOrder := Acceptance.inOrder_run hkeeps' hrun'
    (separate_run hrun' (hdrawn party) (hkdf party)) (Acceptance.laden hrun hkeeps hideal party)
  have hrising : ∀ d ∈ derivations (network.trace party),
      Acceptance.Rising d (acceptedNonces d.session.keys.rxKey (network.trace party)) := by
    intro d hd
    rw [← Acceptance.receivingRecord_nonces]
    exact hinOrder.used d hd
  refine ⟨?_, ?_, ?_⟩
  · intro entry hentry
    obtain ⟨o, ho, hsome⟩ := List.mem_filterMap.mp hentry
    cases o <;> cases hsome
    rename_i key msg payload
    have hchecked := (Acceptance.honest_run hkeeps' hrun').checked key msg payload ho
    exact hideal.sealed ((Network.mem_trace hrun).mp hchecked)
  · intro key formatted _
    have hnodup : (acceptedPairs (network.trace party)).Nodup := by
      refine History.nodup_of_valuesAt ?_
      intro key
      change (acceptedNonces key (network.trace party)).Nodup
      by_cases hexists : ∃ d ∈ derivations (network.trace party), d.session.keys.rxKey = key
      · obtain ⟨d, hd, rfl⟩ := hexists
        exact (hrising d hd).sorted.imp (fun hlt => Nat.ne_of_lt hlt)
      · have hempty := hinOrder.unused key (fun d hd hkey => hexists ⟨d, hd, hkey⟩)
        rw [Acceptance.receivingRecord_nonces] at hempty
        change acceptedNonces key (network.trace party) = [] at hempty
        rw [hempty]
        exact List.nodup_nil
    refine History.length_filter_le_one hnodup (b := (key,
      formatted.message.metadata.nonce.toNat)) ?_
    intro entry hselected
    obtain ⟨hkey, hnonce⟩ : entry.1 = key ∧ _ := by simpa using hselected
    rw [hkey, hnonce]
  · intro d hd
    have hd' := hrising d hd
    cases hnonces : acceptedNonces d.session.keys.rxKey (network.trace party) with
    | nil => exact Or.inl rfl
    | cons first nonces =>
        rw [hnonces] at hd'
        obtain rfl : first = 0 := hd'.first first rfl
        have hbounded : ∀ nonce ∈ nonces, nonce ≤ d.session.parameters.maxNonce.toNat :=
          fun nonce hmem => hd'.bounded nonce (List.mem_cons_of_mem _ hmem)
        refine Or.inr ⟨nonces, rfl, hd'.sorted, hbounded, ?_⟩
        intro hstrict
        have hrange := hd'.gapless hstrict
        rw [List.length_cons, List.range_eq_range', List.range'_succ] at hrange
        have htail : nonces = List.range' 1 nonces.length := (List.cons.inj hrange).2
        refine ⟨nonces.length, ?_, htail⟩
        -- the largest of the nonces is their number
        by_cases hempty : nonces.length = 0
        · omega
        · refine hbounded nonces.length ?_
          rw [htail, List.mem_range'_1]
          simp
          omega

namespace Acceptance

/-- The responder is given its auth message twice and accepts it once. -/
theorem accepted_at_most_once_sample :
    (produced (Sample.network.responder.layer.base.active.keys.rxKey) Sample.network.log).length =
      1 ∧
      ∀ formatted ∈ produced (Sample.network.responder.layer.base.active.keys.rxKey)
          Sample.network.log,
        ((acceptances (Sample.network.trace .responder)).filter (fun entry =>
          entry.1 = Sample.network.responder.layer.base.active.keys.rxKey ∧
            entry.2.metadata.nonce = formatted.message.metadata.nonce)).length ≤ 1 := by
  refine ⟨by decide +kernel, ?_⟩
  refine (accepted_at_most_once Sample.pairing Sample.network_run
    (Sodium.backend_keepsLength Sodium.sample []) ?_ ?_ (by decide +kernel) .responder).2.1 _
  · intro party
    cases party <;> decide +kernel
  · intro party
    cases party <;> decide +kernel

end Acceptance

end Ssp21
