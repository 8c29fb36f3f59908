import Ssp21.Crypto.Provenance

/-!
# Keys and nonces of sent messages

Under one transmit key the nonces `0, 1, 2, ...` go out in order, each once, and no
more than the session allows.

The counter of a session starts at zero with its initialization and counts up with
every message that is sent, from either slot.  `sendingRecord` relates the history to the
counters; a key that no session holds any longer keeps the nonces that it had.
-/

namespace Ssp21

open Wire

/-- The transmit key and the nonce of a message that was handed to the lower layer,
whether it was accepted there or not. -/
def Observation.sealed : Observation → Option (Bytes × Nat)
  | .transmit ⟨_, _, .session key formatted⟩ => some (key, formatted.message.metadata.nonce.toNat)
  | .refused ⟨_, _, .session key formatted⟩ => some (key, formatted.message.metadata.nonce.toNat)
  | _ => none

/-- The keys and nonces of all session messages, in the order of transmission. -/
def sealedPairs (history : List Observation) : List (Bytes × Nat) :=
  history.filterMap Observation.sealed

/-- The nonces that were sent under a key. -/
def sentNonces (key : Bytes) (history : List Observation) : List Nat :=
  History.valuesAt key (sealedPairs history)

/-- How many messages a session may send: its auth message needs no room below the
limit. -/
def Derivation.capacity (d : Derivation) : Nat :=
  max 1 d.session.parameters.maxNonce.toNat

namespace Nonces

theorem sealed_plain {o : Observation} (hplain : o.plain = true) : o.sealed = none := by
  cases o with
  | transmit transmission =>
      obtain ⟨frame, written, content⟩ := transmission
      cases content with
      | session key formatted => cases hplain
      | _ => rfl
  | refused transmission => cases hplain
  | _ => rfl

/-- A message of a session carries its key and its counter. -/
theorem sealedPairs_message {ctx : SessionContext} {session : Session} {now : Time}
    {cleartext rest : Bytes} {formatted : Session.Formatted}
    (hformats : Session.Formats ctx session now cleartext rest formatted) :
    sealedPairs [.transmit (CryptoLayer.sessionTransmission session formatted)] =
      [(session.keys.txKey, session.txNonce.toNat)] := by
  have hnonce : formatted.message.metadata.nonce = session.txNonce := by
    rw [hformats.writes.metadata_eq]
    rfl
  simp [sealedPairs, Observation.sealed, CryptoLayer.sessionTransmission, hnonce]

/-! ## The invariant -/

/-- The nonces of sent messages: those under a key count up from zero, and a session with the key
holds the next one. -/
def sendingRecord : NonceRecord where
  key := SessionKeys.txKey
  pick := Observation.sealed
  allowed d nonces := ∃ count, count ≤ d.capacity ∧ nonces = List.range count
  known _ session nonces := nonces = List.range session.txNonce.toNat

section Moves

variable {cfg : Config} {table table' : SessionTable}

/-- The counter does not wrap. -/
theorem toNat_succ {nonce limit : UInt16} (hnonce : nonce = 0 ∨ nonce < limit) :
    (nonce + 1).toNat = nonce.toNat + 1 ∧ nonce.toNat + 1 ≤ max 1 limit.toNat := by
  rcases hnonce with rfl | hlt
  · simp
  · have hlt' : nonce.toNat < limit.toNat := UInt16.lt_iff_toNat_lt.mp hlt
    have hlimit := limit.toNat_lt
    rw [UInt16.toNat_add]
    simp only [UInt16.reduceToNat]
    omega

/-- A message that is sent takes the next nonce of its key. -/
theorem inOrder_send {slot : Slot} {now : Time} {cleartext rest : Bytes}
    {formatted : Session.Formatted}
    (hseparate : Separate SessionKeys.txKey table.trace) (hkeyed : Keyed SessionKeys.txKey table)
    (hnonce : (table.session slot).txNonce = 0 ∨
      (table.session slot).txNonce < (table.session slot).parameters.maxNonce)
    (hformats : Session.Formats cfg.ctx (table.session slot) now cleartext rest formatted)
    (hinOrder : sendingRecord.InOrder table) :
    sendingRecord.InOrder { table.setSession slot { table.session slot with
        txNonce := (table.session slot).txNonce + 1 } with
      trace := table.trace ++
        [.transmit (CryptoLayer.sessionTransmission (table.session slot) formatted)] } := by
  obtain ⟨hsucc, hbound⟩ := toNat_succ hnonce
  obtain ⟨d, hd, hfrom⟩ := hkeyed.origin slot hformats.valid
  have hkey : (table.session slot).keys.txKey = d.session.keys.txKey := by rw [hfrom.keys]
  have hnext : sendingRecord.nonces d.session.keys.txKey table.trace ++
      [(table.session slot).txNonce.toNat] =
        List.range ((table.session slot).txNonce.toNat + 1) := by
    have hcounted : sendingRecord.nonces (table.session slot).keys.txKey table.trace = _ :=
      hinOrder.held slot hformats.valid
    rw [← hkey, hcounted, List.range_succ]
  refine hinOrder.grow hseparate hd rfl (by simp)
    ((sealedPairs_message hformats).trans (by rw [hkey]; rfl)) ?_ ?_
  · -- the session's own derivation bounds the counter
    refine ⟨_, ?_, hnext⟩
    rw [Derivation.capacity, ← hfrom.parameters]
    exact hbound
  · intro slot' hvalid
    by_cases hslot : slot' = slot
    · subst hslot
      refine Or.inl ⟨by cases slot' <;> exact hkey, ?_⟩
      refine hnext.trans ?_
      rw [← hsucc]
      cases slot' <;> rfl
    · refine Or.inr ?_
      cases slot <;> cases slot'
      · exact absurd rfl hslot
      · exact ⟨fun heq => hkeyed.apart hformats.valid hvalid (hkey.trans heq), hvalid, rfl⟩
      · exact ⟨fun heq => hkeyed.apart hvalid hformats.valid (hkey.trans heq).symm, hvalid, rfl⟩
      · exact absurd rfl hslot

/-- **Every move keeps the nonces in order.** -/
theorem inOrder_move (hmove : TableMove cfg table table')
    (hseparate : Separate SessionKeys.txKey table'.trace) (hkeyed : Keyed SessionKeys.txKey table)
    (hinOrder : sendingRecord.InOrder table) : sendingRecord.InOrder table' := by
  cases hmove with
  | @note o hplain => exact hinOrder.note hplain (sealed_plain hplain)
  | reset slot => exact hinOrder.reset slot
  | @init d hderives =>
      refine hinOrder.init hseparate rfl ⟨0, Nat.zero_le _, rfl⟩ ?_
      change [] = List.range d.session.txNonce.toNat
      rw [hderives.fresh.2.2]
      rfl
  | @send slot now cleartext rest formatted hslot hnonce hdata hformats =>
      exact inOrder_send (separate_of_append hseparate) hkeyed hnonce hformats hinOrder
  | activate hverified haccepts =>
      refine hinOrder.of_silent _ rfl rfl rfl ?_
      intro slot hvalid
      cases slot with
      | active => exact ⟨.pending, haccepts.valid, rfl, fun _ => id⟩
      | pending => cases hvalid
  | accept hpayload hnonce hverified haccepts =>
      refine hinOrder.of_silent _ rfl (by simp) rfl ?_
      intro slot hvalid
      cases slot with
      | active => exact ⟨.active, haccepts.valid, rfl, fun _ => id⟩
      | pending => exact ⟨.pending, hvalid, rfl, fun _ => id⟩
  | consume hnonce hverified haccepts =>
      refine hinOrder.of_silent [] (List.append_nil _).symm rfl rfl ?_
      intro slot hvalid
      cases slot with
      | active => exact ⟨.active, haccepts.valid, rfl, fun _ => id⟩
      | pending => exact ⟨.pending, hvalid, rfl, fun _ => id⟩

/-- **The nonces of a run are in order.** -/
theorem inOrder_run {labels : List Label} {machine : Machine}
    (hrun : Machine.create.run cfg labels = some machine)
    (hseparate : Separate SessionKeys.txKey machine.layer.base.trace) :
    sendingRecord.InOrder machine.snapshot.table := by
  have hboth := Machine.run_invariant_of_tableMove
    (P := fun table => Keyed SessionKeys.txKey table ∧ sendingRecord.InOrder table)
    (fun _ _ => separate_of_append)
    (fun _ _ hmove hseparate hinv =>
      ⟨keyed_move hmove hseparate hinv.1, inOrder_move hmove hseparate hinv.1 hinv.2⟩)
    hrun
    ⟨keyed_create _, fun _ _ => rfl, nofun,
      fun slot hvalid => absurd hvalid (Machine.create_invalid slot)⟩ hseparate
  exact hboth.2

end Moves

end Nonces

/-- **No key and nonce is used twice.**  If fresh values do not repeat and handshakes with
different messages give different transmit keys, then over every run of a layer no two
frames carry messages with the same transmit key and nonce.  Under each key the nonces are
`0, 1, 2, ...` in order, at most as many as the session that the key belongs to allows. -/
theorem nonces_never_reused (cfg : Config) {labels : List Label} {machine : Machine}
    (hrun : Machine.create.run cfg labels = some machine)
    (hdrawn : (drawn machine.layer.base.trace).Nodup)
    (hkdf : ∀ d ∈ derivations machine.layer.base.trace,
      ∀ e ∈ derivations machine.layer.base.trace, ¬ d.SameMessages e →
        d.session.keys.txKey ≠ e.session.keys.txKey) :
    (sealedPairs machine.layer.base.trace).Nodup ∧
      ∀ key, sentNonces key machine.layer.base.trace = [] ∨
        ∃ d ∈ derivations machine.layer.base.trace, d.session.keys.txKey = key ∧
          ∃ count, count ≤ max 1 d.session.parameters.maxNonce.toNat ∧
            sentNonces key machine.layer.base.trace = List.range count := by
  have hinOrder := Nonces.inOrder_run hrun (separate_run hrun hdrawn hkdf)
  have hkeys : ∀ key, sentNonces key machine.layer.base.trace = [] ∨
      ∃ d ∈ derivations machine.layer.base.trace, d.session.keys.txKey = key ∧
        ∃ count, count ≤ max 1 d.session.parameters.maxNonce.toNat ∧
          sentNonces key machine.layer.base.trace = List.range count := by
    intro key
    by_cases hexists : ∃ d ∈ derivations machine.layer.base.trace, d.session.keys.txKey = key
    · obtain ⟨d, hd, rfl⟩ := hexists
      exact Or.inr ⟨d, hd, rfl, hinOrder.used d hd⟩
    · exact Or.inl (hinOrder.unused key (fun d hd hkey => hexists ⟨d, hd, hkey⟩))
  refine ⟨History.nodup_of_valuesAt ?_, hkeys⟩
  intro key
  change (sentNonces key machine.layer.base.trace).Nodup
  rcases hkeys key with hempty | ⟨d, -, -, count, -, hcount⟩
  · rw [hempty]
    exact List.nodup_nil
  · rw [hcount]
    exact List.nodup_range

namespace Nonces

/-- A responder answers an auth message and then sends data. -/
def sending : List Label :=
  Sample.opening ⟨100, 60000⟩ ++ [.startTx [1, 2, 3], .run (Sample.env 2), .ret,
    .run (Sample.env 2), .run (Sample.env 2), .lowerTxReady (Sample.env 2), .run (Sample.env 2),
    .run (Sample.env 2)]

def sent : Machine := Sample.reached (Sample.responder 1000) sending

theorem nonces_never_reused_sample :
    (sealedPairs sent.layer.base.trace).length = 2 ∧ (sealedPairs sent.layer.base.trace).Nodup :=
  ⟨by decide +kernel,
    (@nonces_never_reused (Sample.responder 1000) sending sent (by decide +kernel)
      (by decide +kernel) (by decide +kernel)).1⟩

end Nonces

end Ssp21
