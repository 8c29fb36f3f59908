import Ssp21.Codec.Certificates

/-!
# What the verification of a chain accepts

`Chain::verify` walks along a chain and hands its result out through a reference.
`verifyPairInto`, `verifyLoop` and `verifyInto` are the functions with these references;
`verifyInto_eq` ties them to `Chain.verify`, which returns a result or an error.

`Signs` lists what a parent certificate and its child owe each other.  `Linked` is a walk
along such links, so that two walks compose (`Linked.append`); `Bodies` is the same walk
with the bodies numbered.  `verify_exact` says that exactly these chains are accepted.
-/

namespace Ssp21.Chain

open Wire

/-! ## The functions with their output parameters -/

section

-- What a read that fails has put into the structure by then.
variable (leftover : Bytes → CertificateBody)

/-- `verify_pair`: the error, and the structure that `child` refers to. -/
def verifyPairInto (verifyEd25519 : Option VerifyDsa) (parent : CertificateBody)
    (childEnvelope : CertificateEnvelope) (child : CertificateBody) :
    HandshakeError × CertificateBody :=
  match tryGetDsaInfo verifyEd25519 parent.publicKeyType with
  | none => (.badCertificateChain, child)
  | some (verify, signatureLength) =>
      if signatureLength ≠ childEnvelope.signature.length then (.badCertificateChain, child)
      else if !verify childEnvelope.certificateBody childEnvelope.signature parent.publicKey then
        (.authenticationError, child)
      else
        match readAll CertificateBody.codec childEnvelope.certificateBody with
        | .error _ => (.badCertificateFormat, leftover childEnvelope.certificateBody)
        | .ok child =>
            if child.validAfter < parent.validAfter then (.badCertificateChain, child)
            else if child.validBefore > parent.validBefore then (.badCertificateChain, child)
            else if child.signingLevel ≥ parent.signingLevel then (.badCertificateChain, child)
            else (.none, child)

/-- The loop of `verify`: the error, and the parent it has got to.  `output` is the
structure that each turn declares. -/
def verifyLoop (verifyEd25519 : Option VerifyDsa) (output : CertificateBody) :
    CertificateBody → List CertificateEnvelope → HandshakeError × CertificateBody
  | parent, [] => (.none, parent)
  | parent, envelope :: envelopes =>
      match verifyPairInto leftover verifyEd25519 parent envelope output with
      | (.none, child) => verifyLoop verifyEd25519 output child envelopes
      | (err, _) => (err, parent)

/-- `verify`: the error, and the structure that `result` refers to. -/
def verifyInto (verifyEd25519 : Option VerifyDsa) (output anchor : CertificateBody)
    (certificates : List CertificateEnvelope) (result : CertificateBody) :
    HandshakeError × CertificateBody :=
  if certificates.length = 0 then (.badCertificateChain, result)
  else
    match verifyLoop leftover verifyEd25519 output anchor certificates with
    | (.none, parent) =>
        if parent.signingLevel ≠ 0 then (.badCertificateChain, result)
        else if !isDhKey parent.publicKeyType then (.badCertificateChain, result)
        else (.none, parent)
    | (err, _) => (err, result)

end

variable {verifyEd25519 : Option VerifyDsa} {leftover : Bytes → CertificateBody}

/-! ## A link -/

/-- The conditions under which a parent vouches for the certificate in an envelope. -/
structure Signs (verifyEd25519 : Option VerifyDsa) (parent : CertificateBody)
    (envelope : CertificateEnvelope) (child : CertificateBody) : Prop where
  key : parent.publicKeyType = .ed25519
  signature_length : envelope.signature.length = ed25519SignatureLength
  verified : ∃ verify, verifyEd25519 = some verify ∧
    verify envelope.certificateBody envelope.signature parent.publicKey = true
  body : readAll CertificateBody.codec envelope.certificateBody = .ok child
  valid_after : parent.validAfter ≤ child.validAfter
  valid_before : child.validBefore ≤ parent.validBefore
  level : child.signingLevel < parent.signingLevel

theorem tryGetDsaInfo_eq_some {type : PublicKeyType} {verify : VerifyDsa} {signatureLength : Nat}
    (hinfo : tryGetDsaInfo verifyEd25519 type = some (verify, signatureLength)) :
    type = .ed25519 ∧ verifyEd25519 = some verify ∧ signatureLength = ed25519SignatureLength := by
  cases type with
  | x25519 => cases hinfo
  | ed25519 =>
      obtain ⟨verify', hsome, hpair⟩ := Option.map_eq_some_iff.mp hinfo
      cases hpair
      exact ⟨rfl, hsome, rfl⟩

/-- The two results of a check of a pair, with what is left in the output. -/
inductive PairChecked (verifyEd25519 : Option VerifyDsa) (parent : CertificateBody)
    (envelope : CertificateEnvelope) :
    Except HandshakeError CertificateBody → HandshakeError × CertificateBody → Prop
  | signed {child : CertificateBody} (hsigns : Signs verifyEd25519 parent envelope child) :
      PairChecked verifyEd25519 parent envelope (.ok child) (.none, child)
  | refused {err : HandshakeError} (left : CertificateBody) (herr : err ≠ .none)
      (hsigns : ∀ child, ¬ Signs verifyEd25519 parent envelope child) :
      PairChecked verifyEd25519 parent envelope (.error err) (err, left)

theorem verifyPair_checked (verifyEd25519 : Option VerifyDsa) (parent : CertificateBody)
    (envelope : CertificateEnvelope) (output : CertificateBody) :
    PairChecked verifyEd25519 parent envelope (verifyPair verifyEd25519 parent envelope)
      (verifyPairInto leftover verifyEd25519 parent envelope output) := by
  rw [verifyPair, verifyPairInto]
  cases hinfo : tryGetDsaInfo verifyEd25519 parent.publicKeyType with
  | none =>
      refine .refused output (by decide) fun child h => ?_
      obtain ⟨verify, rfl, -⟩ := h.verified
      rw [h.key] at hinfo
      cases hinfo
  | some info =>
      obtain ⟨verify, signatureLength⟩ := info
      obtain ⟨hkey, rfl, rfl⟩ := tryGetDsaInfo_eq_some hinfo
      simp only
      split_ifs with hlength hverify
      · exact .refused output (by decide) fun child h => hlength h.signature_length.symm
      · refine .refused output (by decide) fun child h => ?_
        obtain ⟨verify', heq, hverified⟩ := h.verified
        cases heq
        simp [hverified] at hverify
      cases hread : readAll CertificateBody.codec envelope.certificateBody with
      | error e =>
          refine .refused _ (by decide) fun child h => ?_
          rw [h.body] at hread
          cases hread
      | ok body =>
          have hbody : ∀ child, Signs (some verify) parent envelope child → child = body := by
            intro child h
            exact Except.ok.inj (h.body.symm.trans hread)
          simp only
          split_ifs with hafter hbefore hlevel
          · refine .refused body (by decide) fun child h => ?_
            rw [← hbody child h] at hafter
            exact UInt64.not_lt.mpr h.valid_after hafter
          · refine .refused body (by decide) fun child h => ?_
            rw [← hbody child h] at hbefore
            exact UInt64.not_lt.mpr h.valid_before hbefore
          · refine .refused body (by decide) fun child h => ?_
            rw [← hbody child h] at hlevel
            exact UInt8.not_lt.mpr hlevel h.level
          · exact .signed ⟨hkey, (not_not.mp hlength).symm, ⟨verify, rfl, by simpa using hverify⟩,
              hread, UInt64.not_lt.mp hafter, UInt64.not_lt.mp hbefore, UInt8.not_le.mp hlevel⟩

theorem verifyPair_iff {parent child : CertificateBody} {envelope : CertificateEnvelope} :
    verifyPair verifyEd25519 parent envelope = .ok child ↔
      Signs verifyEd25519 parent envelope child := by
  have hchecked := @verifyPair_checked (fun _ => parent) verifyEd25519 parent envelope parent
  generalize verifyPair verifyEd25519 parent envelope = outcome at hchecked ⊢
  generalize verifyPairInto _ verifyEd25519 parent envelope parent = written at hchecked
  cases hchecked with
  | signed hsigns =>
      constructor
      · rintro ⟨⟩
        exact hsigns
      · intro h
        rw [Except.ok.inj (hsigns.body.symm.trans h.body)]
  | refused left herr hsigns => exact ⟨fun h => (nomatch h), fun h => absurd h (hsigns child)⟩

/-! ## A walk -/

/-- A walk along links, from a parent over some envelopes to the last body. -/
inductive Linked (verifyEd25519 : Option VerifyDsa) :
    CertificateBody → List CertificateEnvelope → CertificateBody → Prop
  | nil (parent : CertificateBody) : Linked verifyEd25519 parent [] parent
  | cons {parent child last : CertificateBody} {envelope : CertificateEnvelope}
      {envelopes : List CertificateEnvelope} (hsigns : Signs verifyEd25519 parent envelope child)
      (hrest : Linked verifyEd25519 child envelopes last) :
      Linked verifyEd25519 parent (envelope :: envelopes) last

theorem verifyFrom_iff_linked {parent last : CertificateBody}
    {envelopes : List CertificateEnvelope} :
    verifyFrom verifyEd25519 parent envelopes = .ok last ↔
      Linked verifyEd25519 parent envelopes last := by
  induction envelopes generalizing parent with
  | nil =>
      constructor
      · rintro ⟨⟩
        exact .nil _
      · rintro ⟨⟩
        rfl
  | cons envelope envelopes ih =>
      simp only [verifyFrom]
      constructor
      · intro h
        split at h
        · cases h
        · rename_i child hpair
          exact .cons (verifyPair_iff.mp hpair) (ih.mp h)
      · rintro (_ | ⟨hsigns, hrest⟩)
        rw [verifyPair_iff.mpr hsigns]
        exact ih.mpr hrest

/-- Two walks make one. -/
theorem Linked.append {parent middle last : CertificateBody}
    {front back : List CertificateEnvelope} (hfront : Linked verifyEd25519 parent front middle)
    (hback : Linked verifyEd25519 middle back last) :
    Linked verifyEd25519 parent (front ++ back) last := by
  induction hfront with
  | nil parent => exact hback
  | cons hsigns _ ih => exact .cons hsigns (ih hback)

/-- Each link takes a signing level. -/
theorem Linked.level {parent last : CertificateBody} {envelopes : List CertificateEnvelope}
    (h : Linked verifyEd25519 parent envelopes last) :
    last.signingLevel.toNat + envelopes.length ≤ parent.signingLevel.toNat := by
  induction h with
  | nil parent => simp
  | cons hsigns _ ih =>
      have hlevel := UInt8.lt_iff_toNat_lt.mp hsigns.level
      simp only [List.length_cons]
      omega

/-- Validity only shrinks along the links. -/
theorem Linked.validity {parent last : CertificateBody} {envelopes : List CertificateEnvelope}
    (h : Linked verifyEd25519 parent envelopes last) :
    parent.validAfter ≤ last.validAfter ∧ last.validBefore ≤ parent.validBefore := by
  induction h with
  | nil parent => exact ⟨UInt64.le_refl _, UInt64.le_refl _⟩
  | cons hsigns _ ih =>
      exact ⟨UInt64.le_trans hsigns.valid_after ih.1, UInt64.le_trans ih.2 hsigns.valid_before⟩

/-- Bodies for the certificates of a chain: number 0 is the anchor, and each one vouches for
the next. -/
structure Bodies (verifyEd25519 : Option VerifyDsa) (anchor : CertificateBody)
    (certificates : List CertificateEnvelope) (bodies : Nat → CertificateBody) : Prop where
  anchor : bodies 0 = anchor
  signs : ∀ i (hi : i < certificates.length),
    Signs verifyEd25519 (bodies i) (certificates.get ⟨i, hi⟩) (bodies (i + 1))

theorem linked_iff_bodies {parent last : CertificateBody} {envelopes : List CertificateEnvelope} :
    Linked verifyEd25519 parent envelopes last ↔
      ∃ bodies, Bodies verifyEd25519 parent envelopes bodies ∧ bodies envelopes.length = last := by
  constructor
  · intro h
    induction h with
    | nil parent => exact ⟨fun _ => parent, ⟨rfl, fun i hi => absurd hi (Nat.not_lt_zero i)⟩, rfl⟩
    | cons hsigns _ ih =>
        rename_i parent child _ envelope _ _
        obtain ⟨bodies, hbodies, hlast⟩ := ih
        refine ⟨fun i => i.casesOn parent bodies, ⟨rfl, ?_⟩, hlast⟩
        intro i hi
        cases i with
        | zero =>
            show Signs verifyEd25519 parent envelope (bodies 0)
            rw [hbodies.anchor]
            exact hsigns
        | succ i => exact hbodies.signs i (Nat.lt_of_succ_lt_succ hi)
  · rintro ⟨bodies, hbodies, rfl⟩
    induction envelopes generalizing parent bodies with
    | nil =>
        rw [← hbodies.anchor]
        exact .nil _
    | cons envelope envelopes ih =>
        have hsigns := hbodies.signs 0 (Nat.zero_lt_succ _)
        rw [hbodies.anchor] at hsigns
        refine .cons hsigns (ih (fun i => bodies (i + 1)) ⟨rfl, fun i hi => ?_⟩)
        exact hbodies.signs (i + 1) (Nat.succ_lt_succ hi)

/-! ## The whole function -/

theorem isDhKey_iff {type : PublicKeyType} : isDhKey type = true ↔ type = .x25519 := by
  cases type <;> decide

/-- What `verify` accepts, with the body it returns. -/
theorem verify_iff_linked {anchor last : CertificateBody}
    {certificates : List CertificateEnvelope} :
    verify verifyEd25519 anchor certificates = .ok last ↔
      certificates ≠ [] ∧ Linked verifyEd25519 anchor certificates last ∧
        last.signingLevel = 0 ∧ last.publicKeyType = .x25519 := by
  simp only [verify, List.length_eq_zero_iff, ← verifyFrom_iff_linked]
  split_ifs with hempty
  · simp [hempty]
  cases hwalk : verifyFrom verifyEd25519 anchor certificates with
  | error e => simp
  | ok parent =>
      simp only [Except.ok.injEq]
      split_ifs with hlevel hkey
      · refine ⟨by rintro ⟨⟩, ?_⟩
        rintro ⟨-, rfl, h, -⟩
        exact absurd h hlevel
      · refine ⟨by rintro ⟨⟩, ?_⟩
        rintro ⟨-, rfl, -, h⟩
        simp [isDhKey_iff.mpr h] at hkey
      · constructor
        · rintro ⟨⟩
          exact ⟨hempty, rfl, not_not.mp hlevel, isDhKey_iff.mp (by simpa using hkey)⟩
        · rintro ⟨-, rfl, -, -⟩
          rfl

/-- The loop ends without an error with the parent of the walk, and with an error that is one
otherwise. -/
theorem verifyLoop_eq (output parent : CertificateBody) (envelopes : List CertificateEnvelope) :
    match verifyFrom verifyEd25519 parent envelopes with
    | .ok last => verifyLoop leftover verifyEd25519 output parent envelopes = (.none, last)
    | .error err => err ≠ .none ∧
        ∃ reached, verifyLoop leftover verifyEd25519 output parent envelopes = (err, reached) := by
  induction envelopes generalizing parent with
  | nil => rfl
  | cons envelope envelopes ih =>
      have hchecked := @verifyPair_checked leftover verifyEd25519 parent envelope output
      simp only [verifyFrom, verifyLoop]
      generalize verifyPair verifyEd25519 parent envelope = outcome at hchecked ⊢
      generalize verifyPairInto leftover verifyEd25519 parent envelope output =
        written at hchecked ⊢
      cases hchecked with
      | signed hsigns => exact ih _
      | refused left herr hsigns =>
          refine ⟨herr, parent, ?_⟩
          split
          · rename_i heq
            cases heq
            exact absurd rfl herr
          · rename_i heq
            cases heq
            rfl

/-- The function with its output parameter is the one that returns its result: the parameter
is written to in the case of success only. -/
theorem verifyInto_eq (output anchor result : CertificateBody)
    (certificates : List CertificateEnvelope) :
    match verify verifyEd25519 anchor certificates with
    | .ok last =>
        verifyInto leftover verifyEd25519 output anchor certificates result = (.none, last)
    | .error err => err ≠ .none ∧
        verifyInto leftover verifyEd25519 output anchor certificates result = (err, result) := by
  have hloop := @verifyLoop_eq verifyEd25519 leftover output anchor certificates
  simp only [verify, verifyInto]
  split_ifs with hempty
  · exact ⟨by decide, rfl⟩
  cases hwalk : verifyFrom verifyEd25519 anchor certificates with
  | error err =>
      rw [hwalk] at hloop
      obtain ⟨herr, reached, hloop⟩ := hloop
      refine ⟨herr, ?_⟩
      rw [hloop]
      cases err <;> first | rfl | exact absurd rfl herr
  | ok parent =>
      rw [hwalk] at hloop
      simp only at hloop
      rw [hloop]
      simp only
      split_ifs with hlevel hkey
      · exact ⟨by decide, rfl⟩
      · exact ⟨by decide, rfl⟩
      · rfl

/-- **Chain verification is exact.**  A chain is accepted exactly if it is not empty, bodies
that vouch for one another lead from the anchor along its certificates, and the last one is a
leaf with a key for the key exchange.  The result is then this last body; it is at most as
many certificates away as the anchor's signing level says, and it is valid at most as long as
the anchor.  A chain that is refused leaves the output as it was. -/
theorem verify_exact (verifyEd25519 : Option VerifyDsa) (leftover : Bytes → CertificateBody)
    (output anchor result : CertificateBody) (certificates : List CertificateEnvelope) :
    let returned := verifyInto leftover verifyEd25519 output anchor certificates result
    let Accepted (bodies : Nat → CertificateBody) : Prop :=
      certificates ≠ [] ∧ Bodies verifyEd25519 anchor certificates bodies ∧
        (bodies certificates.length).signingLevel = 0 ∧
        (bodies certificates.length).publicKeyType = .x25519
    (returned.1 = .none ↔ ∃ bodies, Accepted bodies) ∧
    (∀ bodies, Accepted bodies →
      returned.2 = bodies certificates.length ∧
      certificates.length ≤ anchor.signingLevel.toNat ∧
      anchor.validAfter ≤ returned.2.validAfter ∧ returned.2.validBefore ≤ anchor.validBefore) ∧
    (returned.1 ≠ .none → returned.2 = result) := by
  intro returned Accepted
  have hreturned := @verifyInto_eq verifyEd25519 leftover output anchor result certificates
  have haccepted : ∀ bodies, Accepted bodies →
      verify verifyEd25519 anchor certificates = .ok (bodies certificates.length) := by
    rintro bodies ⟨hne, hbodies, hlevel, hkey⟩
    exact verify_iff_linked.mpr ⟨hne, linked_iff_bodies.mpr ⟨bodies, hbodies, rfl⟩, hlevel, hkey⟩
  cases hverify : verify verifyEd25519 anchor certificates with
  | error err =>
      rw [hverify] at hreturned
      obtain ⟨herr, heq⟩ := hreturned
      have hnone : ∀ bodies, ¬ Accepted bodies := by
        intro bodies h
        have hok := haccepted bodies h
        rw [hverify] at hok
        cases hok
      refine ⟨⟨fun h => ?_, fun ⟨bodies, h⟩ => absurd h (hnone bodies)⟩,
        fun bodies h => absurd h (hnone bodies), fun _ => congrArg Prod.snd heq⟩
      exact absurd ((congrArg Prod.fst heq).symm.trans h) herr
  | ok last =>
      rw [hverify] at hreturned
      obtain ⟨hne, hlinked, hlevel, hkey⟩ := verify_iff_linked.mp hverify
      obtain ⟨bodies, hbodies, rfl⟩ := linked_iff_bodies.mp hlinked
      have hsuccess : returned.1 = .none := congrArg Prod.fst hreturned
      have hresult : returned.2 = bodies certificates.length := congrArg Prod.snd hreturned
      refine ⟨⟨fun _ => ⟨bodies, hne, hbodies, hlevel, hkey⟩, fun _ => hsuccess⟩, ?_,
        fun h => absurd hsuccess h⟩
      intro bodies' h'
      have hlast := Except.ok.inj (hverify.symm.trans (haccepted bodies' h'))
      have hcount := hlinked.level
      rw [hlevel] at hcount
      rw [hresult]
      exact ⟨hlast, by simpa using hcount, hlinked.validity⟩

end Ssp21.Chain
