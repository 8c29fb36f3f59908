import Ssp21.Codec.ChainVerification
import Ssp21.Codec.RoundTrip

/-!
# Building certificate chains with the file tool

`append_certificate_chains` reads a chain and a single certificate from two files, checks
that the last certificate of the chain vouches for the new one, and writes the longer chain
to a third file.  It uses `Chain::verify` for the check, so that the new certificate has to be
a leaf.

* `appendCertificateChains_iff` says when the tool succeeds and what it writes.
* `append_builds_chains` says which chains can be built one certificate at a time: those of
  two certificates, in files that the tool is willing to read.  Whatever it does write
  continues a chain to one that verifies.
-/

namespace Ssp21

open Wire

/-! ## Files -/

/-- What the actions throw. -/
inductive Exception
  | unableToOpenFile (path : String)
  | fileSizeNotPositive
  | fileSizeExceedsMaximum (size maxFileSize : Nat)
  | parsingError (err : ParseError)
  | errorWritingType (err : FormatError)
  | sizeBufferMismatch
  | notACertificateChain (type : ContainerEntryType)
  | initialChainEmpty
  | notASingleEntry (count : Nat)
  | errorVerifyingChain (err : HandshakeError)
  | capacityLimit (capacity : Nat)
  deriving DecidableEq, Repr

/-- The files by their paths.  Reading and writing them never fails halfway. -/
def Files : Type := String → Option Bytes

/-- `serialize::to_buffer`: a buffer of the size of the value, which is then filled. -/
def toBuffer {α : Type} (codec : Codec ParseError FormatError α) (value : α) :
    Except Exception Bytes :=
  match codec.write value (codec.size value) with
  | .error err => .error (.errorWritingType err)
  | .ok bytes => if bytes.length ≠ codec.size value then .error .sizeBufferMismatch else .ok bytes

namespace SecureFile

def maxFileSize : Nat := 4096

def read (files : Files) (path : String) : Except Exception Bytes :=
  match files path with
  | none => .error (.unableToOpenFile path)
  | some data =>
      if data.length = 0 then .error .fileSizeNotPositive
      else if data.length > maxFileSize then
        .error (.fileSizeExceedsMaximum data.length maxFileSize)
      else .ok data

def write (files : Files) (path : String) (item : ContainerFile) : Except Exception Files := do
  let data ← toBuffer ContainerFile.codec item
  return fun other => if other = path then some data else files other

end SecureFile

/-! ## The actions -/

namespace Actions

def parseOrThrow {α : Type} (codec : Codec ParseError FormatError α) (data : Bytes) :
    Except Exception α :=
  (readAll codec data).mapError .parsingError

def expectCertificateChain (file : ContainerFile) : Except Exception CertificateChain :=
  if file.containerEntryType ≠ .certificateChain then
    .error (.notACertificateChain file.containerEntryType)
  else parseOrThrow CertificateChain.codec file.payload

/-- The chain in a file, as an action loads it. -/
def loadChain (files : Files) (path : String) : Except Exception CertificateChain := do
  let data ← SecureFile.read files path
  let file ← parseOrThrow ContainerFile.codec data
  expectCertificateChain file

/-- `SeqStructField::push`. -/
def push {α : Type} {capacity : Nat} (field : Codec.Bounded α capacity) (item : α) :
    Option (Codec.Bounded α capacity) :=
  if h : field.1.length = capacity then none
  else some ⟨field.1 ++ [item], by
    have hle := field.2
    simp only [List.length_append, List.length_singleton]
    omega⟩

/-- `foreach` with `add_cert`. -/
def addCerts (chain : Codec.Bounded CertificateEnvelope 6) :
    List CertificateEnvelope → Except Exception (Codec.Bounded CertificateEnvelope 6)
  | [] => .ok chain
  | envelope :: envelopes =>
      match push chain envelope with
      | none => .error (.capacityLimit 6)
      | some chain => addCerts chain envelopes

def appendCertificateChains (verifyEd25519 : Option Chain.VerifyDsa) (files : Files)
    (filePath1 filePath2 outputFilePath : String) : Except Exception Files := do
  let chain1 ← loadChain files filePath1
  let chain2 ← loadChain files filePath2
  -- `last` returns a null pointer exactly for an empty chain
  match chain1.certificates.1.getLast? with
  | none => .error .initialChainEmpty
  | some last =>
      if chain2.certificates.1.length ≠ 1 then
        .error (.notASingleEntry chain2.certificates.1.length)
      else do
        let lastBody ← parseOrThrow CertificateBody.codec last.certificateBody
        match Chain.verify verifyEd25519 lastBody chain2.certificates.1 with
        | .error err => .error (.errorVerifyingChain err)
        | .ok _ => do
            let chain ← addCerts ⟨[], by decide⟩ chain1.certificates.1
            let chain ← addCerts chain chain2.certificates.1
            let chainBytes ← toBuffer CertificateChain.codec ⟨chain⟩
            SecureFile.write files outputFilePath ⟨.certificateChain, chainBytes⟩

/-- Certificates appended one after the other: each step has the file with the next
certificate and the file to write to, which the next step goes on with. -/
def appendInTurn (verifyEd25519 : Option Chain.VerifyDsa) :
    Files → String → List (String × String) → Except Exception (Files × String)
  | files, path, [] => .ok (files, path)
  | files, path, (certificate, output) :: steps => do
      let files ← appendCertificateChains verifyEd25519 files path certificate output
      appendInTurn verifyEd25519 files output steps

/-! ## What files hold -/

/-- A container file that parses to a chain of certificates. -/
def ChainFile (bytes : Bytes) (certificates : List CertificateEnvelope) : Prop :=
  ∃ payload chain, readAll ContainerFile.codec bytes = .ok ⟨.certificateChain, payload⟩ ∧
    readAll CertificateChain.codec payload = .ok chain ∧ chain.certificates.1 = certificates

/-- A file that holds a chain. -/
def Holds (files : Files) (path : String) (certificates : List CertificateEnvelope) : Prop :=
  ∃ bytes, files path = some bytes ∧ ChainFile bytes certificates

/-- A file that is not longer than the tool reads. -/
def Readable (files : Files) (path : String) : Prop :=
  ∃ bytes, files path = some bytes ∧ bytes.length ≤ SecureFile.maxFileSize

theorem bind_eq_ok {ε α β : Type} {x : Except ε α} {f : α → Except ε β} {b : β} :
    (x >>= f) = .ok b ↔ ∃ a, x = .ok a ∧ f a = .ok b := by
  cases x with
  | error e => exact ⟨nofun, nofun⟩
  | ok a => exact ⟨fun h => ⟨a, rfl, h⟩, fun ⟨a', ha, h⟩ => by cases ha; exact h⟩

theorem parseOrThrow_eq_ok {α : Type} {codec : Codec ParseError FormatError α} {data : Bytes}
    {value : α} : parseOrThrow codec data = .ok value ↔ readAll codec data = .ok value := by
  rw [parseOrThrow]
  cases readAll codec data with
  | error e => exact ⟨nofun, nofun⟩
  | ok value' =>
      exact ⟨fun h => congrArg Except.ok (Except.ok.inj h),
        fun h => congrArg Except.ok (Except.ok.inj h)⟩

theorem expectCertificateChain_eq_ok {file : ContainerFile} {chain : CertificateChain} :
    expectCertificateChain file = .ok chain ↔ file.containerEntryType = .certificateChain ∧
      readAll CertificateChain.codec file.payload = .ok chain := by
  rw [expectCertificateChain, ← parseOrThrow_eq_ok]
  split_ifs with htype
  · exact ⟨nofun, fun h => absurd h.1 htype⟩
  · exact ⟨fun h => ⟨not_not.mp htype, h⟩, And.right⟩

theorem read_eq_ok {files : Files} {path : String} {data : Bytes} :
    SecureFile.read files path = .ok data ↔
      files path = some data ∧ data ≠ [] ∧ data.length ≤ SecureFile.maxFileSize := by
  rw [SecureFile.read]
  cases hfile : files path with
  | none => exact ⟨nofun, fun h => nomatch h.1⟩
  | some data' =>
      simp only [List.length_eq_zero_iff]
      split_ifs with hempty hlong
      · refine ⟨nofun, ?_⟩
        rintro ⟨⟨⟩, hne, -⟩
        exact absurd hempty hne
      · refine ⟨nofun, ?_⟩
        rintro ⟨⟨⟩, -, hle⟩
        omega
      · constructor
        · rintro ⟨⟩
          exact ⟨rfl, hempty, Nat.le_of_not_lt hlong⟩
        · rintro ⟨⟨⟩, -, -⟩
          rfl

/-- The one file that holds the chain is the one that is not too long. -/
theorem Holds.file {files : Files} {path : String} {chain : CertificateChain}
    (hholds : Holds files path chain.certificates.1) (hreadable : Readable files path) :
    ∃ data payload, files path = some data ∧ data.length ≤ SecureFile.maxFileSize ∧
      readAll ContainerFile.codec data = .ok ⟨.certificateChain, payload⟩ ∧
      readAll CertificateChain.codec payload = .ok chain := by
  obtain ⟨data, hfile, payload, ⟨certificates⟩, hcontainer, hchain, heq⟩ := hholds
  obtain ⟨data', hfile', hle⟩ := hreadable
  obtain rfl : data = data' := Option.some.inj (hfile.symm.trans hfile')
  obtain rfl : certificates = chain.certificates := Subtype.ext heq
  exact ⟨data, payload, hfile, hle, hcontainer, hchain⟩

/-- A chain is loaded exactly from a file that holds it and is not too long. -/
theorem loadChain_eq_ok {files : Files} {path : String} {chain : CertificateChain} :
    loadChain files path = .ok chain ↔
      Holds files path chain.certificates.1 ∧ Readable files path := by
  simp only [loadChain, bind_eq_ok, read_eq_ok, parseOrThrow_eq_ok, expectCertificateChain_eq_ok]
  constructor
  · rintro ⟨data, ⟨hfile, -, hle⟩, ⟨type, payload⟩, hcontainer, rfl, hchain⟩
    exact ⟨⟨data, hfile, payload, chain, hcontainer, hchain, rfl⟩, data, hfile, hle⟩
  · rintro ⟨hholds, hreadable⟩
    obtain ⟨data, payload, hfile, hle, hcontainer, hchain⟩ := hholds.file hreadable
    refine ⟨data, ⟨hfile, ?_, hle⟩, ⟨.certificateChain, payload⟩, hcontainer, rfl, hchain⟩
    rintro rfl
    cases hcontainer

theorem ChainFile.unique {data data' : Bytes} {certificates : List CertificateEnvelope}
    (h : ChainFile data certificates) (h' : ChainFile data' certificates) : data = data' := by
  obtain ⟨payload, ⟨chain⟩, hcontainer, hchain, rfl⟩ := h
  obtain ⟨payload', ⟨chain'⟩, hcontainer', hchain', heq⟩ := h'
  obtain rfl : chain' = chain := Subtype.ext heq
  obtain rfl := (struct_canonical CertificateChain.codecSpec).read_inj _ _ _ hchain hchain'
  exact (struct_canonical ContainerFile.codecSpec).read_inj _ _ _ hcontainer hcontainer'

theorem Holds.chain {files : Files} {path : String} {certificates : List CertificateEnvelope}
    (h : Holds files path certificates) :
    ∃ chain : CertificateChain, chain.certificates.1 = certificates := by
  obtain ⟨-, -, -, chain, -, -, heq⟩ := h
  exact ⟨chain, heq⟩

theorem Holds.unique {files : Files} {path : String}
    {certificates certificates' : List CertificateEnvelope} (h : Holds files path certificates)
    (h' : Holds files path certificates') : certificates = certificates' := by
  obtain ⟨data, hfile, payload, chain, hcontainer, hchain, rfl⟩ := h
  obtain ⟨data', hfile', payload', chain', hcontainer', hchain', rfl⟩ := h'
  cases hfile.symm.trans hfile'
  cases hcontainer.symm.trans hcontainer'
  cases hchain.symm.trans hchain'
  rfl

/-! ## What is written -/

theorem addCerts_eq_ok {chain result : Codec.Bounded CertificateEnvelope 6}
    {envelopes : List CertificateEnvelope} :
    addCerts chain envelopes = .ok result ↔ result.1 = chain.1 ++ envelopes := by
  induction envelopes generalizing chain with
  | nil =>
      rw [addCerts, List.append_nil, Except.ok.injEq, eq_comm, Subtype.ext_iff]
  | cons envelope envelopes ih =>
      rw [addCerts, push]
      split_ifs with hfull
      · refine ⟨nofun, fun h => ?_⟩
        have hle := result.2
        simp only [h, List.length_append, List.length_cons] at hle
        omega
      · simp only [ih, List.append_assoc, List.singleton_append]

theorem toBuffer_eq_ok {α : Type} {codec : Codec ParseError FormatError α}
    (spec : FieldSpec codec) {value : α} (hfits : spec.fits value) :
    toBuffer codec value = .ok (spec.enc value) := by
  rw [toBuffer, spec.size_eq value hfits, spec.write_eq value _ hfits]
  simp

/-- A chain that is not too long for a container is written to a file that holds it. -/
theorem write_chain (files : Files) (path : String) {chain : CertificateChain}
    (hfits : CertificateChain.codecSpec.fits chain)
    (hlength : (CertificateChain.codecSpec.enc chain).length < 2 ^ 32) :
    ∃ data, SecureFile.write files path ⟨.certificateChain, CertificateChain.codecSpec.enc chain⟩ =
        .ok (fun other => if other = path then some data else files other) ∧
      ChainFile data chain.certificates.1 := by
  have hfile : ContainerFile.codecSpec.fits
      ⟨.certificateChain, CertificateChain.codecSpec.enc chain⟩ := ⟨trivial, hlength⟩
  refine ⟨ContainerFile.codecSpec.enc ⟨.certificateChain, CertificateChain.codecSpec.enc chain⟩,
    ?_, CertificateChain.codecSpec.enc chain, chain, readAll_enc _ hfile, readAll_enc _ hfits, rfl⟩
  rw [SecureFile.write, toBuffer_eq_ok _ hfile]
  rfl

/-- The encoding of a chain: its count and its certificates. -/
theorem enc_chain_length (chain : CertificateChain) :
    (CertificateChain.codecSpec.enc chain).length =
      VLength.size (VLength.counter.ofNat chain.certificates.1.length) +
        (CertificateEnvelope.codecSpec.encItems chain.certificates.1).length := by
  have henc : CertificateChain.codecSpec.enc chain =
      VLength.spec.enc (VLength.counter.ofNat chain.certificates.1.length) ++
        CertificateEnvelope.codecSpec.encItems chain.certificates.1 := rfl
  have hsize := VLength.spec.size_eq (VLength.counter.ofNat chain.certificates.1.length) trivial
  rw [henc, List.length_append, ← hsize]
  rfl

theorem vlength_size_le (value : UInt32) : VLength.size value ≤ 5 := by
  rw [VLength.size, VLength.numValuesBytes]
  split_ifs <;> decide

/-- A file that the tool reads has a short chain, which can be written again. -/
theorem loaded_chain {files : Files} {path : String} {chain : CertificateChain}
    (hholds : Holds files path chain.certificates.1) (hreadable : Readable files path) :
    CertificateChain.codecSpec.fits chain ∧
      (CertificateEnvelope.codecSpec.encItems chain.certificates.1).length ≤
        SecureFile.maxFileSize := by
  obtain ⟨data, payload, hfile, hle, hcontainer, hchain⟩ := hholds.file hreadable
  obtain ⟨hfits, rfl⟩ := readAll_sound CertificateChain.codecSpec hchain
  obtain ⟨-, rfl⟩ := readAll_sound ContainerFile.codecSpec hcontainer
  refine ⟨hfits, ?_⟩
  -- the payload stands behind the type and its length
  have hpayload : (CertificateChain.codecSpec.enc chain).length ≤
      (ContainerFile.codecSpec.enc
        ⟨.certificateChain, CertificateChain.codecSpec.enc chain⟩).length := by
    apply List.IsSuffix.length_le
    exact (List.suffix_append _ _).trans (List.suffix_append _ _)
  rw [enc_chain_length] at hpayload
  omega

/-! ## One step of the tool -/

/-- What a call that succeeds has found and done. -/
inductive Appended (verifyEd25519 : Option Chain.VerifyDsa) (files : Files)
    (filePath1 filePath2 outputFilePath : String) : Files → Prop
  | intro (front : List CertificateEnvelope) (last envelope : CertificateEnvelope)
      (lastBody finalBody : CertificateBody) (data : Bytes)
      (hchain : Holds files filePath1 (front ++ [last])) (hreadable1 : Readable files filePath1)
      (hcertificate : Holds files filePath2 [envelope]) (hreadable2 : Readable files filePath2)
      (hbody : readAll CertificateBody.codec last.certificateBody = .ok lastBody)
      (hverify : Chain.verify verifyEd25519 lastBody [envelope] = .ok finalBody)
      (hdata : ChainFile data (front ++ [last] ++ [envelope])) :
      Appended verifyEd25519 files filePath1 filePath2 outputFilePath
        (fun path => if path = outputFilePath then some data else files path)

variable {verifyEd25519 : Option Chain.VerifyDsa} {files files' : Files}
  {filePath1 filePath2 outputFilePath : String}

/-- The written part of a call, for chains that have been loaded. -/
theorem write_appended {chain1 chain2 chain : CertificateChain}
    (hchain1 : Holds files filePath1 chain1.certificates.1)
    (hreadable1 : Readable files filePath1)
    (hchain2 : Holds files filePath2 chain2.certificates.1)
    (hreadable2 : Readable files filePath2)
    (happend : chain.certificates.1 = chain1.certificates.1 ++ chain2.certificates.1) :
    ∃ data, (toBuffer CertificateChain.codec chain >>= fun chainBytes =>
        SecureFile.write files outputFilePath ⟨.certificateChain, chainBytes⟩) =
        .ok (fun path => if path = outputFilePath then some data else files path) ∧
      ChainFile data (chain1.certificates.1 ++ chain2.certificates.1) := by
  obtain ⟨hfits1, hle1⟩ := loaded_chain hchain1 hreadable1
  obtain ⟨hfits2, hle2⟩ := loaded_chain hchain2 hreadable2
  have hfits : CertificateChain.codecSpec.fits chain := by
    intro envelope hin
    change envelope ∈ chain.certificates.1 at hin
    rw [happend] at hin
    exact (List.mem_append.mp hin).elim (hfits1 envelope) (hfits2 envelope)
  have hlength : (CertificateChain.codecSpec.enc chain).length < 2 ^ 32 := by
    have hcount := vlength_size_le (VLength.counter.ofNat chain.certificates.1.length)
    have hitems : (CertificateEnvelope.codecSpec.encItems chain.certificates.1).length =
        (CertificateEnvelope.codecSpec.encItems chain1.certificates.1).length +
          (CertificateEnvelope.codecSpec.encItems chain2.certificates.1).length := by
      rw [happend, ← List.length_append]
      exact congrArg List.length List.flatMap_append
    rw [enc_chain_length, hitems]
    rw [SecureFile.maxFileSize] at hle1 hle2
    omega
  obtain ⟨data, hwrite, hdata⟩ := write_chain files outputFilePath hfits hlength
  rw [happend] at hdata
  refine ⟨data, ?_, hdata⟩
  rw [toBuffer_eq_ok _ hfits]
  exact hwrite

theorem appendCertificateChains_iff :
    appendCertificateChains verifyEd25519 files filePath1 filePath2 outputFilePath = .ok files' ↔
      Appended verifyEd25519 files filePath1 filePath2 outputFilePath files' := by
  constructor
  · intro h
    simp only [appendCertificateChains, bind_eq_ok, loadChain_eq_ok] at h
    obtain ⟨chain1, ⟨hchain1, hreadable1⟩, chain2, ⟨hchain2, hreadable2⟩, h⟩ := h
    split at h
    · cases h
    rename_i last hlast
    split_ifs at h with hcount
    obtain ⟨lastBody, hbody, h⟩ := bind_eq_ok.mp h
    split at h
    · cases h
    rename_i finalBody hverify
    simp only [bind_eq_ok, addCerts_eq_ok, List.nil_append] at h
    obtain ⟨copy, hcopy, chain, happend, h⟩ := h
    rw [hcopy] at happend
    obtain ⟨envelope, henvelope⟩ := List.length_eq_one_iff.mp (not_not.mp hcount)
    obtain ⟨front, hfront⟩ := List.getLast?_eq_some_iff.mp hlast
    obtain ⟨data, hwrite, hdata⟩ :=
      @write_appended files filePath1 filePath2 outputFilePath chain1 chain2 ⟨chain⟩
        hchain1 hreadable1 hchain2 hreadable2 happend
    rw [← bind_eq_ok, hwrite] at h
    cases h
    rw [hfront] at hchain1 hdata
    rw [henvelope] at hchain2 hdata hverify
    exact .intro front last envelope lastBody finalBody data hchain1 hreadable1 hchain2 hreadable2
      (parseOrThrow_eq_ok.mp hbody) hverify hdata
  · rintro ⟨front, last, envelope, lastBody, finalBody, data, hchain1, hreadable1, hchain2,
      hreadable2, hbody, hverify, hdata⟩
    obtain ⟨chain1, heq1⟩ := hchain1.chain
    obtain ⟨chain2, heq2⟩ := hchain2.chain
    obtain ⟨-, chain, -, -, heq⟩ := id hdata
    rw [← heq1] at hchain1 heq hdata
    rw [← heq2] at hchain2 heq hdata hverify
    obtain ⟨written, hwrite, hwritten⟩ :=
      @write_appended files filePath1 filePath2 outputFilePath chain1 chain2 chain
        hchain1 hreadable1 hchain2 hreadable2 heq
    obtain rfl := hwritten.unique hdata
    have hload1 := loadChain_eq_ok.mpr ⟨hchain1, hreadable1⟩
    have hload2 := loadChain_eq_ok.mpr ⟨hchain2, hreadable2⟩
    have hlast : chain1.certificates.1.getLast? = some last := by rw [heq1, List.getLast?_concat]
    have hcount : chain2.certificates.1.length = 1 := by rw [heq2]; rfl
    have hcopy1 : addCerts ⟨[], by decide⟩ chain1.certificates.1 = .ok chain1.certificates :=
      addCerts_eq_ok.mpr rfl
    have hcopy2 : addCerts chain1.certificates chain2.certificates.1 = .ok chain.certificates :=
      addCerts_eq_ok.mpr heq
    refine bind_eq_ok.mpr ⟨chain1, hload1, bind_eq_ok.mpr ⟨chain2, hload2, ?_⟩⟩
    simp only [hlast, hcount, ne_eq, not_true_eq_false, if_false]
    refine bind_eq_ok.mpr ⟨lastBody, parseOrThrow_eq_ok.mpr hbody, ?_⟩
    simp only [hverify]
    exact bind_eq_ok.mpr ⟨chain1.certificates, hcopy1, bind_eq_ok.mpr
      ⟨chain.certificates, hcopy2, hwrite⟩⟩

/-! ## Building a chain -/

/-- The files for building a chain: one with its first certificate, and one for each step with
the certificate that the step appends. -/
def Prepared (files : Files) (first : String) (steps : List (String × String))
    (certificates : List CertificateEnvelope) : Prop :=
  ∃ envelope envelopes, certificates = envelope :: envelopes ∧ Holds files first [envelope] ∧
    List.Forall₂ (fun step envelope => Holds files step.1 [envelope]) steps envelopes

/-- A certificate that the tool appends to the first one of a verified chain ends this chain:
it is checked as a leaf, and a leaf vouches for nothing. -/
theorem appended_is_last {anchor body result finalBody : CertificateBody}
    {envelope next : CertificateEnvelope} {envelopes : List CertificateEnvelope}
    (hlinked : Chain.Linked verifyEd25519 anchor (envelope :: next :: envelopes) result)
    (hbody : readAll CertificateBody.codec envelope.certificateBody = .ok body)
    (hverify : Chain.verify verifyEd25519 body [next] = .ok finalBody) : envelopes = [] := by
  obtain ⟨-, hnext, hleaf, -⟩ := Chain.verify_iff_linked.mp hverify
  cases hlinked with
  | cons hsigns hrest =>
      cases hsigns.body.symm.trans hbody
      cases hrest with
      | cons hsigns' hrest' =>
          cases hnext with
          | cons hsigns'' hnil =>
              cases hnil
              cases hsigns'.body.symm.trans hsigns''.body
              cases hrest' with
              | nil => rfl
              | cons hbelow _ =>
                  have hlevel := UInt8.lt_iff_toNat_lt.mp hbelow.level
                  rw [hleaf] at hlevel
                  exact absurd hlevel (Nat.not_lt_zero _)

/-- What can be appended in turn is a chain of two certificates that the tool can read. -/
theorem two_of_appendInTurn {anchor result : CertificateBody}
    {certificates : List CertificateEnvelope} {first output : String}
    {steps : List (String × String)}
    (hlinked : Chain.Linked verifyEd25519 anchor certificates result)
    (hlength : 2 ≤ certificates.length) (hprepared : Prepared files first steps certificates)
    (hturn : appendInTurn verifyEd25519 files first steps = .ok (files', output)) :
    certificates.length = 2 ∧ Readable files first ∧ ∀ step ∈ steps, Readable files step.1 := by
  obtain ⟨envelope, envelopes, rfl, hfirst, hsteps⟩ := hprepared
  cases hsteps with
  | nil => simp at hlength
  | cons hnext hrest =>
      obtain ⟨files₁, hstep, -⟩ := bind_eq_ok.mp hturn
      obtain ⟨front, last, envelope', lastBody, finalBody, data, hchain, hreadable1, hcertificate,
        hreadable2, hbody, hcheck, -⟩ := appendCertificateChains_iff.mp hstep
      -- the files hold the first two certificates and nothing else
      have hsingle : front ++ [last] = [] ++ [envelope] := hchain.unique hfirst
      obtain ⟨rfl, hlast⟩ := List.append_inj' hsingle rfl
      cases hlast
      cases hcertificate.unique hnext
      cases appended_is_last hlinked hbody hcheck
      cases hrest
      exact ⟨rfl, hreadable1, by simpa using hreadable2⟩

/-- A chain of two certificates that the tool can read is built in one step. -/
theorem appendInTurn_two {anchor result : CertificateBody}
    {envelope next : CertificateEnvelope} {first : String} {step : String × String}
    (hverify : Chain.verify verifyEd25519 anchor [envelope, next] = .ok result)
    (hfirst : Holds files first [envelope]) (hnext : Holds files step.1 [next])
    (hreadable1 : Readable files first) (hreadable2 : Readable files step.1) :
    ∃ files' output, appendInTurn verifyEd25519 files first [step] = .ok (files', output) ∧
      Holds files' output [envelope, next] := by
  obtain ⟨-, hlinked, hleaf⟩ := Chain.verify_iff_linked.mp hverify
  cases hlinked with
  | cons hsigns hrest =>
      rename_i body
      have hcheck : Chain.verify verifyEd25519 body [next] = .ok result :=
        Chain.verify_iff_linked.mpr ⟨by simp, hrest, hleaf⟩
      obtain ⟨data, -, hdata⟩ :=
        @write_appended files first step.1 step.2 ⟨⟨[envelope], by simp⟩⟩ ⟨⟨[next], by simp⟩⟩
          ⟨⟨[envelope, next], by simp⟩⟩ hfirst hreadable1 hnext hreadable2 rfl
      have hstep := appendCertificateChains_iff.mpr
        (@Appended.intro verifyEd25519 files first step.1 step.2 [] envelope next body result data
          hfirst hreadable1 hnext hreadable2 hsigns.body hcheck hdata)
      exact ⟨_, step.2, bind_eq_ok.mpr ⟨_, hstep, rfl⟩, data, if_pos rfl, hdata⟩

/-- **Which chains can be built by appending.**  Of the chains that verify, exactly those of
two certificates in readable files can be built one certificate at a time.  Whatever the tool
writes behind certificates that verify pairwise is a chain that verifies. -/
theorem append_builds_chains (verifyEd25519 : Option Chain.VerifyDsa) :
    (∀ anchor certificates result, Chain.verify verifyEd25519 anchor certificates = .ok result →
      2 ≤ certificates.length → ∀ files first steps, Prepared files first steps certificates →
      ((∃ files' output, appendInTurn verifyEd25519 files first steps = .ok (files', output) ∧
          Holds files' output certificates) ↔
        certificates.length = 2 ∧ Readable files first ∧
          ∀ step ∈ steps, Readable files step.1)) ∧
    (∀ anchor certificates body, Chain.verifyFrom verifyEd25519 anchor certificates = .ok body →
      ∀ files filePath1 filePath2 outputFilePath files', Holds files filePath1 certificates →
      appendCertificateChains verifyEd25519 files filePath1 filePath2 outputFilePath = .ok files' →
      ∃ envelope result, Holds files' outputFilePath (certificates ++ [envelope]) ∧
        Chain.verify verifyEd25519 anchor (certificates ++ [envelope]) = .ok result) := by
  constructor
  · intro anchor certificates result hverify hlength files first steps hprepared
    have hlinked := (Chain.verify_iff_linked.mp hverify).2.1
    constructor
    · rintro ⟨files', output, hturn, -⟩
      exact two_of_appendInTurn hlinked hlength hprepared hturn
    · rintro ⟨htwo, hreadable, hsteps⟩
      obtain ⟨envelope, envelopes, rfl, hfirst, hall⟩ := hprepared
      obtain ⟨next, rfl⟩ := List.length_eq_one_iff.mp (Nat.succ.inj htwo)
      cases hall with
      | cons hnext hnil =>
          cases hnil
          exact appendInTurn_two hverify hfirst hnext hreadable (hsteps _ List.mem_cons_self)
  · intro anchor certificates body hpairs files filePath1 filePath2 outputFilePath files' hholds
      hstep
    obtain ⟨front, last, envelope, lastBody, finalBody, data, hchain, -, -, -, hbody, hcheck,
      hdata⟩ := appendCertificateChains_iff.mp hstep
    obtain rfl := hholds.unique hchain
    have hlast := Chain.verifyFrom_last hpairs List.getLast?_concat
    obtain rfl : lastBody = body := Except.ok.inj (hbody.symm.trans hlast)
    obtain ⟨-, hnext, hleaf⟩ := Chain.verify_iff_linked.mp hcheck
    refine ⟨envelope, finalBody, ⟨data, if_pos rfl, hdata⟩, Chain.verify_iff_linked.mpr ?_⟩
    exact ⟨by simp, (Chain.verifyFrom_iff_linked.mp hpairs).append hnext, hleaf⟩

/-! A root, two intermediate certificates and a leaf, each in a file of its own. -/

namespace FourFiles

def root : CertificateBody := ⟨0, 100, 3, .ed25519, [], ⟨[], by decide⟩⟩

def leafBody : CertificateBody := ⟨0, 100, 0, .x25519, [], ⟨[], by decide⟩⟩

def certificate (signingLevel : UInt8) (type : PublicKeyType) : CertificateEnvelope where
  signature := List.replicate 64 0
  certificateBody := (toBuffer CertificateBody.codec
    ⟨0, 100, signingLevel, type, [], ⟨[], by decide⟩⟩).toOption.getD []

def upper : CertificateEnvelope := certificate 2 .ed25519
def lower : CertificateEnvelope := certificate 1 .ed25519
def leaf : CertificateEnvelope := certificate 0 .x25519

def payloadOf (envelope : CertificateEnvelope) : Bytes :=
  (toBuffer CertificateChain.codec ⟨⟨[envelope], by simp⟩⟩).toOption.getD []

def fileOf (envelope : CertificateEnvelope) : Bytes :=
  (toBuffer ContainerFile.codec ⟨.certificateChain, payloadOf envelope⟩).toOption.getD []

def directory : Files := fun path =>
  if path = "upper" then some (fileOf upper)
  else if path = "lower" then some (fileOf lower)
  else if path = "leaf" then some (fileOf leaf)
  else none

def acceptAll : Option Chain.VerifyDsa := some fun _ _ _ => true

theorem holds_upper : Holds directory "upper" [upper] :=
  ⟨fileOf upper, rfl, payloadOf upper, ⟨⟨[upper], by simp⟩⟩, by rfl, by rfl, rfl⟩

theorem holds_lower : Holds directory "lower" [lower] :=
  ⟨fileOf lower, rfl, payloadOf lower, ⟨⟨[lower], by simp⟩⟩, by rfl, by rfl, rfl⟩

theorem holds_leaf : Holds directory "leaf" [leaf] :=
  ⟨fileOf leaf, rfl, payloadOf leaf, ⟨⟨[leaf], by simp⟩⟩, by rfl, by rfl, rfl⟩

theorem readable_lower : Readable directory "lower" := ⟨fileOf lower, rfl, by decide +kernel⟩

theorem readable_leaf : Readable directory "leaf" := ⟨fileOf leaf, rfl, by decide +kernel⟩

end FourFiles

open FourFiles in
/-- The leaf is appended to the certificate above it, and the chain verifies under the root. -/
theorem append_builds_pair :
    (∃ files' output, appendInTurn acceptAll directory "lower" [("leaf", "chain")] =
        .ok (files', output) ∧ Holds files' output [lower, leaf]) ∧
    ∃ files' envelope result,
      appendCertificateChains acceptAll directory "lower" "leaf" "chain" = .ok files' ∧
        Holds files' "chain" ([lower] ++ [envelope]) ∧
        Chain.verify acceptAll root ([lower] ++ [envelope]) = .ok result := by
  obtain ⟨hbuild, hextend⟩ := append_builds_chains acceptAll
  have hreadable : ∀ step ∈ [("leaf", "chain")], Readable directory step.1 := by
    intro step hstep
    cases List.mem_singleton.mp hstep
    exact readable_leaf
  obtain ⟨files', output, hturn, hholds⟩ :=
    (hbuild root [lower, leaf] leafBody (by rfl) (by decide) directory "lower" [("leaf", "chain")]
      ⟨lower, [leaf], rfl, holds_lower, .cons holds_leaf .nil⟩).mpr ⟨rfl, readable_lower, hreadable⟩
  refine ⟨⟨files', output, hturn, hholds⟩, ?_⟩
  obtain ⟨written, hstep, -⟩ := bind_eq_ok.mp hturn
  obtain ⟨envelope, result, hchain, hverify⟩ :=
    hextend root [lower] ⟨0, 100, 1, .ed25519, [], ⟨[], by decide⟩⟩ (by rfl) directory
      "lower" "leaf"
      "chain" written holds_lower hstep
  exact ⟨written, envelope, result, hstep, hchain, hverify⟩

open FourFiles in
/-- A chain of three certificates verifies, but its second one is refused when it is appended:
it is not a leaf. -/
theorem append_three_refused :
    Chain.verify acceptAll root [upper, lower, leaf] = .ok leafBody ∧
      Prepared directory "upper" [("lower", "chain"), ("leaf", "chain")] [upper, lower, leaf] ∧
      appendInTurn acceptAll directory "upper" [("lower", "chain"), ("leaf", "chain")] =
        .error (.errorVerifyingChain .badCertificateChain) :=
  ⟨by rfl, ⟨upper, [lower, leaf], rfl, holds_upper, .cons holds_lower (.cons holds_leaf .nil)⟩,
    by rfl⟩

end Actions

end Ssp21
