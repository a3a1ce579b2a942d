import RatsRs.Cert.Sample

/-! What an accepted certificate proves.

`Chain` is everything verification finds on its way, and `Chain.Valid` says that each
link holds of it: `verifyCertDer` returns claims exactly when there is a valid chain
for them (`verifyCertDer_eq_ok`). The links are what they are meant to be
(`Chain.Sound`) unless the quote is an SGX quote of version 5, which is not read by its
own layout. That evidence cannot be moved to another certificate follows from what the
links determine, one by one, from the quote on. -/
namespace RatsRs.Cert
open Lib Tee

section Links
variable (X : Externals)

/-- The public key verifies the signature, by the algorithm with this identifier. -/
def VerifiesUnder (oid : Oid) (spki : SubjectPublicKeyInfo) (signedData signature : Bytes) : Prop :=
  (∃ algo, oid = rsaEncryptionWith algo ∧ ∃ key s, X.rsa.tryFromSpki spki = .ok key ∧
    X.rsa.tryFromBytes signature = .ok s ∧ X.rsa.verify algo key signedData s = .ok ()) ∨
  (oid = ecdsaWithSha256 ∧ ∃ key s, X.p256.tryFromSpki spki = .ok key ∧
    X.p256.tryFromBytes signature = .ok s ∧ X.p256.verify () key signedData s = .ok ())

/-- The certificate's own key verifies its signature over its TBS part. -/
def SelfSigned (cert : Certificate) : Prop :=
  ∃ tbs signature, X.x509.tbsToDer cert.tbsCertificate = .ok tbs ∧
    cert.signature.asBytes = some signature ∧
    VerifiesUnder X cert.signatureAlgorithm.oid cert.tbsCertificate.subjectPublicKeyInfo tbs signature

/-- What verification of a certificate comes across. -/
structure Chain where
  cert : Certificate
  evidenceBuffer : Bytes
  quote : Bytes
  kind : QuoteKind
  claimsBuffer : Bytes
  customClaims : Claims
  pubkeyHashValueBuffer : Bytes
  pubkeyHashAlgo : HashAlgo
  /-- The encoded SubjectPublicKeyInfo. -/
  spki : Bytes

namespace Chain

/-- The claims of the quote. -/
def builtinClaims (c : Chain) : Claims := c.kind.format.claims c.quote

/-- The links from a certificate to a quote and to its key. -/
structure Links (der : Bytes) (c : Chain) : Prop where
  parsed : X.x509.fromDer der = .ok c.cert
  selfIssued : c.cert.tbsCertificate.subject = c.cert.tbsCertificate.issuer
  selfSigned : SelfSigned X c.cert
  evidence : extractExtWithOid c.cert oidTcgDiceTaggedEvidence = some c.evidenceBuffer
  tagged : parseEvidenceBufferWithTag X.ciborium c.evidenceBuffer =
    .ok (ocbrTagEvidenceIntelTeeQuote, c.quote, c.claimsBuffer)
  custom : parseClaimsBuffer X.ciborium c.claimsBuffer = .ok c.customClaims
  pubkeyHashValue : c.customClaims.get claimNamePublicKeyHash = some c.pubkeyHashValueBuffer
  spkiDer : X.x509.spkiToDer c.cert.tbsCertificate.subjectPublicKeyInfo = .ok c.spki
  pubkeyHash : parsePubkeyHashValueBuffer X.ciborium c.pubkeyHashValueBuffer =
    .ok (c.pubkeyHashAlgo, X.sha2.hash c.pubkeyHashAlgo c.spki)

/-- Every link of the chain from a certificate to its claims, with the quote as it is read. The
layout of the quote is the one the parser of its kind accepted it under. -/
structure Valid (D : Dcap) (der : Bytes) (c : Chain) : Prop extends Links X der c where
  accepted : c.kind.Accepts c.quote
  passes : D.Passes c.quote
  reportData : c.kind.format.reportData.read c.quote =
    X.sha2.hash .sha256 c.claimsBuffer ++ List.replicate 32 0

/-- What acceptance with these claims is to mean: the links with the quote as its own version
has it, and claims of this quote or of the claims buffer. -/
structure Sound (D : Dcap) (der : Bytes) (claims : Claims) (c : Chain) : Prop extends Links X der c where
  accepted : c.kind.Accepts c.quote
  passes : D.Passes c.quote
  reportData : (c.kind.ownFormat c.quote).reportData.read c.quote =
    X.sha2.hash .sha256 c.claimsBuffer ++ List.replicate 32 0
  claims : ∀ e ∈ claims.entries,
    e ∈ (c.kind.ownFormat c.quote).entries c.quote ∨ e ∈ c.customClaims.entries

end Chain

variable {X}

theorem verifyRsa_eq_ok {algo : HashAlgo} {spki : SubjectPublicKeyInfo} {data signature : Bytes}
    {u : Unit} : verifyRsa X algo spki data signature = .ok u ↔
      ∃ key s, X.rsa.tryFromSpki spki = .ok key ∧ X.rsa.tryFromBytes signature = .ok s ∧
        X.rsa.verify algo key data s = .ok () := by
  simp only [verifyRsa, bind_eq_ok, Res.ofForeign_eq_ok]
  constructor
  · rintro ⟨k, hk, s, hs, hv⟩
    exact ⟨k, s, hk, hs, hv⟩
  · rintro ⟨k, s, hk, hs, hv⟩
    exact ⟨k, hk, s, hs, hv⟩

theorem verifyEcdsa_eq_ok {spki : SubjectPublicKeyInfo} {data signature : Bytes} {u : Unit} :
    verifyEcdsa X spki data signature = .ok u ↔
      ∃ key s, X.p256.tryFromSpki spki = .ok key ∧ X.p256.tryFromBytes signature = .ok s ∧
        X.p256.verify () key data s = .ok () := by
  simp only [verifyEcdsa, bind_eq_ok, Res.ofForeign_eq_ok]
  constructor
  · rintro ⟨s, hs, k, hk, hv⟩
    exact ⟨k, s, hk, hs, hv⟩
  · rintro ⟨k, s, hk, hs, hv⟩
    exact ⟨s, hs, k, hk, hv⟩

/-- The four identifiers are distinct, so each arm is about its own. -/
theorem verifySignedData_eq_ok {issuer : Certificate} {data signature : Bytes}
    {algo : AlgorithmIdentifier} {u : Unit} :
    verifySignedData X issuer data signature algo = .ok u ↔
      VerifiesUnder X algo.oid issuer.tbsCertificate.subjectPublicKeyInfo data signature := by
  have hrsa : ∀ a, VerifiesUnder X (rsaEncryptionWith a) issuer.tbsCertificate.subjectPublicKeyInfo
      data signature ↔ ∃ key s, X.rsa.tryFromSpki issuer.tbsCertificate.subjectPublicKeyInfo = .ok key ∧
        X.rsa.tryFromBytes signature = .ok s ∧ X.rsa.verify a key data s = .ok () := by
    intro a
    constructor
    · rintro (⟨b, hb, h⟩ | ⟨hb, -⟩)
      · have hab : b = a := by cases a <;> cases b <;> first | rfl | cases hb
        exact hab ▸ h
      · cases a <;> cases hb
    · exact fun h => .inl ⟨a, rfl, h⟩
  unfold verifySignedData
  dsimp only
  split
  next h => rw [h, verifyRsa_eq_ok]; exact (hrsa .sha256).symm
  next h1 =>
    split
    next h => rw [h, verifyRsa_eq_ok]; exact (hrsa .sha384).symm
    next h2 =>
      split
      next h => rw [h, verifyRsa_eq_ok]; exact (hrsa .sha512).symm
      next h3 =>
        split
        next h =>
          rw [h, verifyEcdsa_eq_ok]
          refine ⟨fun hv => .inr ⟨rfl, hv⟩, ?_⟩
          rintro (⟨a, ha, -⟩ | ⟨-, hv⟩)
          · cases a <;> cases ha
          · exact hv
        next h4 =>
          simp only [Res.fail, reduceCtorEq, false_iff]
          rintro (⟨a, ha, -⟩ | ⟨ha, -⟩)
          · cases a
            · exact h1 ha
            · exact h2 ha
            · exact h3 ha
          · exact h4 ha

theorem verifyCertSignature_eq_ok {cert : Certificate} {u : Unit} :
    verifyCertSignature X cert cert = .ok u ↔
      cert.tbsCertificate.subject = cert.tbsCertificate.issuer ∧ SelfSigned X cert := by
  simp only [verifyCertSignature, bind_eq_ok, Res.ensure_eq_ok, Res.ofForeign_eq_ok, exists_const,
    SelfSigned]
  refine and_congr_right fun _ => exists_congr fun tbs => ?_
  cases hs : cert.signature.asBytes with
  | none => simp [Res.fail]
  | some signature => simp [verifySignedData_eq_ok]

/-- **Verification succeeds exactly along a valid chain**, and returns the claims of the
quote with the new ones of the claims buffer behind them. -/
theorem verifyCertDer_eq_ok {D : Dcap} {der : Bytes} {claims : Claims} :
    verifyCertDer X D der = .ok claims ↔
      ∃ c : Chain, c.Valid X D der ∧ claims = mergeClaims c.builtinClaims c.customClaims := by
  have hlen : ∀ cb, (X.sha2.hash .sha256 cb).length = 32 := fun cb => X.sha2.length_hash .sha256 cb
  simp only [verifyCertDer, bind_eq_ok, Res.context_eq_ok, Res.kind_eq_ok, Res.ofForeign_eq_ok,
    verifyCertSignature_eq_ok, exists_const]
  constructor
  · rintro ⟨cert, hparsed, ⟨hissued, hsigned⟩, h⟩
    cases hext : extractExtWithOid cert oidTcgDiceTaggedEvidence with
    | none => rw [hext] at h; cases h
    | some evidenceBuffer =>
      rw [hext] at h
      simp only [bind_eq_ok] at h
      obtain ⟨⟨tag, quote, claimsBuffer⟩, htagged, evidence, hcreate, h⟩ := h
      obtain ⟨rfl, kind, hkind, rfl⟩ := AutoEvidence.createEvidenceFromDice_eq_ok.mp hcreate
      obtain ⟨u, hverify, builtin, hbuiltin, custom, hcustom, h⟩ := h
      have hle : (X.sha2.hash .sha256 claimsBuffer).length ≤ 64 := by rw [hlen]; omega
      obtain ⟨hpasses, hreport⟩ := (QuoteKind.verifyEvidence_eq_ok hkind hle).mp hverify
      rw [QuoteKind.getClaims_eq hkind] at hbuiltin
      cases hbuiltin
      cases hget : custom.get claimNamePublicKeyHash with
      | none => rw [hget] at h; cases h
      | some pubkeyHashValueBuffer =>
        rw [hget] at h
        simp only [bind_eq_ok, Res.ofForeign_eq_ok, Res.ensure_eq_ok, exists_const, pure_eq_ok] at h
        obtain ⟨⟨algo, hash⟩, hpubkey, spki, hspki, hhash, rfl⟩ := h
        refine ⟨⟨cert, evidenceBuffer, quote, kind, claimsBuffer, custom, pubkeyHashValueBuffer, algo, spki⟩,
          ?_, rfl⟩
        exact {
          parsed := hparsed
          selfIssued := hissued
          selfSigned := hsigned
          evidence := hext
          tagged := htagged
          accepted := hkind
          passes := hpasses
          reportData := by rw [hreport, hlen]
          custom := hcustom
          pubkeyHashValue := hget
          spkiDer := hspki
          pubkeyHash := by rw [hpubkey]; exact congrArg (fun x => Except.ok (algo, x)) hhash }
  · rintro ⟨c, v, rfl⟩
    have hle : (X.sha2.hash .sha256 c.claimsBuffer).length ≤ 64 := by rw [hlen]; omega
    have hreport : c.kind.format.reportData.read c.quote = X.sha2.hash .sha256 c.claimsBuffer ++
        List.replicate (64 - (X.sha2.hash .sha256 c.claimsBuffer).length) 0 := by
      rw [v.reportData, hlen]
    refine ⟨c.cert, v.parsed, ⟨v.selfIssued, v.selfSigned⟩, ?_⟩
    simp only [v.evidence, bind_eq_ok]
    refine ⟨_, v.tagged, _, AutoEvidence.createEvidenceFromDice_eq_ok.mpr ⟨rfl, c.kind, v.accepted, rfl⟩,
      (), (QuoteKind.verifyEvidence_eq_ok v.accepted hle).mpr ⟨v.passes, hreport⟩, _,
      QuoteKind.getClaims_eq v.accepted, _, v.custom, ?_⟩
    simp only [v.pubkeyHashValue, bind_eq_ok]
    exact ⟨_, v.pubkeyHash, _, Res.ofForeign_eq_ok.mpr v.spkiDer, (), Res.ensure_true rfl, rfl⟩

/-- What merging returns is a claim of one of the two. -/
theorem mem_mergeClaims {builtin custom : Claims} {e : String × Bytes}
    (h : e ∈ (mergeClaims builtin custom).entries) : e ∈ builtin.entries ∨ e ∈ custom.entries := by
  rw [mergeClaims, IndexMap.addNew_entries _ _ custom.nodup, List.mem_append] at h
  exact h.imp_right List.mem_of_mem_filter

variable (X)

/-- Quote and claims buffer in a certificate. -/
def evidenceOf (der : Bytes) : Option (Bytes × Bytes) := do
  let cert ← (X.x509.fromDer der).toOption
  let evidenceBuffer ← extractExtWithOid cert oidTcgDiceTaggedEvidence
  let (_, quote, claimsBuffer) ← (parseEvidenceBufferWithTag X.ciborium evidenceBuffer).toOption
  pure (quote, claimsBuffer)

def quoteOf (der : Bytes) : Option Bytes := (evidenceOf X der).map Prod.fst

def claimsBufferOf (der : Bytes) : Option Bytes := (evidenceOf X der).map Prod.snd

variable {X}

theorem Chain.Links.evidenceOf_eq {der : Bytes} {c : Chain} (v : c.Links X der) :
    evidenceOf X der = some (c.quote, c.claimsBuffer) := by
  simp only [evidenceOf, v.parsed, v.evidence, v.tagged, Except.toOption, Option.bind_eq_bind,
    Option.bind_some, Option.pure_def]

theorem Chain.Links.quoteOf_eq {der : Bytes} {c : Chain} (v : c.Links X der) : quoteOf X der = some c.quote := by
  rw [quoteOf, v.evidenceOf_eq, Option.map_some]

/-- About a `sgx_quote5_t` no chain is sound: its parser takes none about a padded digest. -/
theorem Chain.Sound.not_sgxQuote5 {D : Dcap} {der : Bytes} {claims : Claims} {c : Chain}
    (v : c.Sound X D der claims) : ¬ IsSgxQuote5 c.quote := by
  intro h5
  have haccepted := v.accepted
  have hreport := v.reportData
  cases hkind : c.kind with
  | sgx =>
    rw [hkind] at hreport
    exact QuoteKind.not_accepts_of_padded h5 (X.sha2.length_hash .sha256 c.claimsBuffer) hreport c.kind haccepted
  | tdx l =>
    rw [hkind] at haccepted
    exact QuoteKind.tdx_not_sgxQuote5 haccepted h5

/-- Where the quote is read by its own layout, what is verified is what is meant. -/
theorem Chain.Valid.sound {D : Dcap} {der : Bytes} {c : Chain} (v : c.Valid X D der)
    (hown : c.kind.ownFormat c.quote = c.kind.format) :
    c.Sound X D der (mergeClaims c.builtinClaims c.customClaims) := by
  refine { v.toLinks with
    accepted := v.accepted
    passes := v.passes
    reportData := ?_
    claims := ?_ }
  · rw [hown]
    exact v.reportData
  · rw [hown]
    exact fun _ he => mem_mergeClaims he

/-- **Soundness.** Behind accepted claims there is a certificate signed by its own key
with evidence in it, a quote that its parser and the library accept, whose report data is
the hash of the claims buffer, and a claim in there that names the key, and every claim is
one of the quote or one of the claims buffer, exactly if the quote is not an SGX quote of
version 5. -/
theorem verifyCertDer_sound_iff {D : Dcap} {der : Bytes} {claims : Claims}
    (h : verifyCertDer X D der = .ok claims) :
    (∃ c : Chain, c.Sound X D der claims) ↔ ∀ quote, quoteOf X der = some quote → ¬ IsSgxQuote5 quote := by
  constructor
  · rintro ⟨c, v⟩ quote hquote
    rw [v.quoteOf_eq] at hquote
    obtain rfl := Option.some.inj hquote
    exact v.not_sgxQuote5
  · intro hquote
    obtain ⟨c, v, rfl⟩ := verifyCertDer_eq_ok.mp h
    have hown : c.kind.ownFormat c.quote = c.kind.format :=
      QuoteKind.ownFormat_eq v.accepted (hquote c.quote v.quoteOf_eq)
    exact ⟨c, v.sound hown⟩

theorem Sample.verify_firstDer :
    verifyCertDer Sample.externals Sample.dcap Sample.firstDer = .ok Sample.verifiedClaims := by
  decide +kernel

theorem firstDer_sound_iff :
    (∃ c : Chain, c.Sound Sample.externals Sample.dcap Sample.firstDer Sample.verifiedClaims) ↔
      ∀ quote, quoteOf Sample.externals Sample.firstDer = some quote → ¬ IsSgxQuote5 quote :=
  verifyCertDer_sound_iff Sample.verify_firstDer

/-- The digest is where `sgx_quote3_t` has the report data, and not in them. -/
theorem misreadDer_unsound :
    (∃ claims, verifyCertDer Sample.externals Sample.dcap Sample.misreadDer = .ok claims ∧
      ¬ ∃ c : Chain, c.Sound Sample.externals Sample.dcap Sample.misreadDer claims) ∧
    quoteOf Sample.externals Sample.misreadDer = some Sample.misreadQuote ∧
    SgxDcapEvidence.WellFormed Sample.misreadQuote ∧
    (QuoteKind.sgx.ownFormat Sample.misreadQuote).reportData.read Sample.misreadQuote ≠
      Sample.sha2.hash .sha256 Sample.claimsBuffer ++ List.replicate 32 0 := by
  have hclaims : verifyCertDer Sample.externals Sample.dcap Sample.misreadDer =
      .ok (mergeClaims (QuoteKind.sgx.format.claims Sample.misreadQuote) Sample.claims) := by decide +kernel
  have hquote : quoteOf Sample.externals Sample.misreadDer = some Sample.misreadQuote := by decide +kernel
  refine ⟨⟨_, hclaims, ?_⟩, hquote, ?_, by decide +kernel⟩
  · rintro ⟨c, v⟩
    have hsame := v.quoteOf_eq
    rw [hquote] at hsame
    obtain hsame := Option.some.inj hsame
    exact v.not_sgxQuote5 (hsame ▸ by decide +kernel)
  · exact ⟨by decide +kernel, by decide +kernel, fun _ => by decide +kernel, by decide +kernel⟩

/-! ### Two certificates -/

variable (X)

/-- The encoded SubjectPublicKeyInfo in a certificate. -/
def spkiDerOf (der : Bytes) : Option Bytes := do
  let cert ← (X.x509.fromDer der).toOption
  (X.x509.spkiToDer cert.tbsCertificate.subjectPublicKeyInfo).toOption

/-- What is hashed on the way to accepting a certificate. -/
def hashedIn (der : Bytes) : Set Bytes :=
  {b | claimsBufferOf X der = some b ∨ spkiDerOf X der = some b}

variable {X}

namespace Chain.Valid
variable {D : Dcap} {der : Bytes} {c : Chain}

theorem claimsBufferOf_eq (v : c.Valid X D der) : claimsBufferOf X der = some c.claimsBuffer := by
  rw [claimsBufferOf, v.evidenceOf_eq, Option.map_some]

theorem spkiDerOf_eq (v : c.Valid X D der) : spkiDerOf X der = some c.spki := by
  simp only [spkiDerOf, v.parsed, v.spkiDer, Except.toOption, Option.bind_eq_bind, Option.bind_some]

end Chain.Valid

/-- **Evidence cannot be moved.** Two accepted certificates with the same quote have the
same claims buffer, the same public key and the same claims, whatever else is in them and
whatever the library said about the quote: the quote gives the report data, that the
claims buffer, and that the hash of the key, with its algorithm. -/
theorem evidence_determines {D₁ D₂ : Dcap} {der₁ der₂ : Bytes} {claims₁ claims₂ : Claims}
    (h₁ : verifyCertDer X D₁ der₁ = .ok claims₁) (h₂ : verifyCertDer X D₂ der₂ = .ok claims₂)
    (hquote : quoteOf X der₁ = quoteOf X der₂)
    (hfree : X.sha2.CollisionFree (hashedIn X der₁ ∪ hashedIn X der₂)) :
    claimsBufferOf X der₁ = claimsBufferOf X der₂ ∧ spkiDerOf X der₁ = spkiDerOf X der₂ ∧
      claims₁ = claims₂ := by
  obtain ⟨c, v, rfl⟩ := verifyCertDer_eq_ok.mp h₁
  obtain ⟨d, w, rfl⟩ := verifyCertDer_eq_ok.mp h₂
  rw [v.quoteOf_eq, w.quoteOf_eq, Option.some.injEq] at hquote
  have hkind : c.kind = d.kind := QuoteKind.Accepts.unique v.accepted (hquote ▸ w.accepted)
  -- The report data is in the quote, so the hashes of the claims buffers agree.
  have hbuffer : c.claimsBuffer = d.claimsBuffer := by
    have hreport := v.reportData
    rw [hquote, hkind, w.reportData] at hreport
    exact hfree .sha256 (.inl (.inl v.claimsBufferOf_eq)) (.inr (.inl w.claimsBufferOf_eq))
      (List.append_cancel_right hreport).symm
  -- One claims buffer is one map of claims, with one claim about the key.
  have hcustom : c.customClaims = d.customClaims :=
    Except.ok.inj (v.custom.symm.trans (hbuffer ▸ w.custom))
  have hvalue : c.pubkeyHashValueBuffer = d.pubkeyHashValueBuffer :=
    Option.some.inj (v.pubkeyHashValue.symm.trans (hcustom ▸ w.pubkeyHashValue))
  have hpubkey := v.pubkeyHash.symm.trans (hvalue ▸ w.pubkeyHash)
  rw [Except.ok.injEq, Prod.mk.injEq] at hpubkey
  obtain ⟨halgo, hhash⟩ := hpubkey
  have hspki : c.spki = d.spki := by
    rw [← halgo] at hhash
    exact hfree _ (.inl (.inr v.spkiDerOf_eq)) (.inr (.inr w.spkiDerOf_eq)) hhash
  refine ⟨?_, ?_, ?_⟩
  · rw [v.claimsBufferOf_eq, w.claimsBufferOf_eq, hbuffer]
  · rw [v.spkiDerOf_eq, w.spkiDerOf_eq, hspki]
  · rw [Chain.builtinClaims, Chain.builtinClaims, hquote, hkind, hcustom]

end Links

/-- In either sample the claims buffer and the key are hashed. -/
theorem Sample.hashedIn_subset : hashedIn Sample.externals Sample.firstDer ∪
    hashedIn Sample.externals Sample.secondDer ⊆ {Sample.claimsBuffer, Sample.spkiDer} := by
  have hbuffer : ∀ der ∈ [Sample.firstDer, Sample.secondDer],
      claimsBufferOf Sample.externals der = some Sample.claimsBuffer ∧
        spkiDerOf Sample.externals der = some Sample.spkiDer := by decide +kernel
  have hboth : ∀ der ∈ [Sample.firstDer, Sample.secondDer],
      hashedIn Sample.externals der ⊆ {Sample.claimsBuffer, Sample.spkiDer} := by
    rintro der hder b (hb | hb)
    · rw [(hbuffer der hder).1] at hb
      exact .inl (Option.some.inj hb).symm
    · rw [(hbuffer der hder).2] at hb
      exact .inr (Option.some.inj hb).symm
  exact Set.union_subset (hboth _ (by simp)) (hboth _ (by simp))

theorem Sample.collisionFree : Sample.externals.sha2.CollisionFree
    (hashedIn Sample.externals Sample.firstDer ∪ hashedIn Sample.externals Sample.secondDer) := by
  have hne : ∀ algo, Sample.sha2.hash algo Sample.claimsBuffer ≠ Sample.sha2.hash algo Sample.spkiDer := by
    intro algo
    cases algo <;> decide +kernel
  intro algo
  refine Set.InjOn.mono Sample.hashedIn_subset ?_
  rintro a (rfl | rfl) b (rfl | rfl) hab
  · rfl
  · exact absurd hab (hne algo)
  · exact absurd hab.symm (hne algo)
  · rfl

theorem Sample.verify_secondDer :
    verifyCertDer Sample.externals Sample.dcap Sample.secondDer = .ok Sample.verifiedClaims := by
  decide +kernel

/-- The two samples differ in serial number and signature only. -/
theorem samples_agree : claimsBufferOf Sample.externals Sample.firstDer =
      claimsBufferOf Sample.externals Sample.secondDer ∧
    spkiDerOf Sample.externals Sample.firstDer = spkiDerOf Sample.externals Sample.secondDer ∧
    Sample.verifiedClaims = Sample.verifiedClaims :=
  evidence_determines Sample.verify_firstDer Sample.verify_secondDer (by decide +kernel)
    Sample.collisionFree

end RatsRs.Cert
