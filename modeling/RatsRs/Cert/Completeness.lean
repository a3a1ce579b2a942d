import RatsRs.Cert.Create
import RatsRs.Cert.Soundness

/-! Verification undoes building.

A certificate from the builder is the start of a valid chain: each link that
verification checks was made by the step of building that it undoes. With an honest
attester the chain is complete, and the claims are those of the evidence and the
builder's own. -/
namespace RatsRs.Cert
open Lib Tee

section Completeness
variable {X : Externals}

/-! ### The signature -/

/-- What a key of either kind signs verifies under its public half, by the algorithm its
signing key names; a P-256 key does not look at the hash algorithm. -/
theorem signer_verifies (hX : X.Lawful) {hashAlgo : HashAlgo} {key : AsymmetricPrivateKey X.rsa X.p256}
    {spki : SubjectPublicKeyInfo} {algo : AlgorithmIdentifier} {data signature : Bytes}
    (hspki : pubKeyInfo X key = .ok spki)
    (halgo : (signerOf X hashAlgo key).signatureAlgorithmIdentifier = .ok algo)
    (hsign : (signerOf X hashAlgo key).trySign data = .ok signature) :
    VerifiesUnder X algo.oid spki data signature := by
  have hrsa : ∀ k, X.rsa.fromKey (X.rsa.toPublicKey k) = .ok spki →
      (rsaSigner X hashAlgo k).signatureAlgorithmIdentifier = .ok algo →
      (rsaSigner X hashAlgo k).trySign data = .ok signature →
      VerifiesUnder X algo.oid spki data signature := by
    intro k hk ha hs
    obtain ⟨s, hs, hv⟩ := hX.rsa.verify_sign _ _ _ _ hs
    exact .inl ⟨hashAlgo, hX.rsa.identifier _ _ ha, _, s, hX.rsa.tryFromSpki_fromKey _ _ hk, hs, hv⟩
  cases key with
  | rsa2048 k => exact hrsa k hspki halgo hsign
  | rsa3072 k => exact hrsa k hspki halgo hsign
  | rsa4096 k => exact hrsa k hspki halgo hsign
  | p256 k =>
    obtain ⟨s, hs, hv⟩ := hX.p256.verify_sign _ _ _ _ hsign
    exact .inr ⟨hX.p256.identifier _ _ halgo, _, s, hX.p256.tryFromSpki_fromKey _ _ hspki, hs, hv⟩

/-- The hash in the claim is that of the SubjectPublicKeyInfo in the certificate. -/
theorem hashOfPrivateKey_eq (hX : X.Lawful) {hashAlgo : HashAlgo}
    {key : AsymmetricPrivateKey X.rsa X.p256} {spki : SubjectPublicKeyInfo} {hash : Bytes}
    (hspki : pubKeyInfo X key = .ok spki) (hhash : hashOfPrivateKey X.sha2 hashAlgo key = .ok hash) :
    ∃ der, X.x509.spkiToDer spki = .ok der ∧ hash = X.sha2.hash hashAlgo der := by
  simp only [hashOfPrivateKey, bind_eq_ok, Res.ofForeign_eq_ok, pure_eq_ok] at hhash
  obtain ⟨der, hder, rfl⟩ := hhash
  refine ⟨der, ?_, rfl⟩
  cases key with
  | rsa2048 k => exact hX.rsa.spkiToDer_fromKey _ _ _ hspki hder
  | rsa3072 k => exact hX.rsa.spkiToDer_fromKey _ _ _ hspki hder
  | rsa4096 k => exact hX.rsa.spkiToDer_fromKey _ _ _ hspki hder
  | p256 k => exact hX.p256.spkiToDer_fromKey _ _ _ hspki hder

/-! ### The certificate -/

theorem addExtension_eq_ok {b b' : CertificateBuilder} {extension : Except String Extension}
    {context : String} : addExtension X b extension context = .ok b' ↔
      ∃ e, extension = .ok e ∧ X.x509.builderAddExtension b e = .ok b' := by
  simp only [addExtension, genCert_eq_ok, bind_eq_ok]

/-- The evidence extension holds the evidence buffer. -/
theorem diceExtension_eq_ok (hX : X.Lawful) {oid : Oid} {buffer : Bytes} {extension : Extension}
    (h : diceExtension X oid buffer = .ok extension) : extension = ⟨oid, false, buffer⟩ := by
  simp only [diceExtension, bind_eq_ok, pure_eq_ok] at h
  obtain ⟨content, hcontent, rfl⟩ := h
  rw [hX.x509.octetString _ _ hcontent]

/-- **A built certificate** names itself as its issuer, holds the key it is signed with,
and the first extension with the identifier of evidence is the evidence buffer. -/
theorem buildWithSigner_eq_ok (hX : X.Lawful) {validity : Validity} {subject : Name}
    {spki : SubjectPublicKeyInfo} {evidenceBuffer endorsementsBuffer : Bytes} {signer : Signer}
    {cert : Certificate}
    (h : buildWithSigner X validity subject spki evidenceBuffer (some endorsementsBuffer) signer =
      .ok cert) :
    cert.tbsCertificate.subject = cert.tbsCertificate.issuer ∧
    cert.tbsCertificate.subjectPublicKeyInfo = spki ∧
    extractExtWithOid cert oidTcgDiceTaggedEvidence = some evidenceBuffer ∧
    signer.signatureAlgorithmIdentifier = .ok cert.signatureAlgorithm ∧
    ∃ blob signature, X.x509.tbsToDer cert.tbsCertificate = .ok blob ∧
      signer.trySign blob = .ok signature ∧ cert.signature.asBytes = some signature := by
  simp only [buildWithSigner, addEndorsement, bind_eq_ok, genCert_eq_ok, Res.ofForeign_eq_ok,
    addExtension_eq_ok] at h
  obtain ⟨b0, hnew, skid, -, b1, ⟨ski, hski, h1⟩, b2, ⟨bc, hbc, h2⟩, b3, ⟨ku, hku, h3⟩,
    b4, ⟨ev, hev, h4⟩, b5, ⟨en, hen, h5⟩, hbuild⟩ := h
  obtain ⟨hissuer, hsubject, hspki, halgo, hempty, hsigner⟩ := hX.x509.builderNew _ _ _ _ _ _ _ hnew
  obtain rfl := hX.x509.builderAddExtension _ _ _ h1
  obtain rfl := hX.x509.builderAddExtension _ _ _ h2
  obtain rfl := hX.x509.builderAddExtension _ _ _ h3
  obtain rfl := hX.x509.builderAddExtension _ _ _ h4
  obtain rfl := hX.x509.builderAddExtension _ _ _ h5
  obtain ⟨htbs, hsigalgo, blob, signature, hblob, hsign, hsignature⟩ :=
    hX.x509.builderBuild _ _ (by simp) hbuild
  obtain rfl := diceExtension_eq_ok hX hev
  -- The three extensions in front have identifiers of their own.
  have hski := hX.x509.subjectKeyIdentifier _ _ hski
  have hbc := hX.x509.basicConstraints _ _ _ hbc
  have hku := hX.x509.keyUsage _ _ hku
  have hfind : extractExtWithOid cert oidTcgDiceTaggedEvidence = some evidenceBuffer := by
    simp [extractExtWithOid, htbs, hempty, hski, hbc, hku, oidTcgDiceTaggedEvidence]
  refine ⟨by rw [htbs]; exact hsubject.trans hissuer.symm, by rw [htbs]; exact hspki, hfind,
    by rw [hsigalgo]; exact halgo, blob, signature, hblob, by rw [← hsigner]; exact hsign, ?_⟩
  rw [hsignature]
  rfl

/-! ### The chain -/

/-- The evidence is a quote that some parser accepts, about the report data where this parser reads
them, and the library passes it. -/
def Vouches (D : Dcap) (reportData : Bytes) (e : AutoEvidence) : Prop :=
  ∃ k : QuoteKind, ∃ quote, e = k.evidence quote ∧ k.Accepts quote ∧
    k.format.reportData.read quote = reportData ++ List.replicate (64 - reportData.length) 0 ∧ D.Passes quote

/-- An attester whose evidence vouches for what it is asked, to the verifiers as they are: of its
SGX quotes this asks what is in them as `sgx_quote3_t`, whatever their version says. -/
def Honest (D : Dcap) (getEvidence : Bytes → Res AutoEvidence) : Prop :=
  ∀ reportData e, getEvidence reportData = .ok e → Vouches D reportData e

/-- The evidence is a complete quote with the report data, by the layout of its own version, and the
library passes it. -/
def Quotes (D : Dcap) (reportData : Bytes) (e : AutoEvidence) : Prop :=
  ∃ k : QuoteKind, ∃ quote, e = k.evidence quote ∧ k.WellFormed quote ∧
    (k.ownFormat quote).reportData.read quote = reportData ++ List.replicate (64 - reportData.length) 0 ∧
    D.Passes quote

/-- An attester that quotes what it is asked. -/
def Genuine (D : Dcap) (getEvidence : Bytes → Res AutoEvidence) : Prop :=
  ∀ reportData e, getEvidence reportData = .ok e → Quotes D reportData e

theorem getDiceCborTag_eq (e : AutoEvidence) : e.getDiceCborTag = ocbrTagEvidenceIntelTeeQuote := by
  cases e <;> rfl

theorem evidence_getDiceRawEvidence (k : QuoteKind) (quote : Bytes) :
    (k.evidence quote).getDiceRawEvidence = quote := by
  cases k <;> rfl

/-- A genuine quote vouches for its report data, if it is not an SGX quote of version 5. -/
theorem Quotes.vouches {D : Dcap} {reportData : Bytes} {e : AutoEvidence} (h : Quotes D reportData e)
    (h5 : ¬ IsSgxQuote5 e.getDiceRawEvidence) : Vouches D reportData e := by
  obtain ⟨k, quote, rfl, hwell, hreport, hpasses⟩ := h
  rw [evidence_getDiceRawEvidence] at h5
  have haccepts := hwell.accepts h5
  rw [QuoteKind.ownFormat_eq haccepts h5] at hreport
  exact ⟨k, quote, rfl, haccepts, hreport, hpasses⟩

/-- A `sgx_quote5_t` about a digest is taken by no parser. -/
theorem Quotes.not_accepts {D : Dcap} {hash : Bytes} {e : AutoEvidence} (h : Quotes D hash e)
    (hhash : hash.length = 32) (h5 : IsSgxQuote5 e.getDiceRawEvidence) (m : QuoteKind) :
    ¬ m.Accepts e.getDiceRawEvidence := by
  obtain ⟨k, quote, rfl, hwell, hreport, -⟩ := h
  rw [evidence_getDiceRawEvidence] at h5 ⊢
  rw [hhash] at hreport
  cases k with
  | sgx => exact QuoteKind.not_accepts_of_padded h5 hhash hreport m
  | tdx l => exact absurd h5 (QuoteKind.tdx_not_sgxQuote5 hwell)

/-- No quote has a claim with the name of the claim about the public key. -/
theorem pubkeyHash_not_builtin (k : QuoteKind) (quote : Bytes) :
    claimNamePublicKeyHash ∉ (k.format.claims quote).keys := by
  rw [QuoteFormat.keys_claims]
  cases k with
  | sgx => decide
  | tdx l => cases l <;> decide

/-- What building makes, whatever the attester says: the links from the certificate to the evidence
it was built with, and to the key. -/
structure CertBundle.Made (b : CertBuilder) (bundle : CertBundle X) (der : Bytes) (c : Chain) : Prop where
  links : c.Links X der
  quote : c.quote = bundle.evidence.getDiceRawEvidence
  asked : b.getEvidence (X.sha2.hash .sha256 c.claimsBuffer) = .ok bundle.evidence
  key : pubKeyInfo X bundle.privateKey = .ok c.cert.tbsCertificate.subjectPublicKeyInfo
  hash : hashOfPrivateKey X.sha2 b.hashAlgo bundle.privateKey = .ok (X.sha2.hash b.hashAlgo c.spki)
  value : generatePubkeyHashValueBuffer X.ciborium b.hashAlgo (X.sha2.hash b.hashAlgo c.spki) =
    .ok c.pubkeyHashValueBuffer
  claims : c.customClaims = b.customClaims.insert claimNamePublicKeyHash c.pubkeyHashValueBuffer

/-- The kind of the quote is no link. -/
theorem CertBundle.Made.withKind {b : CertBuilder} {bundle : CertBundle X} {der : Bytes} {c : Chain}
    (h : bundle.Made b der c) (kind : QuoteKind) : bundle.Made b der { c with kind := kind } :=
  { h with links := { h.links with } }

theorem CertBuilder.inner_made (hX : X.Lawful) {b : CertBuilder} {bundle : CertBundle X} {der : Bytes}
    (hinner : b.buildWithPrivateKeyInner X bundle.privateKey = .ok (bundle.cert, bundle.evidence))
    (hder : bundle.certToDer X = .ok der) : ∃ c, bundle.Made b der c := by
  simp only [CertBuilder.buildWithPrivateKeyInner, generateAndSignDiceCert, bind_eq_ok,
    genCert_eq_ok, pure_eq_ok] at hinner
  obtain ⟨hash, hhash, value, hvalue, claimsBuffer, hclaims, e, he, evidenceBuffer, hevidence, cert',
    ⟨validity, -, name, -, spki, hspki, hcert⟩, hpair⟩ := hinner
  obtain ⟨rfl, rfl⟩ := Prod.mk.inj hpair
  rw [getDiceCborTag_eq] at hevidence
  obtain ⟨hissuer, hkey, hext, halgo, blob, signature, hblob, hsign, hsignature⟩ :=
    buildWithSigner_eq_ok hX hcert
  obtain ⟨spkiDer, hspkiDer, rfl⟩ := hashOfPrivateKey_eq hX hspki hhash
  rw [CertBundle.certToDer, genCert_eq_ok] at hder
  refine ⟨⟨bundle.cert, evidenceBuffer, bundle.evidence.getDiceRawEvidence, .sgx, claimsBuffer,
    b.customClaims.insert claimNamePublicKeyHash value, value, b.hashAlgo, spkiDer⟩, ?_⟩
  exact {
    links := {
      parsed := hX.x509.fromDer_toDer _ _ hder
      selfIssued := hissuer
      selfSigned := ⟨blob, signature, hblob, hsignature, by rw [hkey]; exact signer_verifies hX hspki halgo hsign⟩
      evidence := hext
      tagged := parseEvidence_generate hX.ciborium (by decide) (by decide) hevidence
      custom := parseClaims_generate hX.ciborium hclaims
      pubkeyHashValue := IndexMap.get_insert_self _ _ _
      spkiDer := by rw [hkey]; exact hspkiDer
      pubkeyHash := parsePubkeyHash_generate hX.ciborium hvalue }
    quote := rfl
    asked := he
    key := by rw [hkey]; exact hspki
    hash := hhash
    value := hvalue
    claims := rfl }

/-- Where the evidence vouches for the claims buffer, the chain is valid. -/
theorem CertBundle.Made.valid {D : Dcap} {b : CertBuilder} {bundle : CertBundle X} {der : Bytes} {c : Chain}
    (h : bundle.Made b der c) (hvouches : Vouches D (X.sha2.hash .sha256 c.claimsBuffer) bundle.evidence) :
    ∃ d : Chain, d.Valid X D der ∧ bundle.Made b der d ∧ bundle.evidence = d.kind.evidence d.quote := by
  obtain ⟨kind, quote, he, haccepted, hreport, hpasses⟩ := hvouches
  have hmade := h.withKind kind
  have hquote : c.quote = quote := by rw [h.quote, he, evidence_getDiceRawEvidence]
  refine ⟨{ c with kind := kind }, { hmade.links with
    accepted := ?_
    passes := ?_
    reportData := ?_ }, hmade, ?_⟩
  · rw [hquote]
    exact haccepted
  · rw [hquote]
    exact hpasses
  · rw [hquote, hreport, X.sha2.length_hash]
    rfl
  · rw [hquote]
    exact he

/-- Verification undoes building: it succeeds, and the claims are the evidence's, by the layout of its
own version, and behind them the builder's with the library's own claim about the key, less those with
the name of one of the evidence. -/
def CertBuilder.Undone (D : Dcap) (b : CertBuilder) (key : AsymmetricPrivateKey X.rsa X.p256)
    (bundle : CertBundle X) (der : Bytes) : Prop :=
  ∃ pubkeyHash pubkeyHashValueBuffer builtinClaims claims,
    hashOfPrivateKey X.sha2 b.hashAlgo key = .ok pubkeyHash ∧
    generatePubkeyHashValueBuffer X.ciborium b.hashAlgo pubkeyHash = .ok pubkeyHashValueBuffer ∧
    bundle.evidence.getClaims = .ok builtinClaims ∧
    (∃ k : QuoteKind, ∃ quote, bundle.evidence = k.evidence quote ∧ k.WellFormed quote ∧
      builtinClaims = (k.ownFormat quote).claims quote) ∧
    verifyCertDer X D der = .ok claims ∧
    claims.entries = builtinClaims.entries ++
      (b.customClaims.insert claimNamePublicKeyHash pubkeyHashValueBuffer).entries.filter
        (fun e => decide (e.1 ∉ builtinClaims.keys)) ∧
    claims.get claimNamePublicKeyHash = some pubkeyHashValueBuffer

/-- **Verification undoes building**, with an attester that quotes what it is asked, exactly if the
quote in the certificate is not an SGX quote of version 5: of these every certificate is refused. -/
theorem verifyCertDer_buildWithPrivateKey_iff (hX : X.Lawful) {D : Dcap} {b : CertBuilder}
    (hattester : Genuine D b.getEvidence) {key : AsymmetricPrivateKey X.rsa X.p256}
    {bundle : CertBundle X} {der : Bytes} (hbuild : b.buildWithPrivateKey X key = .ok bundle)
    (hder : bundle.certToDer X = .ok der) :
    (∃ reportData, b.getEvidence reportData = .ok bundle.evidence) ∧
    (b.Undone D key bundle der ↔ ¬ IsSgxQuote5 bundle.evidence.getDiceRawEvidence) := by
  simp only [CertBuilder.buildWithPrivateKey, bind_eq_ok, pure_eq_ok] at hbuild
  obtain ⟨⟨cert, evidence⟩, hinner, rfl⟩ := hbuild
  obtain ⟨c, hmade⟩ := CertBuilder.inner_made hX hinner hder
  have hquotes := hattester _ _ hmade.asked
  refine ⟨⟨_, hmade.asked⟩, ?_, ?_⟩
  · rintro ⟨-, -, -, claims, -, -, -, -, hverify, -⟩ h5
    obtain ⟨d, hvalid, -⟩ := verifyCertDer_eq_ok.mp hverify
    have hsame : d.quote = c.quote :=
      Option.some.inj (hvalid.quoteOf_eq.symm.trans hmade.links.quoteOf_eq)
    have haccepted := hvalid.accepted
    rw [hsame, hmade.quote] at haccepted
    exact hquotes.not_accepts (X.sha2.length_hash .sha256 c.claimsBuffer) h5 d.kind haccepted
  · intro h5
    obtain ⟨d, hvalid, hmade, hevidence⟩ := hmade.valid (hquotes.vouches h5)
    rw [← hmade.quote] at h5
    have hown := QuoteKind.ownFormat_eq hvalid.accepted h5
    refine ⟨_, _, d.builtinClaims, _, hmade.hash, hmade.value, ?_, ?_,
      verifyCertDer_eq_ok.mpr ⟨d, hvalid, rfl⟩, ?_, ?_⟩
    · exact (congrArg AutoEvidence.getClaims hevidence).trans (QuoteKind.getClaims_eq hvalid.accepted)
    · exact ⟨d.kind, d.quote, hevidence, hvalid.accepted.wellFormed h5, by rw [hown, Chain.builtinClaims]⟩
    · rw [← hmade.claims]
      exact IndexMap.addNew_entries _ _ d.customClaims.nodup
    · have hnew : d.builtinClaims.get claimNamePublicKeyHash = none :=
        IndexMap.get_eq_none_iff.mpr (pubkeyHash_not_builtin d.kind d.quote)
      rw [mergeClaims, IndexMap.get_addNew, hnew, Option.none_or]
      exact hvalid.pubkeyHashValue

end Completeness

/-! ### The sample, built -/

namespace Sample

/-- An attester that was asked about the sample's claims. -/
def answering (quote : Bytes) (reportData : Bytes) : Res AutoEvidence :=
  if reportData = beBytes 32 sha256OfClaims then .ok (QuoteKind.sgx.evidence quote)
  else Res.fail .sgxDcapAttesterGenerateQuoteFailed "unknown report data"

theorem quote_accepted : QuoteKind.sgx.Accepts quote :=
  (SgxDcapEvidence.newFromUnchecked_eq_ok (e := ⟨quote⟩)).mp (by decide +kernel) |>.2

theorem dcap_passes (b : Bytes) : dcap.Passes b := ⟨3, 536, rfl, 0, .ok, rfl, trivial⟩

theorem answering_genuine {q : Bytes} (hwell : QuoteKind.sgx.WellFormed q)
    (hread : (QuoteKind.sgx.ownFormat q).reportData.read q = beBytes 32 sha256OfClaims ++ List.replicate 32 0) :
    Genuine dcap (answering q) := by
  intro reportData e h
  unfold answering at h
  split at h
  next hr =>
    subst hr
    exact ⟨.sgx, q, (Except.ok.inj h).symm, hwell, by rw [hread, length_beBytes], dcap_passes q⟩
  next => cases h

def builder (q : Bytes) : CertBuilder := (CertBuilder.new (answering q) .sha256).withClaims callerClaims

def bundle (s : Issued) : CertBundle externals := ⟨.p256 (), cert s, QuoteKind.sgx.evidence s.quote⟩

theorem build_eq {s : Issued} (hinner : (builder s.quote).buildWithPrivateKeyInner externals (.p256 ()) =
    .ok (cert s, QuoteKind.sgx.evidence s.quote)) :
    (builder s.quote).buildWithPrivateKey externals (.p256 ()) = .ok (bundle s) := by
  rw [CertBuilder.buildWithPrivateKey, hinner]
  rfl

end Sample

theorem sample_verified :
    (∃ reportData, Sample.answering Sample.quote reportData = .ok (Sample.bundle Sample.first).evidence) ∧
    ((Sample.builder Sample.quote).Undone (X := Sample.externals) Sample.dcap (.p256 ()) (Sample.bundle Sample.first)
        Sample.firstDer ↔
      ¬ IsSgxQuote5 (Sample.bundle Sample.first).evidence.getDiceRawEvidence) :=
  verifyCertDer_buildWithPrivateKey_iff Sample.externals_lawful
    (Sample.answering_genuine (QuoteKind.Accepts.wellFormed Sample.quote_accepted (by decide +kernel))
      (by decide +kernel))
    (Sample.build_eq (s := Sample.first) (by decide +kernel)) (by decide +kernel)

/-- A version 5 quote about the claims, and the certificate with it, which is refused. -/
theorem der5_refused : Genuine Sample.dcap (Sample.answering Sample.quote5) ∧
    (Sample.builder Sample.quote5).buildWithPrivateKey Sample.externals (.p256 ()) =
      .ok (Sample.bundle Sample.issued5) ∧
    (Sample.bundle Sample.issued5).certToDer Sample.externals = .ok Sample.der5 ∧
    ∀ claims, verifyCertDer Sample.externals Sample.dcap Sample.der5 ≠ .ok claims := by
  have hwell : SgxDcapEvidence.WellFormed Sample.quote5 :=
    ⟨by decide +kernel, by decide +kernel, fun _ => by decide +kernel, by decide +kernel⟩
  have hrefused : ¬ (verifyCertDer Sample.externals Sample.dcap Sample.der5).isOk := by decide +kernel
  refine ⟨Sample.answering_genuine hwell (by decide +kernel),
    Sample.build_eq (s := Sample.issued5) (by decide +kernel), by decide +kernel, ?_⟩
  intro claims h
  rw [h] at hrefused
  exact hrefused rfl

end RatsRs.Cert
