import RatsRs.Cert.Completeness
import RatsRs.Keys
import RatsRs.Tee.Attester

/-! What a certificate builder makes.

Every certificate that is built for a key starts a chain to the evidence it was built with, and holds the key: on
a node with an honest attester the verifier accepts it, whatever the key, the hash and the claims. -/
namespace RatsRs.Cert
open Lib Tee

section Build
variable {X : Externals}

/-- `build`, with a key of its own. -/
def CertBuilder.build {ρ : Type} (K : KeyCrates X.rsa X.p256 ρ) (b : CertBuilder) (rng : ρ)
    (privateKeyAlgo : AsymmetricAlgo) : Res (CertBundle X) := do
  let key ← genPrivateKey K rng privateKeyAlgo
  let (cert, evidence) ← b.buildWithPrivateKeyInner X key
  pure ⟨key, cert, evidence⟩

/-- The certificate of a bundle starts a valid chain to the evidence of the bundle, and holds its key. -/
structure CertBundle.Chained (D : Dcap) (bundle : CertBundle X) (der : Bytes) (c : Chain) : Prop where
  valid : c.Valid X D der
  evidence : bundle.evidence = c.kind.evidence c.quote
  key : pubKeyInfo X bundle.privateKey = .ok c.cert.tbsCertificate.subjectPublicKeyInfo

theorem CertBuilder.inner_chained (hX : X.Lawful) {D : Dcap} {b : CertBuilder} (hattester : Honest D b.getEvidence)
    {bundle : CertBundle X} {der : Bytes}
    (hinner : b.buildWithPrivateKeyInner X bundle.privateKey = .ok (bundle.cert, bundle.evidence))
    (hder : bundle.certToDer X = .ok der) : ∃ c, bundle.Chained D der c := by
  obtain ⟨c, hmade⟩ := CertBuilder.inner_made hX hinner hder
  obtain ⟨d, hvalid, hmade, hevidence⟩ := hmade.valid (hattester _ _ hmade.asked)
  exact ⟨d, hvalid, hevidence, hmade.key⟩

theorem CertBuilder.build_chained (hX : X.Lawful) {D : Dcap} {ρ : Type} {K : KeyCrates X.rsa X.p256 ρ}
    {b : CertBuilder} (hattester : Honest D b.getEvidence) {rng : ρ} {privateKeyAlgo : AsymmetricAlgo}
    {bundle : CertBundle X} {der : Bytes} (hbuild : b.build K rng privateKeyAlgo = .ok bundle)
    (hder : bundle.certToDer X = .ok der) :
    genPrivateKey K rng privateKeyAlgo = .ok bundle.privateKey ∧ ∃ c, bundle.Chained D der c := by
  simp only [CertBuilder.build, bind_eq_ok, pure_eq_ok] at hbuild
  obtain ⟨key, hgen, ⟨cert, evidence⟩, hinner, rfl⟩ := hbuild
  exact ⟨hgen, CertBuilder.inner_chained hX hattester hinner hder⟩

/-- With a key that is given. -/
theorem CertBuilder.buildWithPrivateKey_chained (hX : X.Lawful) {D : Dcap} {b : CertBuilder}
    (hattester : Honest D b.getEvidence) {key : AsymmetricPrivateKey X.rsa X.p256} {bundle : CertBundle X}
    {der : Bytes} (hbuild : b.buildWithPrivateKey X key = .ok bundle) (hder : bundle.certToDer X = .ok der) :
    bundle.privateKey = key ∧ ∃ c, bundle.Chained D der c := by
  simp only [CertBuilder.buildWithPrivateKey, bind_eq_ok, pure_eq_ok] at hbuild
  obtain ⟨⟨cert, evidence⟩, hinner, rfl⟩ := hbuild
  exact ⟨rfl, CertBuilder.inner_chained hX hattester hinner hder⟩

end Build

/-! ### The attester of a node -/

section Node
variable {D : Dcap} {env : Environment} {O : OcclumDcap} {T : TdxAttest} {reportData : Bytes} {e : AutoEvidence}

/-- On platforms that quote what they are given, what `AutoAttester` answers quotes what it is asked. Occlum's
quotes are of version 3. -/
theorem AutoAttester.getEvidence_quotes (hO : ∀ reportData, O.QuotesReportData reportData)
    (hT : ∀ reportData, T.QuotesReportData reportData) (hpasses : D.Passes e.getDiceRawEvidence)
    (h : AutoAttester.getEvidence env O T reportData = .ok e) :
    Quotes D reportData e ∧ ¬ IsSgxQuote5 e.getDiceRawEvidence := by
  unfold AutoAttester.getEvidence at h
  split at h
  · rcases hevidence : SgxDcapAttester.getEvidence O reportData with _ | evidence <;> rw [hevidence] at h <;> cases h
    obtain ⟨-, handler, buffer, hquote⟩ := SgxDcapAttester.getEvidence_eq_ok hevidence
    obtain ⟨haccepted, hversion, hreport⟩ := hO _ handler buffer evidence.data hquote
    have hne : (headerOf evidence.data).version ≠ 5 := by
      rw [hversion]
      decide
    exact ⟨⟨.sgx, evidence.data, rfl, (SgxDcapEvidence.accepted_iff_wellFormed hne).mp haccepted, hreport, hpasses⟩,
      fun h5 => hne h5.1⟩
  · rcases hevidence : TdxAttester.getEvidence T reportData with _ | evidence <;> rw [hevidence] at h <;> cases h
    obtain ⟨-, hquote⟩ := TdxAttester.getEvidence_eq_ok hevidence
    obtain ⟨l, hmatches, hreport⟩ := hT _ evidence.data hquote
    exact ⟨⟨.tdx l, evidence.data, rfl, hmatches, hreport, hpasses⟩, QuoteKind.tdx_not_sgxQuote5 hmatches⟩
  · cases h

variable (hO : ∀ reportData, O.QuotesReportData reportData) (hT : ∀ reportData, T.QuotesReportData reportData)
  (hpasses : ∀ reportData e, AutoAttester.getEvidence env O T reportData = .ok e → D.Passes e.getDiceRawEvidence)
include hO hT hpasses

theorem AutoAttester.genuine : Genuine D (AutoAttester.getEvidence env O T) := fun reportData e h =>
  (AutoAttester.getEvidence_quotes hO hT (hpasses reportData e h) h).1

theorem AutoAttester.honest : Honest D (AutoAttester.getEvidence env O T) := by
  intro reportData e h
  obtain ⟨hquotes, h5⟩ := AutoAttester.getEvidence_quotes hO hT (hpasses reportData e h) h
  exact hquotes.vouches h5

end Node

end RatsRs.Cert
