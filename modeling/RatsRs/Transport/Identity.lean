import RatsRs.Cert.Bundle
import RatsRs.Transport.CertProvider
import RatsRs.Transport.MeasurementProofs
import RatsRs.Transport.Plain
import RatsRs.Transport.Signer
import RatsRs.Transport.Verifiers

/-! What a responder attests itself with.

`build_with_tcp_stream` makes a key and a certificate for it, and hands `spdmlib` three things that it uses at
different times: the certificate, a signer and the measurements. They are of one key and one evidence
(`attested_coherent`). -/
namespace RatsRs.Transport
open Lib Tee Cert

/-! ### The three things -/

/-- `cert_provider`, `asym_signer` and `measurement_provider`. -/
structure Attestation (X : Externals) where
  certProvider : CertProvider
  asymSigner : RatsSecretAsymSigner X.rsa X.p256
  measurementProvider : RatsMeasurementProvider

section Attest
variable {X : Externals} {ρ : Type} (K : KeyCrates X.rsa X.p256 ρ)

/-- What `build_with_tcp_stream` does with `attest_self`. -/
def attestSelf (getEvidence : Bytes → Res AutoEvidence) (rng : ρ) : Res (Attestation X) := do
  let certBundle ← (CertBuilder.new getEvidence .sha256).build K rng .p256
  let certDer ← certBundle.certToDer X
  let measurementProvider ←
    RatsMeasurementProvider.newFromEvidence X.ciborium certBundle.evidence.getClaims
  .ok ⟨.rats certDer, .new certBundle.privateKey .sha256, measurementProvider⟩

/-- The chain is one that a peer's strategy accepts, with a chain to a quote in it. The signer signs whatever
is asked for by what it advertises, under the key in the certificate. The measurements are the claims of the
quote, and no others. -/
structure Attestation.Coherent (D : Dcap) (S : SigningKeys X.rsa X.p256 ρ) (a : Attestation X)
    (certChain : Bytes) (c : Chain) : Prop where
  accepted : RatsCertValidationStrategy.verifyCertChain X D certChain = .ok (.ok ())
  valid : c.Valid X D certChain
  advertised : a.asymSigner.supportedAlgo = (.tpmAlgSha256, .tpmAlgEcdsaEccNistP256)
  signs : ∀ rng data, ∃ res, a.asymSigner.signAdvertised S 512 rng data = .ok (some res) ∧
    ∃ key s, X.p256.tryFromSpki c.cert.tbsCertificate.subjectPublicKeyInfo = .ok key ∧
      S.ecdsaFromBytes res.bytes = .ok s ∧ X.p256.verify () key data s = .ok ()
  measured : generateClaimsBuffer X.ciborium c.builtinClaims = .ok a.measurementProvider.claimsBuffer

/-- What a context is given besides capabilities and strategy. -/
structure Material (X : Externals) where
  attestation : Attestation X
  myCertChainData : Option SpdmCertChainData

/-- The same with the chain as `SpdmResponder::new` puts it into the context. -/
def provisioned (capacity : Nat) (getEvidence : Bytes → Res AutoEvidence) (rng : ρ) :
    Res (Option (Material X)) := do
  let attestation ← attestSelf K getEvidence rng
  let myCertChainData ← Res.ofCrash (attestation.certProvider.getFullCertChain capacity)
  .ok (some ⟨attestation, myCertChainData⟩)

variable {K}

/-- A key generated for P-256 is one. -/
theorem genPrivateKey_p256 {rng : ρ} {key : AsymmetricPrivateKey X.rsa X.p256}
    (h : genPrivateKey K rng .p256 = .ok key) : key = .p256 (K.p256Random rng) :=
  (Except.ok.inj h).symm

/-- A P-256 key and SHA-256 go together. -/
theorem p256_signs {S : SigningKeys X.rsa X.p256 ρ} (hS : S.Lawful K) (key : X.p256.PrivateKey) (rng : ρ)
    (data : Bytes) :
    ∃ res, (RatsSecretAsymSigner.new (.p256 key) .sha256).signAdvertised S 512 rng data = .ok (some res) ∧
      SignedBy S .sha256 data res.bytes (.p256 key : AsymmetricPrivateKey X.rsa X.p256) := by
  rcases RatsSecretAsymSigner.signAdvertised_cases hS (Nat.le_refl 512)
    (show (AsymmetricPrivateKey.p256 key).WellSized K from trivial) .sha256 rng data with
    ⟨-, -, hne⟩ | ⟨res, hres, -, hsigned⟩
  · exact absurd rfl hne
  · exact ⟨res, hres, hsigned⟩

/-- A certificate that fits is found whole where it was put. -/
theorem getFullCertChain_whole {certDer : Bytes} {capacity : Nat} (hcapacity : capacity < 2 ^ 16)
    {myCertChainData : Option SpdmCertChainData}
    (h : (CertProvider.rats certDer).getFullCertChain capacity = .ok myCertChainData) :
    ∃ chainData, myCertChainData = some chainData ∧ chainData.data.take chainData.dataSize = certDer := by
  have hfits : certDer.length ≤ capacity := by
    by_contra hlong
    have hpanic := CertProvider.getFullCertChain_long (Nat.lt_of_not_le hlong)
    cases h.symm.trans hpanic
  have hdata := CertProvider.getFullCertChain_fits hfits
  rw [asU16_eq_iff.mpr (Nat.lt_of_le_of_lt hfits hcapacity)] at hdata
  exact ⟨_, Except.ok.inj (h.symm.trans hdata), List.take_left⟩

theorem provisioned_coherent (hX : X.Lawful) {D : Dcap} {S : SigningKeys X.rsa X.p256 ρ} (hS : S.Lawful K)
    {getEvidence : Bytes → Res AutoEvidence} (hattester : Honest D getEvidence) {rng : ρ} {capacity : Nat}
    (hcapacity : capacity < 2 ^ 16) {material : Option (Material X)}
    (h : provisioned K capacity getEvidence rng = .ok material) :
    ∃ m chainData c, material = some m ∧ m.myCertChainData = some chainData ∧
      m.attestation.Coherent D S (chainData.data.take chainData.dataSize) c := by
  simp only [provisioned, attestSelf, bind_eq_ok, Res.ofCrash_eq_ok] at h
  obtain ⟨attestation, ⟨bundle, hbuild, certDer, hder, measurementProvider, hmeasured, ha⟩, myCertChainData,
    hchain, hm⟩ := h
  obtain rfl := Except.ok.inj ha
  obtain rfl := Except.ok.inj hm
  obtain ⟨hgen, c, hchained⟩ := CertBuilder.build_chained hX hattester hbuild hder
  obtain ⟨privateKey, cert, evidence⟩ := bundle
  obtain rfl := genPrivateKey_p256 hgen
  obtain ⟨chainData, hdata, hwhole⟩ := getFullCertChain_whole hcapacity hchain
  refine ⟨_, chainData, c, rfl, hdata, ?_⟩
  rw [hwhole]
  exact {
    accepted := verifyCertChain_accepts.mpr ⟨_, verifyCertDer_eq_ok.mpr ⟨c, hchained.valid, rfl⟩⟩
    valid := hchained.valid
    advertised := rfl
    signs := by
      intro rng' data
      obtain ⟨res, hres, s, hs, hverifies⟩ := p256_signs hS (K.p256Random rng) rng' data
      exact ⟨res, hres, _, s, hX.p256.tryFromSpki_fromKey _ _ hchained.key, hs, hverifies⟩
    measured := by
      rw [show evidence = c.kind.evidence c.quote from hchained.evidence,
        QuoteKind.getClaims_eq hchained.valid.accepted] at hmeasured
      obtain ⟨claims, hclaims, hbuffer⟩ := RatsMeasurementProvider.newFromEvidence_eq_ok.mp hmeasured
      obtain rfl := Except.ok.inj hclaims
      exact hbuffer }

/-- **Main theorem.** Every responder that a builder with `attest_self` makes on a node with an honest attester
has coherent material in its context, whatever the builder's other settings. -/
theorem attested_responder_coherent (hX : X.Lawful) {D : Dcap} {S : SigningKeys X.rsa X.p256 ρ}
    (hS : S.Lawful K) {getEvidence : Bytes → Res AutoEvidence} (hattester : Honest D getEvidence) (rng : ρ)
    {capacity : Nat} (hcapacity : capacity < 2 ^ 16) {C E : Type} (lib : ResponderLib C E (Option (Material X)))
    (cfg : Config) (build : Build) (builder : SpdmResponderBuilder) (hattest : builder.attestSelf = true)
    (responder : SpdmResponder C)
    (hbuild : builder.buildWithTcpStream lib cfg build (provisioned K capacity getEvidence rng) none =
      .ok responder) :
    ∃ strategy material chainData c,
      responder.common = lib.newContext (rspCapabilities build) strategy (some material) ∧
      material.myCertChainData = some chainData ∧
      material.attestation.Coherent D S (chainData.data.take chainData.dataSize) c := by
  unfold SpdmResponderBuilder.buildWithTcpStream at hbuild
  rw [if_pos hattest] at hbuild
  obtain ⟨material, hmaterial, hnew⟩ := bind_eq_ok.mp hbuild
  obtain ⟨m, chainData, c, rfl, hdata, hcoherent⟩ := provisioned_coherent hX hS hattester hcapacity hmaterial
  obtain rfl := Except.ok.inj hnew
  exact ⟨_, m, chainData, c, rfl, hdata, hcoherent⟩

end Attest

end RatsRs.Transport

/-! ### A responder

The sample's crates, with P-256 signatures over any data and the certificate that comes of it. -/
namespace RatsRs.Cert.Sample
open Lib Tee Transport

/-- A signature over any data. -/
def marked (data : Bytes) : Bytes := 0xff :: data.take 31

def anyP256 : SignatureCrate Unit :=
  { p256 with
    trySign := fun _ _ data => .ok (marked data)
    verify := fun _ key data signature => do
      let _ ← onlyIf (marked data) (show Bytes from signature) ()
      onlyIf point key () }

/-- The builder's part. -/
def anyX509 : X509 :=
  { x509 with
    tbsToDer := fun t => .ok (tbsCertificateDer t)
    builderBuild := fun b => do
      let t := { b.tbs with extensions := some b.extensions }
      let signature ← b.certSigner.trySign (tbsCertificateDer t)
      pure ⟨t, t.signature, ⟨0, signature⟩⟩ }

/-- A quote about report data of zeros, which is what the sample's hash is of unknown strings. -/
def zeroQuote : Bytes := quote.take 368 ++ List.replicate 68 0

def zeroEvidence (reportData : Bytes) : Res AutoEvidence :=
  if reportData = List.replicate 32 0 then .ok (QuoteKind.sgx.evidence zeroQuote)
  else Res.fail .sgxDcapAttesterGenerateQuoteFailed "unknown report data"

/-- The crates, with the one certificate that there is. -/
def attestingWith (c : Certificate) (der : Bytes) : Externals :=
  ⟨sha2, boolCrate HashAlgo, anyP256, libraryCiborium,
    { anyX509 with
      toDer := fun c' => onlyIf c c' der
      fromDer := fun der' => onlyIf der der' c }⟩

theorem onlyIf_bind_self {α β : Type} [DecidableEq α] (a : α) (r : Except String β) :
    (onlyIf a a () >>= fun _ => r) = r := by
  rw [onlyIf_self]
  rfl

theorem anyP256_verify (p : Unit) (data : Bytes) : anyP256.verify p point data (marked data) = .ok () :=
  (onlyIf_bind_self (marked data) (onlyIf point point ())).trans (onlyIf_self point ())

theorem attestingWith_lawful (c : Certificate) (der : Bytes) : (attestingWith c der).Lawful where
  rsa := {
    tryFromSpki_fromKey := fun _ _ h => (by cases h)
    spkiToDer_fromKey := fun _ _ _ h => (by cases h)
    verify_sign := by
      intro hashAlgo key data signature h
      obtain rfl := Except.ok.inj h
      exact ⟨_, rfl, if_pos rfl⟩
    identifier := fun _ _ h => (by cases h) }
  p256 := {
    tryFromSpki_fromKey := p256_laws.tryFromSpki_fromKey
    spkiToDer_fromKey := p256_laws.spkiToDer_fromKey
    verify_sign := by
      intro p key data signature h
      obtain rfl := Except.ok.inj h
      exact ⟨marked data, rfl, anyP256_verify p data⟩
    identifier := p256_laws.identifier }
  ciborium := libraryCiborium_standard
  x509 := {
    fromDer_toDer := by
      intro c' der' h
      obtain ⟨rfl, rfl⟩ := onlyIf_eq_ok h
      exact onlyIf_self _ _
    octetString := x509_lawful.octetString
    subjectKeyIdentifier := x509_lawful.subjectKeyIdentifier
    basicConstraints := x509_lawful.basicConstraints
    keyUsage := x509_lawful.keyUsage
    builderNew := x509_lawful.builderNew
    builderAddExtension := x509_lawful.builderAddExtension
    builderBuild := by
      intro b c' _ h
      obtain ⟨signature, hsign, h⟩ := bind_eq_ok.mp h
      obtain rfl := pure_eq_ok.mp h
      exact ⟨rfl, rfl, _, signature, rfl, hsign, rfl⟩ }

theorem attestingWith_certToDer {c : Certificate} {der : Bytes}
    {key : AsymmetricPrivateKey (attestingWith c der).rsa (attestingWith c der).p256} {evidence : AutoEvidence} :
    CertBundle.certToDer (attestingWith c der) ⟨key, c, evidence⟩ = .ok der :=
  genCert_eq_ok.mpr (onlyIf_self c der)

theorem zeroQuote_accepted : QuoteKind.sgx.Accepts zeroQuote :=
  (SgxDcapEvidence.newFromUnchecked_eq_ok (e := ⟨zeroQuote⟩)).mp (by decide +kernel) |>.2

theorem zeroEvidence_honest : Honest dcap zeroEvidence := by
  intro reportData e h
  unfold zeroEvidence at h
  split at h
  next hr =>
    subst hr
    exact ⟨.sgx, zeroQuote, (Except.ok.inj h).symm, zeroQuote_accepted, by decide +kernel, dcap_passes zeroQuote⟩
  next => cases h

section Keys
variable (c : Certificate) (der : Bytes)

/-- The one P-256 key, generated. -/
def attestingKeys : KeyCrates (attestingWith c der).rsa (attestingWith c der).p256 Unit where
  rsaNew := boolCrates.rsaNew
  p256Random _ := ()
  bits := boolCrates.bits
  rsaToPkcs8Pem := boolCrates.rsaToPkcs8Pem
  rsaFromPkcs8Pem := boolCrates.rsaFromPkcs8Pem
  rsaToPkcs8Der := boolCrates.rsaToPkcs8Der
  p256ToPkcs8Pem _ := .ok "p256"
  p256FromPkcs8Pem pem := onlyIf "p256" pem ()
  p256ToPkcs8Der _ := .ok [0]

def attestingSigning : SigningKeys (attestingWith c der).rsa (attestingWith c der).p256 Unit where
  pss := boolSigning.pss
  pkcs1v15 := boolSigning.pkcs1v15
  ecdsa _ _ data := .ok (marked data)
  ecdsaFromBytes signature := .ok signature

theorem attestingSigning_lawful : (attestingSigning c der).Lawful (attestingKeys c der) where
  pss := boolSigning_lawful.pss
  pkcs1v15 := boolSigning_lawful.pkcs1v15
  ecdsa := by
    intro key rng data
    refine ⟨marked data, marked data, rfl, ?_, rfl, anyP256_verify () data⟩
    rw [marked, List.length_cons, List.length_take]
    omega

end Keys

/-- The certificate that is built. -/
def attestedCert : Certificate :=
  match (CertBuilder.new zeroEvidence .sha256).buildWithPrivateKeyInner
      (attestingWith (cert first) []) (.p256 ()) with
  | .ok (cert, _) => cert
  | .error _ => cert first

def attestedDer : Bytes := certificateDer attestedCert

/-- What is made of a certificate and its evidence. -/
def materialOf (c : Certificate) (der : Bytes) (provider : RatsMeasurementProvider) :
    Material (attestingWith c der) :=
  ⟨⟨.rats der, .new (.p256 ()) .sha256, provider⟩,
    some ⟨der.length, der ++ List.replicate (4096 - der.length) 0⟩⟩

theorem provisioned_eq {c : Certificate} {der : Bytes} {evidence : AutoEvidence}
    {provider : RatsMeasurementProvider} {getEvidence : Bytes → Res AutoEvidence}
    (hinner : (CertBuilder.new getEvidence .sha256).buildWithPrivateKeyInner (attestingWith c der) (.p256 ()) =
      .ok (c, evidence))
    (hmeasured : RatsMeasurementProvider.newFromEvidence libraryCiborium evidence.getClaims = .ok provider)
    (hfits : der.length ≤ 4096) :
    provisioned (attestingKeys c der) 4096 getEvidence () = .ok (some (materialOf c der provider)) := by
  have hbuild : (CertBuilder.new getEvidence .sha256).build (attestingKeys c der) () .p256 =
      .ok ⟨.p256 (), c, evidence⟩ := by
    unfold CertBuilder.build genPrivateKey
    rw [ok_bind]
    show (CertBuilder.new getEvidence .sha256).buildWithPrivateKeyInner (attestingWith c der) (.p256 ()) >>=
      _ = _
    rw [hinner]
    rfl
  have hsize : asU16 der.length = der.length := asU16_eq_iff.mpr (Nat.lt_of_le_of_lt hfits (by decide))
  have hchain : Res.ofCrash ((CertProvider.rats der).getFullCertChain 4096) =
      .ok (materialOf c der provider).myCertChainData := by
    rw [Res.ofCrash_eq_ok]
    refine (CertProvider.getFullCertChain_fits hfits).trans ?_
    rw [hsize]
    rfl
  unfold provisioned attestSelf
  rw [hbuild, ok_bind, attestingWith_certToDer, ok_bind]
  show (RatsMeasurementProvider.newFromEvidence libraryCiborium evidence.getClaims >>= _) >>= _ = _
  rw [hmeasured, ok_bind]
  show (Res.ofCrash ((CertProvider.rats der).getFullCertChain 4096) >>= _) = _
  rw [hchain]
  rfl

/-- The claims of the quote, as they are measured. -/
def attestedProvider : RatsMeasurementProvider :=
  ⟨Lib.Cbor.encode (claimsHelper (QuoteKind.sgx.format.claims zeroQuote))⟩

theorem attested_provisioned : provisioned (attestingKeys attestedCert attestedDer) 4096 zeroEvidence () =
    .ok (some (materialOf attestedCert attestedDer attestedProvider)) := by
  have hmeasured : RatsMeasurementProvider.newFromEvidence libraryCiborium
      (QuoteKind.sgx.evidence zeroQuote).getClaims = .ok attestedProvider := by
    rw [QuoteKind.getClaims_eq zeroQuote_accepted, RatsMeasurementProvider.newFromEvidence, ok_bind]
    decide +kernel
  have hinner : (CertBuilder.new zeroEvidence .sha256).buildWithPrivateKeyInner
      (attestingWith attestedCert attestedDer) (.p256 ()) =
        .ok (attestedCert, QuoteKind.sgx.evidence zeroQuote) := by decide +kernel
  exact provisioned_eq hinner hmeasured (by decide +kernel)

end RatsRs.Cert.Sample

namespace RatsRs.Transport
open Lib Tee Cert Cert.Sample

/-- A context that is what it is made of. -/
def materialLib (X : Externals) : ResponderLib (Option (Material X)) Unit (Option (Material X)) where
  rspDataTransferSizeSel _ := 0
  encodeSecuredMessage context _ _ buffer _ _ := (.error (.other 5), buffer, context)
  decodeSecuredMessage context _ _ buffer _ := (.error (.other 5), buffer, context)
  debug status := reprStr status
  newContext _ _ material := material
  processMessage context deviceIo rawPacket _ := ⟨.ok (.decodeError 0), rawPacket, context, deviceIo, []⟩
  sessionState _ _ := none

/-- The default builder's responder with the sample's certificate. -/
theorem attested_responder_sample :
    ∃ chainData c, (materialOf attestedCert attestedDer attestedProvider).myCertChainData = some chainData ∧
      (materialOf attestedCert attestedDer attestedProvider).attestation.Coherent dcap
        (attestingSigning attestedCert attestedDer) (chainData.data.take chainData.dataSize) c := by
  have hbuild : SpdmResponderBuilder.new.buildWithTcpStream (materialLib (attestingWith attestedCert attestedDer))
      plainConfig ⟨[], by decide⟩ (provisioned (attestingKeys attestedCert attestedDer) 4096 zeroEvidence ())
      none = .ok (SpdmResponder.new (materialLib _) plainConfig ⟨[], by decide⟩ .default
        (some (materialOf attestedCert attestedDer attestedProvider))) := by
    rw [attested_provisioned]
    rfl
  obtain ⟨_, material, chainData, c, hcommon, hdata, hcoherent⟩ := attested_responder_coherent
    (attestingWith_lawful attestedCert attestedDer) (attestingSigning_lawful attestedCert attestedDer)
    zeroEvidence_honest () (show 4096 < 2 ^ 16 by decide) (materialLib _) plainConfig ⟨[], by decide⟩ .new rfl _
    hbuild
  obtain rfl := Option.some.inj hcommon
  exact ⟨chainData, c, hdata, hcoherent⟩

end RatsRs.Transport
