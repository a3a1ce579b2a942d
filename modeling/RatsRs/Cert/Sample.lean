import RatsRs.Cert.Create

/-! One deployment: crates that know one key and four certificates.

The values are real: a P-256 key, its SubjectPublicKeyInfo, the digests, and
certificates signed with the key, two about a version 3 quote that differ in their
serial number, and two about version 5 quotes. Outside of these values the crates fail,
so that what building relies on (`Externals.Lawful`) holds of them for every argument.
CBOR is the library's. The library that verifies quotes passes everything. -/
namespace RatsRs.Cert.Sample
open Lib Lib.Cbor Tee

/-! ### The key -/

/-- A point of P-256, uncompressed. -/
def point : Bytes :=
  beBytes 33 0x0460fed4ba255a9d31c961eb74c6356d68c049b8923b61fa6ce669622e60f29fb6 ++
    beBytes 32 0x7903fe1008b8bc99a41ae9e95628bc64f2f1b20c2d7e9f5177a3c294d4462299

def spki : SubjectPublicKeyInfo :=
  ⟨⟨[1, 2, 840, 10045, 2, 1], some (beBytes 10 0x06082a8648ce3d030107)⟩, point⟩

def spkiDer : Bytes := beBytes 26 0x3059301306072a8648ce3d020106082a8648ce3d030107034200 ++ point

/-! ### The evidence -/

/-- The claims as the builder is given them: one with the name of the claim about the
key, one with the name of a TDX claim, one with the name of a claim of any quote. -/
def callerClaims : Claims :=
  .ofList [(claimNamePublicKeyHash, [0]), (builtInClaimTdxMrTd, [1, 2]),
    (builtInClaimCommonQuoteType, utf8 "tdx")]

def sha256OfSpki : Nat := 0x5a7a78cca4a0f420d9bc62bb669c3c2759e39f723d3ae10dcbe0f0815a07ecd4

def pubkeyHashBuffer : Bytes := encode (pubkeyHashValue .sha256 (beBytes 32 sha256OfSpki))

def claims : Claims := callerClaims.insert claimNamePublicKeyHash pubkeyHashBuffer

def claimsBuffer : Bytes := encode (claimsHelper claims)

def sha256OfClaims : Nat := 0x461430d54f741bfdb7461b4b803edf67b4472e0c9eda756c5a861350b9f7f8e7

/-- A version 3 quote without a signature; `mr_enclave` is all `0x11`. -/
def quote : Bytes :=
  leBytes 2 3 ++ leBytes 2 2 ++ List.replicate 108 0 ++ List.replicate 32 0x11 ++
    List.replicate 224 0 ++ beBytes 32 sha256OfClaims ++ List.replicate 36 0

/-- Header, type and size of a version 5 quote, and its body up to `mr_enclave`. -/
def quote5Front : Bytes :=
  leBytes 2 5 ++ leBytes 2 2 ++ List.replicate 44 0 ++ leBytes 2 1 ++ leBytes 4 384 ++
    List.replicate 64 0 ++ List.replicate 32 0x11

/-- A version 5 quote with the digest six bytes before its report data, and in these a 6
where `sgx_quote3_t` has the length of the signature. -/
def misreadQuote : Bytes :=
  quote5Front ++ List.replicate 218 0 ++ beBytes 32 sha256OfClaims ++ List.replicate 32 0 ++ [6] ++
    List.replicate 9 0

/-- A version 5 quote with the digest for its report data. -/
def quote5 : Bytes :=
  quote5Front ++ List.replicate 224 0 ++ beBytes 32 sha256OfClaims ++ List.replicate 36 0

def evidenceBuffer (quote : Bytes) : Bytes :=
  encode (taggedEvidence ocbrTagEvidenceIntelTeeQuote quote claimsBuffer)

/-! ### The certificates -/

def name : Name :=
  [[([2, 5, 4, 10], utf8 "Inclavare Containers")], [([2, 5, 4, 3], utf8 "rats-rs")]]

/-- 2024, for a minute. -/
def validity : Validity := ⟨1704067200, 1704067260⟩

def subjectKeyIdentifier : Bytes := beBytes 20 0x1a9569579bce329a942d0769c9c0b56431563710

def extensions (quote : Bytes) : List Extension :=
  [⟨[2, 5, 29, 14], false, beBytes 2 0x0414 ++ subjectKeyIdentifier⟩,
    ⟨[2, 5, 29, 19], true, beBytes 5 0x30030101ff⟩, ⟨[2, 5, 29, 15], true, beBytes 4 0x03020186⟩,
    ⟨oidTcgDiceTaggedEvidence, false, evidenceBuffer quote⟩, ⟨oidTcgDiceEndorsementManifest, false, []⟩]

/-- What the certificates differ in. -/
structure Issued where
  serialNumber : Nat
  quote : Bytes
  signature : Bytes
  deriving DecidableEq

def tbs (s : Issued) : TbsCertificate where
  version := 2
  serialNumber := s.serialNumber
  signature := ⟨ecdsaWithSha256, none⟩
  issuer := name
  validity := validity
  subject := name
  subjectPublicKeyInfo := spki
  issuerUniqueId := none
  subjectUniqueId := none
  extensions := some (extensions s.quote)

def cert (s : Issued) : Certificate := ⟨tbs s, ⟨ecdsaWithSha256, none⟩, ⟨0, s.signature⟩⟩

def algorithmDer : Bytes := beBytes 12 0x300a06082a8648ce3d040302

def nameDer : Bytes :=
  beBytes 27 0x3031311d301b060355040a0c14496e636c617661726520436f6e74 ++
    beBytes 24 0x61696e6572733110300e06035504030c07726174732d7273

def extensionsDer (evidence : Bytes) : Bytes :=
  beBytes 2 0xa382 ++ beBytes 2 (evidence.length + 96) ++ beBytes 2 0x3082 ++
    beBytes 2 (evidence.length + 92) ++ beBytes 11 0x301d0603551d0e04160414 ++ subjectKeyIdentifier ++
    beBytes 17 0x300f0603551d130101ff040530030101ff ++ beBytes 16 0x300e0603551d0f0101ff040403020186 ++
    beBytes 2 0x3082 ++ beBytes 2 (evidence.length + 12) ++ beBytes 10 0x06066781050504090482 ++
    beBytes 2 evidence.length ++ evidence ++ beBytes 12 0x300a06066781050504020400

def tbsDer (s : Issued) : Bytes :=
  beBytes 2 0x3082 ++ beBytes 2 ((evidenceBuffer s.quote).length + 345) ++
    beBytes 7 0xa0030201020201 ++ beBytes 1 s.serialNumber ++ algorithmDer ++ nameDer ++
    beBytes 32 0x301e170d3234303130313030303030305a170d3234303130313030303130305a ++
    nameDer ++ spkiDer ++ extensionsDer (evidenceBuffer s.quote)

def firstSignature : Bytes :=
  beBytes 36 0x3046022100c97ec845d20de1b6c89a70e07ea5c2fe928867eac3201e529122a697e75da0 ++
    beBytes 36 0x05022100c7ba6bee029eae025379c466f5c667806aff01b38cc8084fd17f546beb52a580

def secondSignature : Bytes :=
  beBytes 35 0x3045022000b6da1836105cac493d9a43b068ce41a39348e2a6d1f6dc9b0653cf93969d ++
    beBytes 36 0x3d022100dc05c84f8c1b87f1cae3c0ed4ac019dbd0eaaaa5e7b4df421ad4742635924e3a

def misreadSignature : Bytes :=
  beBytes 36 0x3045022100b7517fff46998c6abafddfc4402c6035d48c9b49bb83698498f70b1cc7974b ++
    beBytes 35 0x750220397508bd0e330d4f16539ff302f5df53bcc7a0a33a9bab55461f908e88f26bf4

def signature5 : Bytes :=
  beBytes 36 0x3046022100cdf914180406ff1ac1de7a86a092a2493da51d5bbc5b4e2433a7268feabdb6 ++
    beBytes 36 0x3c022100f04608b74f583fad7f36ce45a1404c45bb0097cbbb3225ba9222ed7f864c43e1

def first : Issued := ⟨42, quote, firstSignature⟩

def second : Issued := ⟨43, quote, secondSignature⟩

def misread : Issued := ⟨42, misreadQuote, misreadSignature⟩

def issued5 : Issued := ⟨42, quote5, signature5⟩

def samples : List Issued := [first, second, misread, issued5]

/-- Header of a certificate and of the bit string in it. -/
def certDer (s : Issued) : Bytes :=
  beBytes 2 0x3082 ++ beBytes 2 ((tbsDer s).length + 12 + 3 + s.signature.length) ++ tbsDer s ++
    algorithmDer ++ [3, UInt8.ofNat (s.signature.length + 1), 0] ++ s.signature

def firstDer : Bytes := certDer first

def secondDer : Bytes := certDer second

def misreadDer : Bytes := certDer misread

def der5 : Bytes := certDer issued5

/-! ### The crates -/

/-- The sample a value belongs to. -/
def lookup {α : Type} [DecidableEq α] (f : Issued → α) (a : α) : Except String Issued :=
  match samples.find? fun s => f s = a with
  | some s => .ok s
  | none => .error "unknown"

theorem lookup_eq_ok {α : Type} [DecidableEq α] {f : Issued → α} {a : α} {s : Issued}
    (h : lookup f a = .ok s) : s ∈ samples ∧ f s = a := by
  unfold lookup at h
  split at h
  next s' hs' =>
    cases h
    exact ⟨List.mem_of_find?_eq_some hs', by simpa using List.find?_some hs'⟩
  next => cases h

def onlyIf {α β : Type} [DecidableEq α] (expected a : α) (b : β) : Except String β :=
  if a = expected then .ok b else .error "unknown"

theorem onlyIf_eq_ok {α β : Type} [DecidableEq α] {expected a : α} {b c : β}
    (h : onlyIf expected a b = .ok c) : a = expected ∧ c = b := by
  unfold onlyIf at h
  split at h
  next ha => exact ⟨ha, (Except.ok.inj h).symm⟩
  next => cases h

theorem onlyIf_self {α β : Type} [DecidableEq α] (a : α) (b : β) : onlyIf a a b = .ok b := if_pos rfl

def sha2 : Sha2 where
  digest algo b := beBytes algo.outputSize <|
    match algo with
    | .sha256 => if b = claimsBuffer then sha256OfClaims else if b = spkiDer then sha256OfSpki else 0
    | .sha384 =>
      if b = claimsBuffer then
        0xfdc0d44668612564a9fff224f44d4eccf38b86c91d659aeb238c50ff25d9f38d674726e7b1861e1d4c6ec4f5be052b08
      else if b = spkiDer then
        0x1ad82c82f6e743bb08a013b7d2f99645c9ebf451b67367b9a2a2145f13f7e43c63e63173fb7412178f211ec55dae9573
      else 0
    | .sha512 =>
      if b = claimsBuffer then
        0x450e5f46ec0b97b16adc067626ea26d1f08ef7cbc3c17600776cd98ddc353f5b * 2 ^ 256 +
          0xf5a01e2533165029ec68d6c8feab2012ffb1ef219f5cedd6fcf4e441f2ecce08
      else if b = spkiDer then
        0xde67ebd053000778973663fcebbe6f0ba89b8828d0483de8d993eafc8522ac47 * 2 ^ 256 +
          0x58f3081358a2f4ffcac7c646c43c0a16b796e9548df0b38c34cd15e716e4ba5a
      else 0
  length_digest _ _ := length_beBytes _ _

/-- No RSA key is known. -/
def rsa : SignatureCrate HashAlgo where
  PrivateKey := Unit
  PublicKey := Unit
  Signature := Bytes
  toPublicKey _ := ()
  toPublicKeyDer _ := .error "unknown"
  fromKey _ := .error "unknown"
  tryFromSpki _ := .error "unknown"
  tryFromBytes _ := .error "unknown"
  signatureAlgorithmIdentifier algo := .ok ⟨rsaEncryptionWith algo, some [5, 0]⟩
  trySign _ _ _ := .error "unknown"
  verify _ _ _ _ := .error "unknown"

/-- The one P-256 key, and the signatures it made. -/
def p256 : SignatureCrate Unit where
  PrivateKey := Unit
  PublicKey := Bytes
  Signature := Bytes
  toPublicKey _ := point
  toPublicKeyDer key := onlyIf point key spkiDer
  fromKey key := onlyIf point key spki
  tryFromSpki s := onlyIf spki s point
  tryFromBytes b := .ok b
  signatureAlgorithmIdentifier _ := .ok ⟨ecdsaWithSha256, none⟩
  trySign _ _ data := do
    let s ← lookup tbsDer data
    pure s.signature
  verify _ key data signature := do
    let _ ← lookup (fun s => (tbsDer s, s.signature)) (data, signature)
    onlyIf point key ()

def x509 : X509 where
  fromDer b := do
    let s ← lookup certDer b
    pure (cert s)
  toDer c := do
    let s ← lookup cert c
    pure (certDer s)
  tbsToDer t := do
    let s ← lookup tbs t
    pure (tbsDer s)
  spkiToDer s := onlyIf spki s spkiDer
  nameFromStr s := onlyIf "CN=rats-rs,O=Inclavare Containers" s name
  validityFromNow _ := .ok validity
  octetString b := if b.length < 2 ^ 28 then .ok b else .error "length overflow"
  subjectKeyIdentifier s := onlyIf spki s subjectKeyIdentifier
  subjectKeyIdentifierExtension ski := .ok ⟨[2, 5, 29, 14], false, beBytes 2 0x0414 ++ ski⟩
  basicConstraintsExtension ca len := onlyIf (true, none) (ca, len)
    ⟨[2, 5, 29, 19], true, beBytes 5 0x30030101ff⟩
  keyUsageExtension usages := onlyIf [.keyCertSign, .crlSign, .digitalSignature] usages
    ⟨[2, 5, 29, 15], true, beBytes 4 0x03020186⟩
  builderNew issuer serialNumber validity subject spki signer := do
    let signature ← signer.signatureAlgorithmIdentifier
    pure ⟨⟨2, serialNumber, signature, issuer.getD subject, validity, subject, spki, none, none, none⟩,
      [], signer⟩
  builderAddExtension b e := .ok { b with extensions := b.extensions ++ [e] }
  builderBuild b := do
    let t := { b.tbs with extensions := some b.extensions }
    let s ← lookup tbs t
    let signature ← b.certSigner.trySign (tbsDer s)
    pure ⟨t, t.signature, ⟨0, signature⟩⟩

def externals : Externals := ⟨sha2, rsa, p256, libraryCiborium, x509⟩

def dcap : Dcap where
  Collateral := Unit
  supplementalSize := 536
  currentTime := 1704067230
  teeGetSupplementalDataVersionAndSize _ := .ok (3, 536)
  teeQvGetCollateral _ := .ok ()
  teeVerifyQuote _ _ _ _ := .ok (0, .ok)

/-! ### What building relies on holds -/

theorem rsa_laws : SignatureLaws rsa x509.spkiToDer rsaEncryptionWith where
  tryFromSpki_fromKey _ _ h := nomatch h
  spkiToDer_fromKey _ _ _ h := nomatch h
  verify_sign _ _ _ _ h := nomatch h
  identifier _ _ h := by cases h; rfl

theorem p256_laws : SignatureLaws p256 x509.spkiToDer fun _ => ecdsaWithSha256 where
  tryFromSpki_fromKey key s h := by
    obtain ⟨rfl, rfl⟩ := onlyIf_eq_ok h
    exact onlyIf_self spki point
  spkiToDer_fromKey key s der h hder := by
    obtain ⟨rfl, rfl⟩ := onlyIf_eq_ok h
    have hself : p256.toPublicKeyDer point = .ok spkiDer := onlyIf_self point spkiDer
    rw [← hder, hself]
    exact onlyIf_self spki spkiDer
  verify_sign p key data signature h := by
    have hverify : ∀ s ∈ samples, p256.verify () point (tbsDer s) s.signature = .ok () := by decide +kernel
    obtain ⟨s, hs, hr⟩ := bind_eq_ok.mp h
    obtain rfl := pure_eq_ok.mp hr
    obtain ⟨hmem, rfl⟩ := lookup_eq_ok hs
    exact ⟨_, rfl, hverify s hmem⟩
  identifier _ _ h := by cases h; rfl

theorem x509_lawful : x509.Lawful where
  fromDer_toDer c der h := by
    have hback : ∀ s ∈ samples, x509.fromDer (certDer s) = .ok (cert s) := by decide +kernel
    obtain ⟨s, hs, hr⟩ := bind_eq_ok.mp h
    obtain rfl := pure_eq_ok.mp hr
    obtain ⟨hmem, rfl⟩ := lookup_eq_ok hs
    exact hback s hmem
  octetString b content h := by
    simp only [x509] at h
    split at h
    next => exact (Except.ok.inj h).symm
    next => cases h
  subjectKeyIdentifier _ _ h := by cases h; rfl
  basicConstraints _ _ _ h := by
    obtain ⟨-, rfl⟩ := onlyIf_eq_ok h
    rfl
  keyUsage _ _ h := by
    obtain ⟨-, rfl⟩ := onlyIf_eq_ok h
    rfl
  builderNew issuer serialNumber validity subject s signer b h := by
    obtain ⟨algo, halgo, h⟩ := bind_eq_ok.mp h
    obtain rfl := pure_eq_ok.mp h
    exact ⟨rfl, rfl, rfl, halgo, rfl, rfl⟩
  builderAddExtension _ _ _ h := (Except.ok.inj h).symm
  builderBuild b c _ h := by
    obtain ⟨s, hs, h⟩ := bind_eq_ok.mp h
    obtain ⟨signature, hsign, h⟩ := bind_eq_ok.mp h
    obtain rfl := pure_eq_ok.mp h
    refine ⟨rfl, rfl, tbsDer s, signature, ?_, hsign, rfl⟩
    simp only [x509, hs, ok_bind]
    rfl

theorem externals_lawful : externals.Lawful where
  rsa := rsa_laws
  p256 := p256_laws
  ciborium := libraryCiborium_standard
  x509 := x509_lawful

/-- The claims both certificates are accepted with. -/
def verifiedClaims : Claims := mergeClaims (QuoteKind.sgx.format.claims quote) claims

end RatsRs.Cert.Sample
