import RatsRs.Cert.X509
import RatsRs.Tee.VerifierProofs

/-! Verifying a certificate.

`verifyCertDer` goes through the links one after the other: the certificate is signed
by its own key, it carries evidence, the evidence is genuine and vouches for the claims
buffer, the claims buffer names the key. Only then are claims returned, the built-in
ones first. `CertVerifier.verify` compares them with expected claims. -/
namespace RatsRs.Cert
open Lib Tee

/-- Name of the claim about the public key. -/
def claimNamePublicKeyHash : String := "pubkey-hash"

section Verify
variable (X : Externals) (D : Dcap)

/-- One `rsa::pkcs1v15` arm: the key first, then the signature. -/
def verifyRsa (hashAlgo : HashAlgo) (spki : SubjectPublicKeyInfo) (signedData signature : Bytes) :
    Res Unit := do
  let key ← Res.ofForeign (X.rsa.tryFromSpki spki)
  let signature ← Res.ofForeign (X.rsa.tryFromBytes signature)
  Res.ofForeign (X.rsa.verify hashAlgo key signedData signature)

/-- The `p256::ecdsa` arm: the signature first, then the key. -/
def verifyEcdsa (spki : SubjectPublicKeyInfo) (signedData signature : Bytes) : Res Unit := do
  let signature ← Res.ofForeign (X.p256.tryFromBytes signature)
  let key ← Res.ofForeign (X.p256.tryFromSpki spki)
  Res.ofForeign (X.p256.verify () key signedData signature)

def verifySignedData (issuer : Certificate) (signedData signature : Bytes)
    (algo : AlgorithmIdentifier) : Res Unit :=
  let spki := issuer.tbsCertificate.subjectPublicKeyInfo
  if algo.oid = sha256WithRsaEncryption then verifyRsa X .sha256 spki signedData signature
  else if algo.oid = sha384WithRsaEncryption then verifyRsa X .sha384 spki signedData signature
  else if algo.oid = sha512WithRsaEncryption then verifyRsa X .sha512 spki signedData signature
  else if algo.oid = ecdsaWithSha256 then verifyEcdsa X spki signedData signature
  else Res.fail .unknown
    s!"unknown signature algo {Oid.display issuer.tbsCertificate.signature.oid}"

def verifyCertSignature (issuer signed : Certificate) : Res Unit := do
  Res.ensure (issuer.tbsCertificate.subject = signed.tbsCertificate.issuer) .unknown
    "certificate issuer does not match"
  let signedData ← Res.ofForeign (X.x509.tbsToDer signed.tbsCertificate)
  let some signature := signed.signature.asBytes
    | Res.fail .unknown "could not get cert signature"
  verifySignedData X issuer signedData signature signed.signatureAlgorithm

/-- The value of the first extension with this identifier. -/
def extractExtWithOid (cert : Certificate) (oid : Oid) : Option Bytes :=
  cert.tbsCertificate.extensions.bind fun exts =>
    (exts.find? fun extension => extension.extnId = oid).map (·.extnValue)

/-- Merge builtin claims and custom claims: a custom claim with the name of a claim that
is there is dropped. -/
def mergeClaims (builtinClaims customClaims : Claims) : Claims :=
  builtinClaims.addNew customClaims.entries

def verifyCertDer (cert : Bytes) : Res Claims := do
  let cert ← ((Res.ofForeign (X.x509.fromDer cert)).kind .parseCertError).context
    "failed to parse certificate from der"
  -- check self-signed cert
  (verifyCertSignature X cert cert).kind .certVerifySignatureFailed
  let some evidenceBuffer := extractExtWithOid cert oidTcgDiceTaggedEvidence
    | Res.fail .certExtractExtensionFailed
        "failed to extract the evidence extensions from the certificate"
  let (tag, rawEvidence, claimsBuffer) ← parseEvidenceBufferWithTag X.ciborium evidenceBuffer
  let evidence ← AutoEvidence.createEvidenceFromDice tag rawEvidence
  -- the hash algo is hardcoded to sha256
  let claimsBufferHash := X.sha2.hash .sha256 claimsBuffer
  AutoVerifier.verifyEvidence D evidence claimsBufferHash
  let builtinClaims ← evidence.getClaims
  let customClaims ← parseClaimsBuffer X.ciborium claimsBuffer
  let some pubkeyHashValueBuffer := customClaims.get claimNamePublicKeyHash
    | Res.fail .certVerifyPublicKeyHashFailed (s!"failed to find claim with name " ++
        s!"'{claimNamePublicKeyHash}' from claims list with length {customClaims.size}")
  let (pubkeyHashAlgo, pubkeyHash) ← parsePubkeyHashValueBuffer X.ciborium pubkeyHashValueBuffer
  let spkiBytes ← Res.ofForeign (X.x509.spkiToDer cert.tbsCertificate.subjectPublicKeyInfo)
  let calculatedPubkeyHash := X.sha2.hash pubkeyHashAlgo spkiBytes
  Res.ensure (pubkeyHash = calculatedPubkeyHash) .certVerifyPublicKeyHashFailed
    "hash of public key mismatch"
  pure (mergeClaims builtinClaims customClaims)

/-! ### Policies -/

inductive VerifiyPolicy where
  | contains (expectedClaims : Claims)

inductive VerifyPolicyOutput where
  | passed
  | failed
  deriving DecidableEq, Repr

structure CertVerifier where
  policy : VerifiyPolicy

/-- Every expected claim is there with its value. -/
def VerifiyPolicy.holds : VerifiyPolicy → Claims → Bool
  | .contains expectedClaims, claims => expectedClaims.entries.all fun (name, expectedValue) =>
    match claims.get name with
    | some value => decide (expectedValue = value)
    | none => false

def CertVerifier.verify (verifier : CertVerifier) (cert : Bytes) : Res VerifyPolicyOutput := do
  let claims ← verifyCertDer X D cert
  if verifier.policy.holds claims then pure .passed else pure .failed

end Verify

end RatsRs.Cert
