import RatsRs.Cert.Verify

/-! Building a certificate.

The builder hashes its public key into a claim, asks the attester for evidence about
the hash of all claims, and signs a certificate that carries both with the same key.
Whatever goes wrong on the way is an `Error`. -/
namespace RatsRs.Cert
open Lib Tee

section Create
variable (X : Externals)

/-! ### The DICE extensions -/

/-- `to_extension` of both: the buffer as it is, not critical. -/
def diceExtension (oid : Oid) (buffer : Bytes) : Except String Extension := do
  let content ← X.x509.octetString buffer
  pure ⟨oid, false, content⟩

def diceEvidenceExtension (evidenceBuffer : Bytes) : Except String Extension :=
  diceExtension X oidTcgDiceTaggedEvidence evidenceBuffer

def diceEndorsementExtension (endorsementsBuffer : Bytes) : Except String Extension :=
  diceExtension X oidTcgDiceEndorsementManifest endorsementsBuffer

/-! ### Signing -/

/-- `.kind(ErrorKind::GenCertError).context(..)` on a foreign result. -/
def genCert {α : Type} (r : Except String α) (context : String) : Res α :=
  ((Res.ofForeign r).kind .genCertError).context context

@[simp] theorem genCert_eq_ok {α : Type} {r : Except String α} {context : String} {a : α} :
    genCert r context = .ok a ↔ r = .ok a := by
  simp [genCert]

def addExtension (builder : CertificateBuilder) (extension : Except String Extension)
    (context : String) : Res CertificateBuilder :=
  genCert (do let extension ← extension; X.x509.builderAddExtension builder extension) context

/-- `pkcs1v15::SigningKey::new`. -/
def rsaSigner (hashAlgo : HashAlgo) (key : X.rsa.PrivateKey) : Signer :=
  ⟨X.rsa.signatureAlgorithmIdentifier hashAlgo, X.rsa.trySign hashAlgo key⟩

/-- `p256::ecdsa::SigningKey::from`: the hash algorithm implicitly is sha256. -/
def p256Signer (key : X.p256.PrivateKey) : Signer :=
  ⟨X.p256.signatureAlgorithmIdentifier (), X.p256.trySign () key⟩

def pubKeyInfo : AsymmetricPrivateKey X.rsa X.p256 → Except String SubjectPublicKeyInfo
  | .rsa2048 key | .rsa3072 key | .rsa4096 key => X.rsa.fromKey (X.rsa.toPublicKey key)
  | .p256 key => X.p256.fromKey (X.p256.toPublicKey key)

def signerOf (hashAlgo : HashAlgo) : AsymmetricPrivateKey X.rsa X.p256 → Signer
  | .rsa2048 key | .rsa3072 key | .rsa4096 key => rsaSigner X hashAlgo key
  | .p256 key => p256Signer X key

def addEndorsement (builder : CertificateBuilder) : Option Bytes → Res CertificateBuilder
  | some endorsementsBuffer => addExtension X builder (diceEndorsementExtension X endorsementsBuffer)
      "failed to add endorsement extension"
  | none => .ok builder

/-- `build_with_signer!`. -/
def buildWithSigner (validity : Validity) (subject : Name) (spki : SubjectPublicKeyInfo)
    (evidenceBuffer : Bytes) (endorsementsBuffer : Option Bytes) (signer : Signer) :
    Res Certificate := do
  let builder ← genCert (X.x509.builderNew none 42 validity subject spki signer)
    "failed to create certificate builder"
  let ski ← Res.ofForeign (X.x509.subjectKeyIdentifier spki)
  let builder ← addExtension X builder (X.x509.subjectKeyIdentifierExtension ski)
    "failed to add evidence extension"
  let builder ← addExtension X builder (X.x509.basicConstraintsExtension true none)
    "failed to add evidence extension"
  let builder ← addExtension X builder
    (X.x509.keyUsageExtension [.keyCertSign, .crlSign, .digitalSignature])
    "failed to add evidence extension"
  let builder ← addExtension X builder (diceEvidenceExtension X evidenceBuffer)
    "failed to add evidence extension"
  let builder ← addEndorsement X builder endorsementsBuffer
  genCert (X.x509.builderBuild builder) "failed to create certificate"

def generateAndSignDiceCert (subject : String) (hashAlgo : HashAlgo)
    (privateKey : AsymmetricPrivateKey X.rsa X.p256) (evidenceBuffer : Bytes)
    (endorsementsBuffer : Option Bytes) : Res Certificate := do
  let validity ← genCert (X.x509.validityFromNow 60) "bad validity value"
  let name ← genCert (X.x509.nameFromStr subject) ("bad subject value `" ++ subject ++ "`")
  let spki ← genCert (pubKeyInfo X privateKey) "failed to create SubjectPublicKeyInfo"
  buildWithSigner X validity name spki evidenceBuffer endorsementsBuffer
    (signerOf X hashAlgo privateKey)

/-! ### The builder -/

structure CertBuilder where
  /-- `get_evidence` of the attester. -/
  getEvidence : Bytes → Res AutoEvidence
  claims : Option Claims
  subject : String
  hashAlgo : HashAlgo

structure CertBundle where
  privateKey : AsymmetricPrivateKey X.rsa X.p256
  cert : Certificate
  evidence : AutoEvidence

def CertBundle.certToDer (bundle : CertBundle X) : Res Bytes :=
  genCert (X.x509.toDer bundle.cert) "failed to encode certificate as der"

namespace CertBuilder

def new (getEvidence : Bytes → Res AutoEvidence) (hashAlgo : HashAlgo) : CertBuilder :=
  ⟨getEvidence, none, "CN=rats-rs,O=Inclavare Containers", hashAlgo⟩

def withClaims (b : CertBuilder) (claims : Claims) : CertBuilder := { b with claims := some claims }

def withSubject (b : CertBuilder) (subject : String) : CertBuilder := { b with subject := subject }

/-- The claims given, or none. -/
def customClaims (b : CertBuilder) : Claims := b.claims.getD IndexMap.empty

def buildWithPrivateKeyInner (b : CertBuilder) (key : AsymmetricPrivateKey X.rsa X.p256) :
    Res (Certificate × AutoEvidence) := do
  let pubkeyHash ← hashOfPrivateKey X.sha2 b.hashAlgo key
  let pubkeyHashValueBuffer ← generatePubkeyHashValueBuffer X.ciborium b.hashAlgo pubkeyHash
  let claims := b.customClaims.insert claimNamePublicKeyHash pubkeyHashValueBuffer
  let claimsBuffer ← generateClaimsBuffer X.ciborium claims
  let claimsBufferHash := X.sha2.hash .sha256 claimsBuffer
  let evidence ← b.getEvidence claimsBufferHash
  let evidenceBuffer ← generateEvidenceBufferWithTag X.ciborium evidence.getDiceCborTag
    evidence.getDiceRawEvidence claimsBuffer
  let cert ← generateAndSignDiceCert X b.subject b.hashAlgo key evidenceBuffer (some [])
  pure (cert, evidence)

def buildWithPrivateKey (b : CertBuilder) (key : AsymmetricPrivateKey X.rsa X.p256) :
    Res (CertBundle X) := do
  let (cert, evidence) ← b.buildWithPrivateKeyInner X key
  pure ⟨key, cert, evidence⟩

end CertBuilder

end Create

end RatsRs.Cert
