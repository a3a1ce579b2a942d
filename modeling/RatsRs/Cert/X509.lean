import RatsRs.Cert.Cbor

/-! X.509 certificates, and the crates behind them.

The certificate is data, as far as anything looks at it; its encoding and the builder
are the `x509-cert` crate's and parameters. `Externals` bundles the crates. -/
namespace RatsRs.Cert
open Lib Tee

/-! ### Certificates -/

/-- A distinguished name: a sequence of sets of attributes. -/
abbrev Name := List (List (Oid × Bytes))

structure Validity where
  notBefore : Nat
  notAfter : Nat
  deriving DecidableEq, Repr

structure Extension where
  extnId : Oid
  critical : Bool
  extnValue : Bytes
  deriving DecidableEq, Repr

structure TbsCertificate where
  version : Nat
  serialNumber : Nat
  signature : AlgorithmIdentifier
  issuer : Name
  validity : Validity
  subject : Name
  subjectPublicKeyInfo : SubjectPublicKeyInfo
  issuerUniqueId : Option Bytes
  subjectUniqueId : Option Bytes
  extensions : Option (List Extension)
  deriving DecidableEq, Repr

structure BitString where
  unusedBits : Nat
  rawBytes : Bytes
  deriving DecidableEq, Repr

/-- `BitString::as_bytes`: the bytes, when no bit of them is unused. -/
def BitString.asBytes (s : BitString) : Option Bytes :=
  if s.unusedBits = 0 then some s.rawBytes else none

structure Certificate where
  tbsCertificate : TbsCertificate
  signatureAlgorithm : AlgorithmIdentifier
  signature : BitString
  deriving DecidableEq, Repr

/-! ### Object identifiers -/

def sha256WithRsaEncryption : Oid := [1, 2, 840, 113549, 1, 1, 11]
def sha384WithRsaEncryption : Oid := [1, 2, 840, 113549, 1, 1, 12]
def sha512WithRsaEncryption : Oid := [1, 2, 840, 113549, 1, 1, 13]
def ecdsaWithSha256 : Oid := [1, 2, 840, 10045, 4, 3, 2]

def oidTcgDiceTaggedEvidence : Oid := [2, 23, 133, 5, 4, 9]
def oidTcgDiceEndorsementManifest : Oid := [2, 23, 133, 5, 4, 2]

/-- The dotted form. -/
def Oid.display (oid : Oid) : String := String.intercalate "." (oid.map toString)

/-! ### The crates -/

/-- What a certificate is signed with. -/
structure Signer where
  signatureAlgorithmIdentifier : Except String AlgorithmIdentifier
  trySign : Bytes → Except String Bytes

/-- `KeyUsages`, the ones the builder sets. -/
inductive KeyUsages where
  | keyCertSign
  | crlSign
  | digitalSignature
  deriving DecidableEq, Repr

/-- `CertificateBuilder`. -/
structure CertificateBuilder where
  tbs : TbsCertificate
  extensions : List Extension
  certSigner : Signer

/-- The `x509-cert` crate. -/
structure X509 where
  fromDer : Bytes → Except String Certificate
  toDer : Certificate → Except String Bytes
  tbsToDer : TbsCertificate → Except String Bytes
  spkiToDer : SubjectPublicKeyInfo → Except String Bytes
  /-- `Name::from_str`. -/
  nameFromStr : String → Except String Name
  /-- `Validity::from_now`, of a duration in seconds. -/
  validityFromNow : Nat → Except String Validity
  /-- `OctetString::new`. -/
  octetString : Bytes → Except String Bytes
  /-- `SubjectKeyIdentifier::try_from`. -/
  subjectKeyIdentifier : SubjectPublicKeyInfo → Except String Bytes
  /-- `to_extension` of the extensions of the crate. -/
  subjectKeyIdentifierExtension : Bytes → Except String Extension
  basicConstraintsExtension : (ca : Bool) → (pathLenConstraint : Option Nat) → Except String Extension
  keyUsageExtension : List KeyUsages → Except String Extension
  /-- `CertificateBuilder::new` with `Profile::Manual { issuer }`. -/
  builderNew : (issuer : Option Name) → (serialNumber : Nat) → Validity → (subject : Name) →
    SubjectPublicKeyInfo → Signer → Except String CertificateBuilder
  /-- `add_extension` of what `to_extension` gave. -/
  builderAddExtension : CertificateBuilder → Extension → Except String CertificateBuilder
  builderBuild : CertificateBuilder → Except String Certificate

/-- The crates certificates are made and checked with. -/
structure Externals where
  sha2 : Sha2
  rsa : SignatureCrate HashAlgo
  p256 : SignatureCrate Unit
  ciborium : Ciborium
  x509 : X509

/-! ### What building relies on -/

/-- The identifier of RSA signatures with a hash. -/
def rsaEncryptionWith : HashAlgo → Oid
  | .sha256 => sha256WithRsaEncryption
  | .sha384 => sha384WithRsaEncryption
  | .sha512 => sha512WithRsaEncryption

/-- A signature crate whose keys and signatures survive being encoded, and whose
signatures verify under their own key. `oid` is what its signing keys call themselves. -/
structure SignatureLaws {P : Type} (S : SignatureCrate P)
    (spkiToDer : SubjectPublicKeyInfo → Except String Bytes) (oid : P → Oid) : Prop where
  tryFromSpki_fromKey : ∀ key spki, S.fromKey key = .ok spki → S.tryFromSpki spki = .ok key
  spkiToDer_fromKey : ∀ key spki der, S.fromKey key = .ok spki → S.toPublicKeyDer key = .ok der →
    spkiToDer spki = .ok der
  verify_sign : ∀ p key data signature, S.trySign p key data = .ok signature →
    ∃ s, S.tryFromBytes signature = .ok s ∧ S.verify p (S.toPublicKey key) data s = .ok ()
  identifier : ∀ p algo, S.signatureAlgorithmIdentifier p = .ok algo → algo.oid = oid p

/-- The crate decodes what it encoded, its extensions have their own identifiers, and its
builder puts into the certificate what it was given, signed. -/
structure X509.Lawful (x : X509) : Prop where
  fromDer_toDer : ∀ cert der, x.toDer cert = .ok der → x.fromDer der = .ok cert
  octetString : ∀ b content, x.octetString b = .ok content → content = b
  subjectKeyIdentifier : ∀ ski e, x.subjectKeyIdentifierExtension ski = .ok e →
    e.extnId = [2, 5, 29, 14]
  basicConstraints : ∀ ca len e, x.basicConstraintsExtension ca len = .ok e →
    e.extnId = [2, 5, 29, 19]
  keyUsage : ∀ usages e, x.keyUsageExtension usages = .ok e → e.extnId = [2, 5, 29, 15]
  builderNew : ∀ issuer serialNumber validity subject spki signer b,
    x.builderNew issuer serialNumber validity subject spki signer = .ok b →
    b.tbs.issuer = issuer.getD subject ∧ b.tbs.subject = subject ∧ b.tbs.subjectPublicKeyInfo = spki ∧
      signer.signatureAlgorithmIdentifier = .ok b.tbs.signature ∧ b.extensions = [] ∧
      b.certSigner = signer
  builderAddExtension : ∀ b e b', x.builderAddExtension b e = .ok b' →
    b' = { b with extensions := b.extensions ++ [e] }
  builderBuild : ∀ b cert, b.extensions ≠ [] → x.builderBuild b = .ok cert →
    cert.tbsCertificate = { b.tbs with extensions := some b.extensions } ∧
      cert.signatureAlgorithm = b.tbs.signature ∧
      ∃ blob signature, x.tbsToDer cert.tbsCertificate = .ok blob ∧
        b.certSigner.trySign blob = .ok signature ∧ cert.signature = ⟨0, signature⟩

structure Externals.Lawful (X : Externals) : Prop where
  rsa : SignatureLaws X.rsa X.x509.spkiToDer rsaEncryptionWith
  p256 : SignatureLaws X.p256 X.x509.spkiToDer fun _ => ecdsaWithSha256
  ciborium : X.ciborium.Standard
  x509 : X.x509.Lawful

end RatsRs.Cert
