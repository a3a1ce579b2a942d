import RatsRs.Errors

/-! Hashes and keys.

The hash functions and the two signature crates are outside the repository. They are
parameters: a digest of the algorithm's own size, and for `rsa` and `p256` what the
crate calls on their keys and signatures. -/
namespace RatsRs
open Lib

inductive HashAlgo where
  | sha256
  | sha384
  | sha512
  deriving DecidableEq, Repr

/-- Bytes in a digest. -/
def HashAlgo.outputSize : HashAlgo → Nat
  | .sha256 => 32
  | .sha384 => 48
  | .sha512 => 64

/-- The `sha2` crate. -/
structure Sha2 where
  digest : HashAlgo → Bytes → Bytes
  length_digest : ∀ algo bytes, (digest algo bytes).length = algo.outputSize

/-- `DefaultCrypto::hash`. -/
def Sha2.hash (S : Sha2) (hashAlgo : HashAlgo) (bytes : Bytes) : Bytes := S.digest hashAlgo bytes

theorem Sha2.length_hash (S : Sha2) (hashAlgo : HashAlgo) (bytes : Bytes) :
    (S.hash hashAlgo bytes).length = hashAlgo.outputSize :=
  S.length_digest hashAlgo bytes

/-- No two of the given strings have the same digest under any algorithm. -/
def Sha2.CollisionFree (S : Sha2) (on : Set Bytes) : Prop :=
  ∀ algo, Set.InjOn (S.hash algo) on

/-- An object identifier, by its arcs. -/
abbrev Oid := List Nat

structure AlgorithmIdentifier where
  oid : Oid
  /-- The encoding of the parameters, if there are any. -/
  parameters : Option Bytes
  deriving DecidableEq, Repr

structure SubjectPublicKeyInfo where
  algorithm : AlgorithmIdentifier
  subjectPublicKey : Bytes
  deriving DecidableEq, Repr

/-- A signature crate. `P` is what signing and verifying take besides the key: the
hash for `rsa::pkcs1v15`, nothing for `p256::ecdsa`. -/
structure SignatureCrate (P : Type) where
  PrivateKey : Type
  PublicKey : Type
  Signature : Type
  toPublicKey : PrivateKey → PublicKey
  toPublicKeyDer : PublicKey → Except String Bytes
  /-- `SubjectPublicKeyInfoOwned::from_key`. -/
  fromKey : PublicKey → Except String SubjectPublicKeyInfo
  /-- The public key in a `SubjectPublicKeyInfo`. -/
  tryFromSpki : SubjectPublicKeyInfo → Except String PublicKey
  /-- A signature from its encoded form. -/
  tryFromBytes : Bytes → Except String Signature
  /-- What a signing key says it signs with. -/
  signatureAlgorithmIdentifier : P → Except String AlgorithmIdentifier
  /-- The signature over a string, in its encoded form. -/
  trySign : P → PrivateKey → Bytes → Except String Bytes
  verify : P → PublicKey → Bytes → Signature → Except String Unit

section Keys
variable (rsa : SignatureCrate HashAlgo) (p256 : SignatureCrate Unit)

inductive AsymmetricPrivateKey where
  | rsa2048 (key : rsa.PrivateKey)
  | rsa3072 (key : rsa.PrivateKey)
  | rsa4096 (key : rsa.PrivateKey)
  | p256 (key : p256.PrivateKey)

variable {rsa p256}

/-- `to_public_key_der` of the public half. -/
def AsymmetricPrivateKey.publicKeyDer : AsymmetricPrivateKey rsa p256 → Except String Bytes
  | .rsa2048 key | .rsa3072 key | .rsa4096 key => rsa.toPublicKeyDer (rsa.toPublicKey key)
  | .p256 key => p256.toPublicKeyDer (p256.toPublicKey key)

/-- `DefaultCrypto::hash_of_private_key`: the hash of the key's SubjectPublicKeyInfo. -/
def hashOfPrivateKey (S : Sha2) (hashAlgo : HashAlgo) (privateKey : AsymmetricPrivateKey rsa p256) :
    Res Bytes := do
  let spkiDoc ← Res.ofForeign privateKey.publicKeyDer
  pure (S.hash hashAlgo spkiDoc)

end Keys

end RatsRs
