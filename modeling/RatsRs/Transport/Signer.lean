import RatsRs.Keys
import RatsRs.Transport.Measurement

/-! What a private key signs for SPDM.

`RatsSecretAsymSigner` advertises one hash and one signature algorithm: RSASSA of the key's size or ECDSA over
P-256, with the hash it was made with. `spdmlib` asks for signatures under these only, so the branches for
RSA-PSS and the panics are not reached; but a P-256 key signs with SHA-256 alone, and one that was made with
another hash advertises what it then refuses (`signer_serves_iff`). -/
namespace RatsRs.Transport
open Lib Cert

/-! ### The signer -/

/-- One bit each. -/
inductive SpdmBaseAsymAlgo where
  | tpmAlgRsassa2048
  | tpmAlgRsassa3072
  | tpmAlgRsassa4096
  | tpmAlgRsapss2048
  | tpmAlgRsapss3072
  | tpmAlgRsapss4096
  | tpmAlgEcdsaEccNistP256
  | other (bits : UInt32)
  deriving DecidableEq, Repr

/-- `data` is an array of `SPDM_MAX_ASYM_KEY_SIZE` bytes. -/
structure SpdmSignatureStruct where
  dataSize : Nat
  data : Bytes
  deriving DecidableEq, Repr

/-- The signing keys of the crates. `ρ` is what `rand::thread_rng()` yields; an ECDSA signature is in its form
of fixed size, which is not the one in certificates. -/
structure SigningKeys (rsa : SignatureCrate HashAlgo) (p256 : SignatureCrate Unit) (ρ : Type) where
  pss : HashAlgo → rsa.PrivateKey → ρ → Bytes → Except String Bytes
  pkcs1v15 : HashAlgo → rsa.PrivateKey → ρ → Bytes → Except String Bytes
  ecdsa : p256.PrivateKey → ρ → Bytes → Except String Bytes
  ecdsaFromBytes : Bytes → Except String p256.Signature

structure RatsSecretAsymSigner (rsa : SignatureCrate HashAlgo) (p256 : SignatureCrate Unit) where
  privateKey : AsymmetricPrivateKey rsa p256
  baseHashAlgo : SpdmBaseHashAlgo

/-- The base hash algorithm of a hash. -/
def HashAlgo.base : HashAlgo → SpdmBaseHashAlgo
  | .sha256 => .tpmAlgSha256
  | .sha384 => .tpmAlgSha384
  | .sha512 => .tpmAlgSha512

/-- And back; the other bits are `unreachable!`. -/
def SpdmBaseHashAlgo.hashAlgo : SpdmBaseHashAlgo → Except Crash HashAlgo
  | tpmAlgSha256 => .ok .sha256
  | tpmAlgSha384 => .ok .sha384
  | tpmAlgSha512 => .ok .sha512
  | other _ => .error .panic

/-- `sign_with_rng`, which panics where `try_sign_with_rng` fails. -/
def signWithRng (signature : Except String Bytes) : Except Crash Bytes :=
  match signature with
  | .ok signature => .ok signature
  | .error _ => .error .panic

def SpdmSignatureStruct.of (capacity : Nat) (digest : Bytes) : Except Crash SpdmSignatureStruct := do
  let data := List.replicate capacity 0
  let _ ← slice data 0 digest.length
  .ok ⟨asU16 digest.length, splice data 0 digest⟩

section Signer
variable {rsa : SignatureCrate HashAlgo} {p256 : SignatureCrate Unit} {ρ : Type}

namespace RatsSecretAsymSigner

def new (privateKey : AsymmetricPrivateKey rsa p256) (hashAlgo : HashAlgo) : RatsSecretAsymSigner rsa p256 :=
  ⟨privateKey, HashAlgo.base hashAlgo⟩

def supportedAlgo (self : RatsSecretAsymSigner rsa p256) : SpdmBaseHashAlgo × SpdmBaseAsymAlgo :=
  match self.privateKey with
  | .rsa2048 _ => (self.baseHashAlgo, .tpmAlgRsassa2048)
  | .rsa3072 _ => (self.baseHashAlgo, .tpmAlgRsassa3072)
  | .rsa4096 _ => (self.baseHashAlgo, .tpmAlgRsassa4096)
  | .p256 _ => (self.baseHashAlgo, .tpmAlgEcdsaEccNistP256)

/-- The signature, or nothing where the signer refuses. -/
def digest (S : SigningKeys rsa p256 ρ) (self : RatsSecretAsymSigner rsa p256) (rng : ρ)
    (baseHashAlgo : SpdmBaseHashAlgo) (baseAsymAlgo : SpdmBaseAsymAlgo) (data : Bytes) :
    Except Crash (Option Bytes) :=
  match self.privateKey, baseAsymAlgo with
  | .rsa2048 key, .tpmAlgRsapss2048 | .rsa3072 key, .tpmAlgRsapss3072 | .rsa4096 key, .tpmAlgRsapss4096 => do
    let hashAlgo ← baseHashAlgo.hashAlgo
    let digest ← signWithRng (S.pss hashAlgo key rng data)
    .ok (some digest)
  | .rsa2048 key, .tpmAlgRsassa2048 | .rsa3072 key, .tpmAlgRsassa3072 | .rsa4096 key, .tpmAlgRsassa4096 => do
    let hashAlgo ← baseHashAlgo.hashAlgo
    let digest ← signWithRng (S.pkcs1v15 hashAlgo key rng data)
    .ok (some digest)
  | .p256 key, .tpmAlgEcdsaEccNistP256 =>
    if baseHashAlgo ≠ .tpmAlgSha256 then .ok none
    else do
      let digest ← signWithRng (S.ecdsa key rng data)
      .ok (some digest)
  | _, _ => .error .panic

def sign (S : SigningKeys rsa p256 ρ) (capacity : Nat) (self : RatsSecretAsymSigner rsa p256) (rng : ρ)
    (baseHashAlgo : SpdmBaseHashAlgo) (baseAsymAlgo : SpdmBaseAsymAlgo) (data : Bytes) :
    Except Crash (Option SpdmSignatureStruct) := do
  match ← self.digest S rng baseHashAlgo baseAsymAlgo data with
  | none => .ok none
  | some digest =>
    let res ← SpdmSignatureStruct.of capacity digest
    .ok (some res)

end RatsSecretAsymSigner

/-! ### What is known of the crates -/

/-- The sizes of the RSA keys. -/
inductive RsaSize where
  | rsa2048
  | rsa3072
  | rsa4096

namespace RsaSize

def bits : RsaSize → Nat
  | rsa2048 => 2048
  | rsa3072 => 3072
  | rsa4096 => 4096

def privateKey (key : rsa.PrivateKey) : RsaSize → AsymmetricPrivateKey rsa p256
  | rsa2048 => .rsa2048 key
  | rsa3072 => .rsa3072 key
  | rsa4096 => .rsa4096 key

def rsassa : RsaSize → SpdmBaseAsymAlgo
  | rsa2048 => .tpmAlgRsassa2048
  | rsa3072 => .tpmAlgRsassa3072
  | rsa4096 => .tpmAlgRsassa4096

def rsapss : RsaSize → SpdmBaseAsymAlgo
  | rsa2048 => .tpmAlgRsapss2048
  | rsa3072 => .tpmAlgRsapss3072
  | rsa4096 => .tpmAlgRsapss4096

/-- Every signature of an RSA key fits the array. -/
theorem fits (size : RsaSize) : size.bits / 8 ≤ 512 := by
  cases size <;> decide

end RsaSize

/-- Signing with a key of one of the sizes succeeds, and what is signed with a key verifies under its public
half; the length of a signature is that of the modulus, or 64. -/
structure SigningKeys.Lawful (S : SigningKeys rsa p256 ρ) (K : KeyCrates rsa p256 ρ) : Prop where
  pss : ∀ (size : RsaSize) hashAlgo key rng data, K.bits key = size.bits →
    ∃ signature, S.pss hashAlgo key rng data = .ok signature ∧ signature.length ≤ size.bits / 8
  pkcs1v15 : ∀ (size : RsaSize) hashAlgo key rng data, K.bits key = size.bits →
    ∃ signature s, S.pkcs1v15 hashAlgo key rng data = .ok signature ∧ signature.length ≤ size.bits / 8 ∧
      rsa.tryFromBytes signature = .ok s ∧ rsa.verify hashAlgo (rsa.toPublicKey key) data s = .ok ()
  ecdsa : ∀ key rng data, ∃ signature s, S.ecdsa key rng data = .ok signature ∧
    signature.length ≤ 64 ∧ S.ecdsaFromBytes signature = .ok s ∧
    p256.verify () (p256.toPublicKey key) data s = .ok ()

/-- The signature of a struct. -/
def SpdmSignatureStruct.bytes (self : SpdmSignatureStruct) : Bytes := self.data.take self.dataSize

theorem SpdmSignatureStruct.of_fits {capacity : Nat} {digest : Bytes} (hcapacity : digest.length ≤ capacity)
    (hsize : digest.length < 2 ^ 16) :
    ∃ res, SpdmSignatureStruct.of capacity digest = .ok res ∧ res.bytes = digest := by
  have hslice : slice (List.replicate capacity (0 : UInt8)) 0 digest.length =
      .ok ((List.replicate capacity 0).take digest.length) :=
    slice_ok (Nat.zero_le _) (by rw [List.length_replicate]; exact hcapacity)
  have hsplice : splice (List.replicate capacity 0) 0 digest =
      digest ++ List.replicate (capacity - digest.length) 0 := by
    rw [splice_zero (by rw [List.length_replicate]; exact hcapacity), List.drop_replicate]
  simp only [SpdmSignatureStruct.of, hslice, ok_bind, hsplice, asU16_eq_iff.mpr hsize]
  exact ⟨_, rfl, List.take_left⟩

section Signs
variable {S : SigningKeys rsa p256 ρ} {K : KeyCrates rsa p256 ρ} {capacity : Nat}
  {self : RatsSecretAsymSigner rsa p256} {rng : ρ} {baseHashAlgo : SpdmBaseHashAlgo}
  {baseAsymAlgo : SpdmBaseAsymAlgo} {data : Bytes}

/-- A signature under the public half of the key, as a peer checks it. -/
def SignedBy (S : SigningKeys rsa p256 ρ) (hashAlgo : HashAlgo) (data signature : Bytes) :
    AsymmetricPrivateKey rsa p256 → Prop
  | .rsa2048 key | .rsa3072 key | .rsa4096 key => ∃ s, rsa.tryFromBytes signature = .ok s ∧
      rsa.verify hashAlgo (rsa.toPublicKey key) data s = .ok ()
  | .p256 key => ∃ s, S.ecdsaFromBytes signature = .ok s ∧
      p256.verify () (p256.toPublicKey key) data s = .ok ()

namespace RatsSecretAsymSigner

/-- The algorithm is one for the key. -/
def Fits : AsymmetricPrivateKey rsa p256 → SpdmBaseAsymAlgo → Prop
  | .rsa2048 _, asym => asym = .tpmAlgRsassa2048 ∨ asym = .tpmAlgRsapss2048
  | .rsa3072 _, asym => asym = .tpmAlgRsassa3072 ∨ asym = .tpmAlgRsapss3072
  | .rsa4096 _, asym => asym = .tpmAlgRsassa4096 ∨ asym = .tpmAlgRsapss4096
  | .p256 _, asym => asym = .tpmAlgEcdsaEccNistP256

/-- What the crates sign fits the array. -/
theorem sign_of_digest {signature : Bytes} (h : self.digest S rng baseHashAlgo baseAsymAlgo data = .ok (some signature))
    (hlength : signature.length ≤ 512) (hcapacity : 512 ≤ capacity) :
    ∃ res, self.sign S capacity rng baseHashAlgo baseAsymAlgo data = .ok (some res) ∧ res.bytes = signature := by
  obtain ⟨res, hres, hbytes⟩ := SpdmSignatureStruct.of_fits (Nat.le_trans hlength hcapacity)
    (Nat.lt_of_le_of_lt hlength (by decide))
  refine ⟨res, ?_, hbytes⟩
  rw [sign, h, ok_bind]
  dsimp only
  rw [hres, ok_bind]

/-- What asking for a signature comes to. -/
inductive Outcome (S : SigningKeys rsa p256 ρ) (self : RatsSecretAsymSigner rsa p256)
    (baseHashAlgo : SpdmBaseHashAlgo) (baseAsymAlgo : SpdmBaseAsymAlgo) (data : Bytes) :
    Except Crash (Option SpdmSignatureStruct) → Prop
  | unfit (fits : ¬ Fits self.privateKey baseAsymAlgo) : Outcome S self baseHashAlgo baseAsymAlgo data (.error .panic)
  | unreachable {bits : UInt32} (algo : self.privateKey.algo ≠ .p256) (hash : baseHashAlgo = .other bits) :
      Outcome S self baseHashAlgo baseAsymAlgo data (.error .panic)
  | refused (fits : Fits self.privateKey baseAsymAlgo) (algo : self.privateKey.algo = .p256)
      (hash : baseHashAlgo ≠ .tpmAlgSha256) : Outcome S self baseHashAlgo baseAsymAlgo data (.ok none)
  | signed {hashAlgo : HashAlgo} {res : SpdmSignatureStruct} (fits : Fits self.privateKey baseAsymAlgo)
      (hash : baseHashAlgo = HashAlgo.base hashAlgo) (algo : self.privateKey.algo = .p256 → hashAlgo = .sha256)
      (signed : baseAsymAlgo = self.supportedAlgo.2 → SignedBy S hashAlgo data res.bytes self.privateKey) :
      Outcome S self baseHashAlgo baseAsymAlgo data (.ok (some res))

/-- With an RSA key, under either of its algorithms. -/
theorem sign_rsa {signer : HashAlgo → Except String Bytes}
    (hdigest : self.digest S rng baseHashAlgo baseAsymAlgo data = do
      let hashAlgo ← baseHashAlgo.hashAlgo
      let digest ← signWithRng (signer hashAlgo)
      .ok (some digest))
    (hfits : Fits self.privateKey baseAsymAlgo) (halgo : self.privateKey.algo ≠ .p256)
    (hsigner : ∀ hashAlgo, ∃ signature, signer hashAlgo = .ok signature ∧ signature.length ≤ 512 ∧
      (baseAsymAlgo = self.supportedAlgo.2 → SignedBy S hashAlgo data signature self.privateKey))
    (hcapacity : 512 ≤ capacity) :
    Outcome S self baseHashAlgo baseAsymAlgo data (self.sign S capacity rng baseHashAlgo baseAsymAlgo data) := by
  have hsigned : ∀ hashAlgo, baseHashAlgo = HashAlgo.base hashAlgo →
      Outcome S self baseHashAlgo baseAsymAlgo data
        (self.sign S capacity rng baseHashAlgo baseAsymAlgo data) := by
    intro hashAlgo hbase
    obtain ⟨signature, hsignature, hlength, hverifies⟩ := hsigner hashAlgo
    have hhash : baseHashAlgo.hashAlgo = .ok hashAlgo := by
      rw [hbase]
      cases hashAlgo <;> rfl
    rw [hhash, ok_bind, hsignature, signWithRng, ok_bind] at hdigest
    obtain ⟨res, hres, rfl⟩ := sign_of_digest hdigest hlength hcapacity
    rw [hres]
    exact .signed hfits hbase (fun h => absurd h halgo) hverifies
  cases baseHashAlgo with
  | other bits =>
    have hpanic : self.sign S capacity rng (.other bits) baseAsymAlgo data = .error .panic := by
      rw [sign, hdigest]
      rfl
    rw [hpanic]
    exact .unreachable halgo rfl
  | tpmAlgSha256 => exact hsigned .sha256 rfl
  | tpmAlgSha384 => exact hsigned .sha384 rfl
  | tpmAlgSha512 => exact hsigned .sha512 rfl

theorem sign_p256 (hS : S.Lawful K) (hcapacity : 512 ≤ capacity) {key : p256.PrivateKey}
    (hkey : self.privateKey = .p256 key) :
    Outcome S self baseHashAlgo .tpmAlgEcdsaEccNistP256 data
      (self.sign S capacity rng baseHashAlgo .tpmAlgEcdsaEccNistP256 data) := by
  have hfits : Fits self.privateKey .tpmAlgEcdsaEccNistP256 := by rw [hkey]; exact rfl
  have halgo : self.privateKey.algo = .p256 := by rw [hkey]; rfl
  by_cases hhash : baseHashAlgo = .tpmAlgSha256
  · subst hhash
    obtain ⟨signature, s, hsignature, hlength, hs, hverifies⟩ := hS.ecdsa key rng data
    have hdigest : self.digest S rng .tpmAlgSha256 .tpmAlgEcdsaEccNistP256 data = .ok (some signature) := by
      simp only [digest, hkey, ne_eq, not_true_eq_false, if_false, hsignature, signWithRng, ok_bind]
    obtain ⟨res, hres, rfl⟩ := sign_of_digest hdigest (Nat.le_trans hlength (by decide)) hcapacity
    rw [hres]
    refine .signed hfits (show SpdmBaseHashAlgo.tpmAlgSha256 = HashAlgo.base .sha256 from rfl) (fun _ => rfl) ?_
    intro _
    rw [hkey]
    exact ⟨s, hs, hverifies⟩
  · have hrefused : self.sign S capacity rng baseHashAlgo .tpmAlgEcdsaEccNistP256 data = .ok none := by
      simp only [sign, digest, hkey, ne_eq, hhash, not_false_eq_true, if_true, ok_bind]
    rw [hrefused]
    exact .refused hfits halgo hhash

theorem sign_unfit (h : ¬ Fits self.privateKey baseAsymAlgo) :
    self.sign S capacity rng baseHashAlgo baseAsymAlgo data = .error .panic := by
  have hpanic : self.digest S rng baseHashAlgo baseAsymAlgo data = .error .panic := by
    unfold digest
    split <;> simp_all [Fits]
  rw [sign, hpanic]
  rfl

section Rsa
variable {size : RsaSize} {key : rsa.PrivateKey}

theorem fits_privateKey :
    Fits (size.privateKey key : AsymmetricPrivateKey rsa p256) baseAsymAlgo ↔
      baseAsymAlgo = size.rsassa ∨ baseAsymAlgo = size.rsapss := by
  cases size <;> exact Iff.rfl

theorem algo_privateKey : (size.privateKey key : AsymmetricPrivateKey rsa p256).algo ≠ .p256 := by
  cases size <;> exact fun h => by cases h

theorem wellSized_privateKey :
    (size.privateKey key : AsymmetricPrivateKey rsa p256).WellSized K ↔ K.bits key = size.bits := by
  cases size <;> exact Iff.rfl

theorem signedBy_privateKey {hashAlgo : HashAlgo} {signature : Bytes} :
    SignedBy S hashAlgo data signature (size.privateKey key : AsymmetricPrivateKey rsa p256) ↔
      ∃ s, rsa.tryFromBytes signature = .ok s ∧ rsa.verify hashAlgo (rsa.toPublicKey key) data s = .ok () := by
  cases size <;> exact Iff.rfl

theorem supportedAlgo_privateKey (hkey : self.privateKey = size.privateKey key) :
    self.supportedAlgo.2 = size.rsassa := by
  cases size <;> rw [supportedAlgo, hkey] <;> rfl

theorem digest_rsassa (hkey : self.privateKey = size.privateKey key) :
    self.digest S rng baseHashAlgo size.rsassa data = (do
      let hashAlgo ← baseHashAlgo.hashAlgo
      let digest ← signWithRng (S.pkcs1v15 hashAlgo key rng data)
      .ok (some digest)) := by
  cases size <;> simp only [digest, hkey, RsaSize.privateKey, RsaSize.rsassa]

theorem digest_rsapss (hkey : self.privateKey = size.privateKey key) :
    self.digest S rng baseHashAlgo size.rsapss data = (do
      let hashAlgo ← baseHashAlgo.hashAlgo
      let digest ← signWithRng (S.pss hashAlgo key rng data)
      .ok (some digest)) := by
  cases size <;> simp only [digest, hkey, RsaSize.privateKey, RsaSize.rsapss]

/-- RSA-PSS is not among what the signer advertises. -/
theorem rsapss_ne_rsassa : size.rsapss ≠ size.rsassa := by
  cases size <;> exact fun h => by cases h

/-- With an RSA key of any size. -/
theorem sign_sized (hS : S.Lawful K) (hcapacity : 512 ≤ capacity) (hkey : self.privateKey = size.privateKey key)
    (hsize : K.bits key = size.bits) (hfits : Fits self.privateKey baseAsymAlgo) :
    Outcome S self baseHashAlgo baseAsymAlgo data
      (self.sign S capacity rng baseHashAlgo baseAsymAlgo data) := by
  have halgo : self.privateKey.algo ≠ .p256 := by
    rw [hkey]
    exact algo_privateKey
  rcases fits_privateKey.mp (hkey ▸ hfits) with rfl | rfl
  · refine sign_rsa (digest_rsassa hkey) hfits halgo ?_ hcapacity
    intro hashAlgo
    obtain ⟨signature, s, hsignature, hlength, hs, hverifies⟩ := hS.pkcs1v15 size hashAlgo key rng data hsize
    refine ⟨signature, hsignature, Nat.le_trans hlength size.fits, ?_⟩
    intro _
    rw [hkey]
    exact signedBy_privateKey.mpr ⟨s, hs, hverifies⟩
  · refine sign_rsa (digest_rsapss hkey) hfits halgo ?_ hcapacity
    intro hashAlgo
    obtain ⟨signature, hsignature, hlength⟩ := hS.pss size hashAlgo key rng data hsize
    refine ⟨signature, hsignature, Nat.le_trans hlength size.fits, ?_⟩
    rw [supportedAlgo_privateKey hkey]
    exact fun h => absurd h rsapss_ne_rsassa

end Rsa

/-- Whatever the signer is asked for. -/
theorem sign_outcome (hS : S.Lawful K) (hsize : self.privateKey.WellSized K) (hcapacity : 512 ≤ capacity) :
    Outcome S self baseHashAlgo baseAsymAlgo data
      (self.sign S capacity rng baseHashAlgo baseAsymAlgo data) := by
  by_cases hfits : Fits self.privateKey baseAsymAlgo
  · have hrsa : ∀ (size : RsaSize) key, self.privateKey = size.privateKey key →
        Outcome S self baseHashAlgo baseAsymAlgo data
          (self.sign S capacity rng baseHashAlgo baseAsymAlgo data) := by
      intro size key hkey
      exact sign_sized hS hcapacity hkey (wellSized_privateKey.mp (hkey ▸ hsize)) hfits
    cases hkey : self.privateKey with
    | p256 key =>
      rw [hkey] at hfits
      obtain rfl : baseAsymAlgo = .tpmAlgEcdsaEccNistP256 := hfits
      exact sign_p256 hS hcapacity hkey
    | rsa2048 key => exact hrsa .rsa2048 key hkey
    | rsa3072 key => exact hrsa .rsa3072 key hkey
    | rsa4096 key => exact hrsa .rsa4096 key hkey
  · rw [sign_unfit hfits]
    exact .unfit hfits

/-- `sign`, asked for what is advertised. -/
def signAdvertised (S : SigningKeys rsa p256 ρ) (capacity : Nat) (self : RatsSecretAsymSigner rsa p256) (rng : ρ)
    (data : Bytes) : Except Crash (Option SpdmSignatureStruct) :=
  self.sign S capacity rng self.supportedAlgo.1 self.supportedAlgo.2 data

theorem fits_supportedAlgo (self : RatsSecretAsymSigner rsa p256) : Fits self.privateKey self.supportedAlgo.2 := by
  rcases self with ⟨privateKey, baseHashAlgo⟩
  cases privateKey with
  | p256 key => exact rfl
  | _ => exact .inl rfl

theorem supportedAlgo_hash (self : RatsSecretAsymSigner rsa p256) : self.supportedAlgo.1 = self.baseHashAlgo := by
  rcases self with ⟨privateKey, baseHashAlgo⟩
  cases privateKey <;> rfl

theorem base_inj {hashAlgo hashAlgo' : HashAlgo} (h : HashAlgo.base hashAlgo = HashAlgo.base hashAlgo') :
    hashAlgo = hashAlgo' := by
  cases hashAlgo <;> cases hashAlgo' <;> first | rfl | cases h

/-- Asked for what it advertises, a signer signs, except a P-256 key that was given another hash than
SHA-256: that refuses. -/
theorem signAdvertised_cases (hS : S.Lawful K) (hcapacity : 512 ≤ capacity)
    {privateKey : AsymmetricPrivateKey rsa p256} (hsize : privateKey.WellSized K) (hashAlgo : HashAlgo) (rng : ρ)
    (data : Bytes) :
    ((new privateKey hashAlgo).signAdvertised S capacity rng data = .ok none ∧
      privateKey.algo = .p256 ∧ hashAlgo ≠ .sha256) ∨
    ∃ res, (new privateKey hashAlgo).signAdvertised S capacity rng data = .ok (some res) ∧
      (privateKey.algo = .p256 → hashAlgo = .sha256) ∧ SignedBy S hashAlgo data res.bytes privateKey := by
  have houtcome : Outcome S (new privateKey hashAlgo) (new privateKey hashAlgo).supportedAlgo.1
      (new privateKey hashAlgo).supportedAlgo.2 data
      ((new privateKey hashAlgo).signAdvertised S capacity rng data) := sign_outcome hS hsize hcapacity
  have hhash := supportedAlgo_hash (new privateKey hashAlgo)
  generalize (new privateKey hashAlgo).signAdvertised S capacity rng data = r at houtcome
  cases houtcome with
  | unfit fits => exact absurd (fits_supportedAlgo _) fits
  | unreachable algo hash =>
    rw [hhash] at hash
    cases hashAlgo <;> cases hash
  | refused fits algo hash =>
    refine .inl ⟨rfl, algo, ?_⟩
    rintro rfl
    exact hash hhash
  | signed fits hash algo signed =>
    obtain rfl := base_inj (hhash.symm.trans hash)
    exact .inr ⟨_, rfl, algo, signed rfl⟩

/-- **Main theorem.** Asked for what it advertises, a signer never panics, and signs all data if and only if
its key is not a P-256 key made with another hash than SHA-256; what it signs verifies under its public key.
Asked for anything, it panics exactly if the algorithm is not one for the key or the key is an RSA key and
the hash unknown. -/
theorem signer_serves_iff (hS : S.Lawful K) (hcapacity : 512 ≤ capacity)
    (privateKey : AsymmetricPrivateKey rsa p256) (hsize : privateKey.WellSized K) (hashAlgo : HashAlgo) (rng : ρ) :
    ((∀ data, ∃ res, (new privateKey hashAlgo).signAdvertised S capacity rng data = .ok (some res)) ↔
      (privateKey.algo = .p256 → hashAlgo = .sha256)) ∧
    (∀ data c, (new privateKey hashAlgo).signAdvertised S capacity rng data ≠ .error c) ∧
    (∀ data res, (new privateKey hashAlgo).signAdvertised S capacity rng data = .ok (some res) →
      SignedBy S hashAlgo data res.bytes privateKey) ∧
    ∀ baseHashAlgo baseAsymAlgo data,
      (∃ c, (new privateKey hashAlgo).sign S capacity rng baseHashAlgo baseAsymAlgo data = .error c) ↔
        ¬ Fits privateKey baseAsymAlgo ∨
          privateKey.algo ≠ .p256 ∧ ∃ bits, baseHashAlgo = SpdmBaseHashAlgo.other bits := by
  refine ⟨⟨?_, ?_⟩, ?_, ?_, ?_⟩
  · intro hserves halgo
    obtain ⟨res, hres⟩ := hserves []
    rcases signAdvertised_cases hS hcapacity hsize hashAlgo rng [] with ⟨hnone, -⟩ | ⟨_, -, hhash, -⟩
    · cases hres.symm.trans hnone
    · exact hhash halgo
  · intro hhash data
    rcases signAdvertised_cases hS hcapacity hsize hashAlgo rng data with ⟨-, halgo, hne⟩ | ⟨res, hres, -⟩
    · exact absurd (hhash halgo) hne
    · exact ⟨res, hres⟩
  · intro data c hc
    rcases signAdvertised_cases hS hcapacity hsize hashAlgo rng data with ⟨h, -⟩ | ⟨res, h, -⟩ <;>
      cases hc.symm.trans h
  · intro data res hres
    rcases signAdvertised_cases hS hcapacity hsize hashAlgo rng data with ⟨h, -⟩ | ⟨_, h, -, hsigned⟩
    · cases hres.symm.trans h
    · obtain rfl := Option.some.inj (Except.ok.inj (hres.symm.trans h))
      exact hsigned
  · intro baseHashAlgo baseAsymAlgo data
    have houtcome : Outcome S (new privateKey hashAlgo) baseHashAlgo baseAsymAlgo data
        ((new privateKey hashAlgo).sign S capacity rng baseHashAlgo baseAsymAlgo data) :=
      sign_outcome hS hsize hcapacity
    generalize (new privateKey hashAlgo).sign S capacity rng baseHashAlgo baseAsymAlgo data = r at houtcome
    cases houtcome with
    | unfit fits => exact ⟨fun _ => .inl fits, fun _ => ⟨_, rfl⟩⟩
    | @unreachable bits algo hash => exact ⟨fun _ => .inr ⟨algo, bits, hash⟩, fun _ => ⟨_, rfl⟩⟩
    | refused fits algo hash =>
      constructor
      · rintro ⟨c, hc⟩
        cases hc
      · rintro (hnot | ⟨hne, -⟩)
        · exact absurd fits hnot
        · exact absurd algo hne
    | @signed hashAlgo' res fits hash algo signed =>
      constructor
      · rintro ⟨c, hc⟩
        cases hc
      · rintro (hnot | ⟨-, bits, hother⟩)
        · exact absurd fits hnot
        · rw [hash] at hother
          cases hashAlgo' <;> cases hother

end RatsSecretAsymSigner
end Signs

end Signer

/-! ### Keys of two kinds, signing -/

def boolSigning : SigningKeys (boolCrate HashAlgo) (boolCrate Unit) Unit where
  pss _ key _ data := .ok (cond key 1 0 :: data.take 31)
  pkcs1v15 _ key _ data := .ok (cond key 1 0 :: data.take 31)
  ecdsa key _ data := .ok (cond key 1 0 :: data.take 31)
  ecdsaFromBytes signature := .ok signature

theorem length_boolSignature (key : Bool) (data : Bytes) :
    (cond key (1 : UInt8) 0 :: data.take 31).length ≤ 32 := by
  rw [List.length_cons, List.length_take]
  omega

theorem boolSigning_lawful : boolSigning.Lawful boolCrates := by
  have hlength : ∀ (size : RsaSize) (key : Bool) (data : Bytes),
      (cond key (1 : UInt8) 0 :: data.take 31).length ≤ size.bits / 8 := by
    intro size key data
    refine Nat.le_trans (length_boolSignature key data) ?_
    cases size <;> decide
  exact {
    pss := fun size _ key _ data _ => ⟨_, rfl, hlength size key data⟩
    pkcs1v15 := fun size _ key _ data _ => ⟨_, _, rfl, hlength size key data, rfl, if_pos rfl⟩
    ecdsa := fun key _ data =>
      ⟨_, _, rfl, Nat.le_trans (length_boolSignature key data) (by decide), rfl, if_pos rfl⟩ }

/-- A P-256 key that was made with SHA-384 does not sign all data, an RSA key does. -/
theorem signer_serves_bool :
    (¬ ∀ data, ∃ res, (RatsSecretAsymSigner.new (.p256 true) .sha384).signAdvertised boolSigning 512 () data =
      .ok (some res)) ∧
    ∀ data, ∃ res, (RatsSecretAsymSigner.new (.rsa3072 true) .sha384).signAdvertised boolSigning 512 () data =
      .ok (some res) := by
  constructor
  · rw [(RatsSecretAsymSigner.signer_serves_iff boolSigning_lawful (Nat.le_refl 512) (.p256 true) trivial .sha384
      ()).1]
    intro h
    cases h rfl
  · rw [(RatsSecretAsymSigner.signer_serves_iff boolSigning_lawful (Nat.le_refl 512) (.rsa3072 true) rfl .sha384
      ()).1]
    intro h
    cases h

end RatsRs.Transport
