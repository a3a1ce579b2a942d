import RatsRs.Crypto

/-! Private keys as text.

A private key is generated for an algorithm, written as PKCS#8 and read back. Reading tries RSA first and
picks the variant by the length of the modulus, so a key is read back as it was if and only if its
variant is the one of its modulus (`pem_round_trip_iff`); all keys the crate makes or reads are such. -/
namespace RatsRs
open Lib

inductive AsymmetricAlgo where
  | rsa2048
  | rsa3072
  | rsa4096
  | p256
  deriving DecidableEq, Repr

/-- What the crates do with keys. `ρ` is what `rand::thread_rng()` yields. -/
structure KeyCrates (rsa : SignatureCrate HashAlgo) (p256 : SignatureCrate Unit) (ρ : Type) where
  rsaNew : ρ → (bits : Nat) → Except String rsa.PrivateKey
  p256Random : ρ → p256.PrivateKey
  /-- `n().bits()`. -/
  bits : rsa.PrivateKey → Nat
  rsaToPkcs8Pem : rsa.PrivateKey → Except String String
  rsaFromPkcs8Pem : String → Except String rsa.PrivateKey
  rsaToPkcs8Der : rsa.PrivateKey → Except String Bytes
  p256ToPkcs8Pem : p256.PrivateKey → Except String String
  p256FromPkcs8Pem : String → Except String p256.PrivateKey
  p256ToPkcs8Der : p256.PrivateKey → Except String Bytes

section Keys
variable {rsa : SignatureCrate HashAlgo} {p256 : SignatureCrate Unit} {ρ : Type} (K : KeyCrates rsa p256 ρ)

namespace AsymmetricPrivateKey

def algo : AsymmetricPrivateKey rsa p256 → AsymmetricAlgo
  | rsa2048 _ => .rsa2048
  | rsa3072 _ => .rsa3072
  | rsa4096 _ => .rsa4096
  | .p256 _ => .p256

def toPkcs8Pem : AsymmetricPrivateKey rsa p256 → Res String
  | rsa2048 key | rsa3072 key | rsa4096 key => Res.ofForeign (K.rsaToPkcs8Pem key)
  | .p256 key => Res.ofForeign (K.p256ToPkcs8Pem key)

def toPkcs8Der : AsymmetricPrivateKey rsa p256 → Res Bytes
  | rsa2048 key | rsa3072 key | rsa4096 key => Res.ofForeign (K.rsaToPkcs8Der key)
  | .p256 key => Res.ofForeign (K.p256ToPkcs8Der key)

def fromPkcs8Pem (privateKeyPkcs8 : String) : Res (AsymmetricPrivateKey rsa p256) :=
  match K.rsaFromPkcs8Pem privateKeyPkcs8 with
  | .ok key =>
    let bitLen := K.bits key
    if bitLen = 2048 then .ok (rsa2048 key)
    else if bitLen = 3072 then .ok (rsa3072 key)
    else if bitLen = 4096 then .ok (rsa4096 key)
    else Res.fail .parsePrivateKey s!"unsupported rsa modulus bit length: {bitLen}"
  | .error _ =>
    match K.p256FromPkcs8Pem privateKeyPkcs8 with
    | .ok key => .ok (.p256 key)
    | .error e =>
      ((Res.ofForeign (.error e)).kind .parsePrivateKey).context
        s!"failed to parse private key from pkcs8 pem format. content: '{privateKeyPkcs8}'"

end AsymmetricPrivateKey

/-- `DefaultCrypto::gen_private_key`. -/
def genPrivateKey (rng : ρ) : AsymmetricAlgo → Res (AsymmetricPrivateKey rsa p256)
  | .rsa2048 => do
    let key ← Res.ofForeign (K.rsaNew rng 2048)
    .ok (.rsa2048 key)
  | .rsa3072 => do
    let key ← Res.ofForeign (K.rsaNew rng 3072)
    .ok (.rsa3072 key)
  | .rsa4096 => do
    let key ← Res.ofForeign (K.rsaNew rng 4096)
    .ok (.rsa4096 key)
  | .p256 => .ok (.p256 (K.p256Random rng))

/-! ### What is known of the crates -/

/-- Keys have the size asked for and survive PKCS#8, and no elliptic key is read as an RSA key. -/
structure KeyCrates.Lawful : Prop where
  rsaNew : ∀ rng bits key, K.rsaNew rng bits = .ok key → K.bits key = bits
  rsaPem : ∀ key pem, K.rsaToPkcs8Pem key = .ok pem → K.rsaFromPkcs8Pem pem = .ok key
  p256Pem : ∀ key pem, K.p256ToPkcs8Pem key = .ok pem → K.p256FromPkcs8Pem pem = .ok key
  apart : ∀ key pem, K.p256ToPkcs8Pem key = .ok pem → ∃ e, K.rsaFromPkcs8Pem pem = .error e

/-! ### Reading back -/

namespace AsymmetricPrivateKey

/-- The variant is the one of the modulus. -/
def WellSized : AsymmetricPrivateKey rsa p256 → Prop
  | rsa2048 key => K.bits key = 2048
  | rsa3072 key => K.bits key = 3072
  | rsa4096 key => K.bits key = 4096
  | .p256 _ => True

/-- A key the crate has made or read. -/
inductive Obtained (key : AsymmetricPrivateKey rsa p256) : Prop
  | generated {rng : ρ} {algo : AsymmetricAlgo} (h : genPrivateKey K rng algo = .ok key)
  | read {privateKeyPkcs8 : String} (h : fromPkcs8Pem K privateKeyPkcs8 = .ok key)

variable {K}

theorem genPrivateKey_algo {rng : ρ} {algo : AsymmetricAlgo} {key : AsymmetricPrivateKey rsa p256}
    (h : genPrivateKey K rng algo = .ok key) : key.algo = algo := by
  cases algo with
  | p256 =>
    obtain rfl := Except.ok.inj h
    rfl
  | _ =>
    obtain ⟨k, -, hkey⟩ := bind_eq_ok.mp h
    obtain rfl := Except.ok.inj hkey
    rfl

theorem genPrivateKey_wellSized (hK : K.Lawful) {rng : ρ} {algo : AsymmetricAlgo}
    {key : AsymmetricPrivateKey rsa p256} (h : genPrivateKey K rng algo = .ok key) : key.WellSized K := by
  cases algo with
  | p256 =>
    obtain rfl := Except.ok.inj h
    trivial
  | _ =>
    obtain ⟨k, hnew, hkey⟩ := bind_eq_ok.mp h
    obtain rfl := Except.ok.inj hkey
    exact hK.rsaNew _ _ _ (Res.ofForeign_eq_ok.mp hnew)

theorem fromPkcs8Pem_wellSized {privateKeyPkcs8 : String} {key : AsymmetricPrivateKey rsa p256}
    (h : fromPkcs8Pem K privateKeyPkcs8 = .ok key) : key.WellSized K := by
  unfold fromPkcs8Pem at h
  split at h
  · dsimp only at h
    split at h
    · obtain rfl := Except.ok.inj h
      assumption
    · split at h
      · obtain rfl := Except.ok.inj h
        assumption
      · split at h
        · obtain rfl := Except.ok.inj h
          assumption
        · cases h
  · split at h
    · obtain rfl := Except.ok.inj h
      trivial
    · cases h

theorem Obtained.wellSized (hK : K.Lawful) {key : AsymmetricPrivateKey rsa p256} (h : key.Obtained K) :
    key.WellSized K := by
  cases h with
  | generated h => exact genPrivateKey_wellSized hK h
  | read h => exact fromPkcs8Pem_wellSized h

/-- An RSA key is read as the variant of its modulus. -/
theorem fromPkcs8Pem_rsa {privateKeyPkcs8 : String} {key : rsa.PrivateKey}
    (h : K.rsaFromPkcs8Pem privateKeyPkcs8 = .ok key) (read : AsymmetricPrivateKey rsa p256) :
    fromPkcs8Pem K privateKeyPkcs8 = .ok read ↔
      (read = rsa2048 key ∨ read = rsa3072 key ∨ read = rsa4096 key) ∧ read.WellSized K := by
  constructor
  · intro hread
    refine ⟨?_, fromPkcs8Pem_wellSized hread⟩
    simp only [fromPkcs8Pem, h] at hread
    split at hread
    · exact .inl (Except.ok.inj hread).symm
    · split at hread
      · exact .inr (.inl (Except.ok.inj hread).symm)
      · split at hread
        · exact .inr (.inr (Except.ok.inj hread).symm)
        · cases hread
  · rintro ⟨rfl | rfl | rfl, hsize⟩ <;> simp only [fromPkcs8Pem, h, show K.bits key = _ from hsize] <;> rfl

/-- What is read of a key that was written. -/
theorem fromPkcs8Pem_toPkcs8Pem (hK : K.Lawful) {key : AsymmetricPrivateKey rsa p256} {pem : String}
    (h : key.toPkcs8Pem K = .ok pem) : fromPkcs8Pem K pem = .ok key ↔ key.WellSized K := by
  constructor
  · exact fromPkcs8Pem_wellSized
  · intro hsize
    cases key with
    | p256 k =>
      have hpem := Res.ofForeign_eq_ok.mp h
      obtain ⟨e, he⟩ := hK.apart k pem hpem
      simp only [fromPkcs8Pem, he, hK.p256Pem k pem hpem]
    | rsa2048 k => exact (fromPkcs8Pem_rsa (hK.rsaPem k pem (Res.ofForeign_eq_ok.mp h)) _).mpr ⟨.inl rfl, hsize⟩
    | rsa3072 k =>
      exact (fromPkcs8Pem_rsa (hK.rsaPem k pem (Res.ofForeign_eq_ok.mp h)) _).mpr ⟨.inr (.inl rfl), hsize⟩
    | rsa4096 k =>
      exact (fromPkcs8Pem_rsa (hK.rsaPem k pem (Res.ofForeign_eq_ok.mp h)) _).mpr ⟨.inr (.inr rfl), hsize⟩

/-- **Main theorem.** What is read of the PEM of a key is the key if and only if its variant is that of its
modulus; so every key that the crate generates or reads survives being written and read, as a key of the
algorithm it was generated for. -/
theorem pem_round_trip_iff (hK : K.Lawful) :
    (∀ (key : AsymmetricPrivateKey rsa p256) (pem : String), key.toPkcs8Pem K = .ok pem →
      (fromPkcs8Pem K pem = .ok key ↔ key.WellSized K)) ∧
    (∀ (key : AsymmetricPrivateKey rsa p256) (pem : String), key.Obtained K → key.toPkcs8Pem K = .ok pem →
      fromPkcs8Pem K pem = .ok key) ∧
    ∀ (rng : ρ) (algo : AsymmetricAlgo) (key : AsymmetricPrivateKey rsa p256) (pem : String),
      genPrivateKey K rng algo = .ok key → key.toPkcs8Pem K = .ok pem →
        ∃ read, fromPkcs8Pem K pem = .ok read ∧ read.algo = algo :=
  ⟨fun _ _ h => fromPkcs8Pem_toPkcs8Pem hK h,
    fun _ _ hobtained h => (fromPkcs8Pem_toPkcs8Pem hK h).mpr (hobtained.wellSized hK),
    fun _ _ key _ hgen h =>
      ⟨key, (fromPkcs8Pem_toPkcs8Pem hK h).mpr (genPrivateKey_wellSized hK hgen), genPrivateKey_algo hgen⟩⟩

end AsymmetricPrivateKey
end Keys

/-! ### Two keys of each kind -/

/-- A signature is a byte for the key, and the front of what is signed. -/
def boolCrate (P : Type) : SignatureCrate P where
  PrivateKey := Bool
  PublicKey := Bool
  Signature := Bytes
  toPublicKey key := key
  toPublicKeyDer _ := .error "unknown"
  fromKey _ := .error "unknown"
  tryFromSpki _ := .error "unknown"
  tryFromBytes signature := .ok signature
  signatureAlgorithmIdentifier _ := .error "unknown"
  trySign _ key data := .ok (cond key 1 0 :: data.take 31)
  verify _ key data signature :=
    if signature = cond key 1 0 :: data.take 31 then .ok () else .error "signature error"

/-- The RSA key `true` has 3072 bits and the other 2048. -/
def boolCrates : KeyCrates (boolCrate HashAlgo) (boolCrate Unit) Unit where
  rsaNew _ bits :=
    if bits = 2048 then .ok false else if bits = 3072 then .ok true else .error "unsupported"
  p256Random _ := true
  bits key := cond key 3072 2048
  rsaToPkcs8Pem key := .ok (cond key "rsa3072" "rsa2048")
  rsaFromPkcs8Pem pem :=
    if pem = "rsa3072" then .ok true else if pem = "rsa2048" then .ok false else .error "not rsa"
  rsaToPkcs8Der key := .ok [cond key 1 0]
  p256ToPkcs8Pem key := .ok (cond key "p256 one" "p256 zero")
  p256FromPkcs8Pem pem :=
    if pem = "p256 one" then .ok true else if pem = "p256 zero" then .ok false else .error "not p256"
  p256ToPkcs8Der key := .ok [cond key 3 2]

theorem boolCrates_lawful : boolCrates.Lawful where
  rsaNew := by
    intro rng bits key h
    dsimp only [boolCrates] at h ⊢
    split at h
    · cases h
      simp [*]
    · split at h
      · cases h
        simp [*]
      · cases h
  rsaPem := by
    intro key pem h
    cases key <;> cases h <;> rfl
  p256Pem := by
    intro key pem h
    cases key <;> cases h <;> rfl
  apart := by
    intro key pem h
    cases key <;> cases h <;> exact ⟨_, rfl⟩

namespace AsymmetricPrivateKey

/-- A key of 3072 bits survives as such, and not as one of 2048. -/
theorem pem_round_trip_bool :
    (fromPkcs8Pem boolCrates "rsa3072" = .ok (.rsa3072 true)) ∧
      fromPkcs8Pem boolCrates "rsa3072" ≠ .ok (.rsa2048 true) := by
  obtain ⟨hiff, -, -⟩ := pem_round_trip_iff boolCrates_lawful
  refine ⟨(hiff (.rsa3072 true) "rsa3072" rfl).mpr rfl, ?_⟩
  intro h
  have hsize := (hiff (.rsa2048 true) "rsa3072" rfl).mp h
  cases hsize

end AsymmetricPrivateKey

end RatsRs
