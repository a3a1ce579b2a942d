import RatsRs.Cert.Completeness
import RatsRs.Cert.Extensions
import RatsRs.Transport.FramedStreamProofs
import RatsRs.Transport.Responder

/-! The certificate as SPDM is given it.

`RatsCertProvider` copies the certificate into the array of `SpdmCertChainData` and says how long it is
in a `u16`. It looks at neither bound: a certificate that is longer than the array makes the slice panic,
in the middle of `SpdmResponder::new` or `SpdmRequester::new`. -/
namespace RatsRs.Transport
open Lib Tee Cert

/-- `data` is an array of `spdmlib`'s, of a size that its configuration sets. -/
structure SpdmCertChainData where
  dataSize : Nat
  data : Bytes
  deriving DecidableEq

def SpdmCertChainData.default (capacity : Nat) : SpdmCertChainData := ⟨0, List.replicate capacity 0⟩

inductive CertProvider where
  /-- `RatsCertProvider`. -/
  | rats (certDer : Bytes)
  /-- `EmptyCertProvider`. -/
  | empty
  deriving DecidableEq

/-- `get_full_cert_chain`. -/
def CertProvider.getFullCertChain (capacity : Nat) :
    CertProvider → Except Crash (Option SpdmCertChainData)
  | rats certDer => do
    let myCertChainData := SpdmCertChainData.default capacity
    let _ ← slice myCertChainData.data 0 certDer.length
    .ok (some ⟨asU16 certDer.length, splice myCertChainData.data 0 certDer⟩)
  | empty => .ok none

section New
variable {C E M : Type} (lib : ResponderLib C E M) (cfg : Config) (build : Build) (capacity : Nat)

/-- `SpdmResponder::new` with the provider it asks; `material` is the rest, with the chain in it. -/
def SpdmResponder.provision (strategy : CertValidationStrategy) (certProvider : CertProvider)
    (material : Option SpdmCertChainData → M) : Except Crash (SpdmResponder C) := do
  let myCertChainData ← certProvider.getFullCertChain capacity
  .ok (SpdmResponder.new lib cfg build strategy (material myCertChainData))

/-- `SpdmRequester::new`, the same. -/
def SpdmRequester.provision (newContext : Option SpdmCertChainData → C) (certProvider : CertProvider) :
    Except Crash (SpdmRequester C) := do
  let myCertChainData ← certProvider.getFullCertChain capacity
  .ok ⟨newContext myCertChainData, FramedStream.new cfg, none⟩

end New

/-! ### Whole or not at all -/

namespace CertProvider
variable {capacity : Nat} {certDer : Bytes}

theorem getFullCertChain_fits (h : certDer.length ≤ capacity) :
    (rats certDer).getFullCertChain capacity =
      .ok (some ⟨asU16 certDer.length, certDer ++ List.replicate (capacity - certDer.length) 0⟩) := by
  have hslice : slice (SpdmCertChainData.default capacity).data 0 certDer.length =
      .ok ((List.replicate capacity 0).take certDer.length) :=
    slice_ok (Nat.zero_le _) (by rw [SpdmCertChainData.default, List.length_replicate]; exact h)
  have hsplice : splice (SpdmCertChainData.default capacity).data 0 certDer =
      certDer ++ List.replicate (capacity - certDer.length) 0 := by
    rw [SpdmCertChainData.default, splice_zero (by rw [List.length_replicate]; exact h), List.drop_replicate]
  rw [getFullCertChain, hslice, ok_bind, hsplice]

theorem getFullCertChain_long (h : capacity < certDer.length) :
    (rats certDer).getFullCertChain capacity = .error .panic := by
  have hlong :
      ¬ (0 ≤ certDer.length ∧ certDer.length ≤ (SpdmCertChainData.default capacity).data.length) := by
    rw [SpdmCertChainData.default, List.length_replicate]
    omega
  rw [getFullCertChain, slice, if_neg hlong]
  rfl

theorem getFullCertChain_panics :
    (rats certDer).getFullCertChain capacity = .error .panic ↔ capacity < certDer.length := by
  constructor
  · intro h
    by_contra hlong
    rw [getFullCertChain_fits (Nat.le_of_not_lt hlong)] at h
    cases h
  · exact getFullCertChain_long

end CertProvider

section New
variable {C E M : Type} {lib : ResponderLib C E M} {cfg : Config} {build : Build} {capacity : Nat}
  {certProvider : CertProvider}

/-- A constructor panics exactly if the provider does. -/
theorem SpdmResponder.provision_panics {strategy : CertValidationStrategy}
    {material : Option SpdmCertChainData → M} :
    SpdmResponder.provision lib cfg build capacity strategy certProvider material = .error .panic ↔
      certProvider.getFullCertChain capacity = .error .panic := bind_ok_eq_error

theorem SpdmRequester.provision_panics {newContext : Option SpdmCertChainData → C} :
    SpdmRequester.provision cfg capacity newContext certProvider = .error .panic ↔
      certProvider.getFullCertChain capacity = .error .panic := bind_ok_eq_error

end New

/-- What the provider should do with a certificate: hand it over with its length if it fits, else nothing;
and nobody who asks it panics. -/
structure WholeOrNone (capacity : Nat) (certDer : Bytes) : Prop where
  whole : certDer.length ≤ capacity → ∃ d,
    (CertProvider.rats certDer).getFullCertChain capacity = .ok (some d) ∧ d.data.take d.dataSize = certDer
  none : capacity < certDer.length → (CertProvider.rats certDer).getFullCertChain capacity = .ok .none
  responder : ∀ {C E M : Type} (lib : ResponderLib C E M) (cfg : Config) (build : Build)
    (strategy : CertValidationStrategy) (material : Option SpdmCertChainData → M),
    ∃ responder, SpdmResponder.provision lib cfg build capacity strategy (.rats certDer) material =
      .ok responder
  requester : ∀ {C : Type} (cfg : Config) (newContext : Option SpdmCertChainData → C),
    ∃ requester, SpdmRequester.provision cfg capacity newContext (.rats certDer) = .ok requester

theorem wholeOrNone_of_fits {capacity : Nat} {certDer : Bytes}
    (h : certDer.length ≤ capacity ∧ certDer.length < 2 ^ 16) : WholeOrNone capacity certDer := by
  obtain ⟨hfits, hlen⟩ := h
  have hchain := CertProvider.getFullCertChain_fits hfits
  rw [asU16_eq_iff.mpr hlen] at hchain
  exact {
    whole := fun _ => ⟨_, hchain, List.take_left⟩
    none := fun hlong => absurd hfits (Nat.not_le.mpr hlong)
    responder := by
      intro C E M lib cfg build strategy material
      rw [SpdmResponder.provision, hchain]
      exact ⟨_, rfl⟩
    requester := by
      intro C cfg newContext
      rw [SpdmRequester.provision, hchain]
      exact ⟨_, rfl⟩ }

/-- **Main theorem.** The provider does so exactly with certificates that fit the array and whose length is
a `u16`; and both constructors panic exactly with those that do not fit. -/
theorem wholeOrNone_iff (capacity : Nat) (certDer : Bytes) :
    (WholeOrNone capacity certDer ↔ certDer.length ≤ capacity ∧ certDer.length < 2 ^ 16) ∧
    (∀ {C E M : Type} (lib : ResponderLib C E M) (cfg : Config) (build : Build)
      (strategy : CertValidationStrategy) (material : Option SpdmCertChainData → M),
      SpdmResponder.provision lib cfg build capacity strategy (.rats certDer) material = .error .panic ↔
        capacity < certDer.length) ∧
    ∀ {C : Type} (cfg : Config) (newContext : Option SpdmCertChainData → C),
      SpdmRequester.provision cfg capacity newContext (.rats certDer) = .error .panic ↔
        capacity < certDer.length := by
  refine ⟨⟨?_, wholeOrNone_of_fits⟩, ?_, ?_⟩
  · intro h
    have hfits : certDer.length ≤ capacity := by
      by_contra hlong
      have hnone := h.none (Nat.lt_of_not_le hlong)
      rw [CertProvider.getFullCertChain_long (Nat.lt_of_not_le hlong)] at hnone
      cases hnone
    obtain ⟨d, hd, htake⟩ := h.whole hfits
    rw [CertProvider.getFullCertChain_fits hfits] at hd
    obtain rfl := Option.some.inj (Except.ok.inj hd)
    -- a size that has wrapped takes less than the certificate
    have hle : asU16 certDer.length ≤ certDer.length := Nat.mod_le _ _
    have hlen := congrArg List.length htake
    rw [List.take_append_of_le_length hle, List.length_take, Nat.min_eq_left hle] at hlen
    exact ⟨hfits, asU16_eq_iff.mp hlen⟩
  · intro C E M lib cfg build strategy material
    rw [SpdmResponder.provision_panics, CertProvider.getFullCertChain_panics]
  · intro C cfg newContext
    rw [SpdmRequester.provision_panics, CertProvider.getFullCertChain_panics]

end RatsRs.Transport

/-! ### A certificate that is too long

Certificates of any content, in DER as `x509_cert` writes it. -/
namespace RatsRs.Cert.Sample
open Lib Tee Transport

def derLength (n : Nat) : Bytes :=
  if n < 0x80 then [UInt8.ofNat n]
  else if n < 0x100 then 0x81 :: beBytes 1 n
  else if n < 0x10000 then 0x82 :: beBytes 2 n
  else 0x83 :: beBytes 3 n

/-- Tag, length, content. -/
def derValue (tag : UInt8) (content : Bytes) : Bytes := tag :: derLength content.length ++ content

def oidDer (oid : Oid) : Bytes :=
  if oid = [2, 5, 29, 14] then beBytes 5 0x0603551d0e
  else if oid = [2, 5, 29, 19] then beBytes 5 0x0603551d13
  else if oid = [2, 5, 29, 15] then beBytes 5 0x0603551d0f
  else if oid = oidTcgDiceTaggedEvidence then beBytes 8 0x0606678105050409
  else beBytes 8 0x0606678105050402

def extensionDer (extension : Extension) : Bytes :=
  derValue 0x30 (oidDer extension.extnId ++ (if extension.critical then [1, 1, 0xff] else []) ++
    derValue 4 extension.extnValue)

def tbsCertificateDer (t : TbsCertificate) : Bytes :=
  derValue 0x30 (beBytes 5 0xa003020102 ++ derValue 2 (beBytes 1 t.serialNumber) ++ algorithmDer ++ nameDer ++
    beBytes 32 0x301e170d3234303130313030303030305a170d3234303130313030303130305a ++ nameDer ++ spkiDer ++
    derValue 0xa3 (derValue 0x30 ((t.extensions.getD []).flatMap extensionDer)))

def certificateDer (c : Certificate) : Bytes :=
  derValue 0x30 (tbsCertificateDer c.tbsCertificate ++ algorithmDer ++ derValue 3 (0 :: c.signature.rawBytes))

example : certificateDer (cert first) = firstDer := by decide +kernel

/-- The sample's libraries, for certificates of any content. -/
def anySize : Externals :=
  { externals with
    p256 := { p256 with trySign := fun _ _ _ => .ok firstSignature }
    x509 :=
      { x509 with
        toDer := fun c => .ok (certificateDer c)
        tbsToDer := fun t => .ok (tbsCertificateDer t)
        builderBuild := fun b => do
          let t := { b.tbs with extensions := some b.extensions }
          let signature ← b.certSigner.trySign (tbsCertificateDer t)
          pure ⟨t, t.signature, ⟨0, signature⟩⟩ } }

/-- A builder with one custom claim of 4096 bytes, the size of `spdmlib`'s array. -/
def largeBuilder : CertBuilder :=
  (CertBuilder.new (fun _ => .ok (QuoteKind.sgx.evidence quote)) .sha256).withClaims
    (.ofList [("firmware_log", List.replicate 4096 7)])

def largeDer : Res Bytes := do
  let bundle ← largeBuilder.buildWithPrivateKey anySize (.p256 ())
  bundle.certToDer anySize

end RatsRs.Cert.Sample

namespace RatsRs.Transport
open Cert.Sample

/-- The builder returns a certificate at which the provider panics. -/
theorem largeDer_panics : ∃ der, largeDer = .ok der ∧ ¬ WholeOrNone 4096 der ∧
    (CertProvider.rats der).getFullCertChain 4096 = .error .panic := by
  have hlong : (match largeDer with
      | .ok der => decide (4096 < der.length)
      | .error _ => false) = true := by decide +kernel
  generalize largeDer = r at hlong
  cases r with
  | error e => cases hlong
  | ok der =>
    have hlt : 4096 < der.length := of_decide_eq_true hlong
    have hpanic := CertProvider.getFullCertChain_long hlt
    refine ⟨der, rfl, ?_, hpanic⟩
    intro h
    have hnone := h.none hlt
    rw [hpanic] at hnone
    cases hnone

end RatsRs.Transport
