import RatsRs.Cert.Sample
import RatsRs.Lib.ByteStream

/-! The DICE extensions as values that are encoded.

An extension is written as the buffer it carries, and `to_extension` carries the same buffer. The length
that is announced for it is a `u16`, though, so it is the buffer's only as far as that goes. -/
namespace RatsRs.Cert
open Lib

/-- `DiceEvidenceExtension` and `DiceEndorsementExtension` differ in their `OID`. -/
structure DiceExtension where
  oid : Oid
  buffer : Bytes
  deriving DecidableEq

def DiceEvidenceExtension (buffer : Bytes) : DiceExtension := ⟨oidTcgDiceTaggedEvidence, buffer⟩

def DiceEndorsementExtension (buffer : Bytes) : DiceExtension := ⟨oidTcgDiceEndorsementManifest, buffer⟩

/-- `len as u16`. -/
def asU16 (n : Nat) : Nat := n % 2 ^ 16

theorem asU16_eq_iff {n : Nat} : asU16 n = n ↔ n < 2 ^ 16 := Nat.mod_eq_iff_lt (by decide)

namespace DiceExtension

/-- `Length::new` of the length as a `u16`. -/
def encodedLen (self : DiceExtension) : Except String Nat := .ok (asU16 self.buffer.length)

def encode {τ : Type} (W : Write τ) (self : DiceExtension) (encoder : τ) : Except String Unit × τ :=
  W.writeAll encoder self.buffer

def toExtension (X : Externals) (self : DiceExtension) : Except String Extension :=
  diceExtension X self.oid self.buffer

/-- The contract of `Encode`: with a length `n` announced, `encode` on any writer adds `n` bytes if it is
`Ok`, and these are the buffer and what `to_extension`, if it is `Ok`, has for the value. -/
def KeepsContract (X : Externals) (self : DiceExtension) : Prop :=
  ∀ n, self.encodedLen = .ok n →
    ∀ {τ : Type} (W : Write τ) (encoder encoder' : τ), self.encode W encoder = (.ok (), encoder') →
      ∃ bytes, W.written encoder' = W.written encoder ++ bytes ∧ bytes.length = n ∧
        bytes = self.buffer ∧ ∀ extension, self.toExtension X = .ok extension → extension.extnValue = bytes

variable {X : Externals} {self : DiceExtension}

/-- `OctetString::new` keeps the bytes. -/
theorem toExtension_value (h : ∀ b content, X.x509.octetString b = .ok content → content = b)
    {extension : Extension} (hext : self.toExtension X = .ok extension) :
    extension.extnValue = self.buffer := by
  rw [toExtension, diceExtension] at hext
  obtain ⟨content, hcontent, hpure⟩ := bind_eq_ok.mp hext
  obtain rfl := pure_eq_ok.mp hpure
  exact h _ _ hcontent

theorem keepsContract_iff (h : ∀ b content, X.x509.octetString b = .ok content → content = b) :
    self.KeepsContract X ↔ self.buffer.length < 2 ^ 16 := by
  constructor
  · intro hkeeps
    obtain ⟨bytes, -, hlen, rfl, -⟩ := hkeeps _ rfl Write.string [] self.buffer rfl
    exact asU16_eq_iff.mp hlen.symm
  · intro hlen n hn τ W encoder encoder' hencode
    obtain rfl := Except.ok.inj hn
    refine ⟨self.buffer, W.writeAll_ok hencode, (asU16_eq_iff.mpr hlen).symm, rfl, ?_⟩
    intro extension hext
    exact toExtension_value h hext

end DiceExtension

/-- **Main theorem.** Both extensions keep the contract exactly for buffers of less than 64 KiB. -/
theorem dice_extensions_keep_contract_iff (X : Externals)
    (h : ∀ b content, X.x509.octetString b = .ok content → content = b) (buffer : Bytes) :
    ((DiceEvidenceExtension buffer).KeepsContract X ↔ buffer.length < 2 ^ 16) ∧
      ((DiceEndorsementExtension buffer).KeepsContract X ↔ buffer.length < 2 ^ 16) :=
  ⟨DiceExtension.keepsContract_iff h, DiceExtension.keepsContract_iff h⟩

theorem dice_extensions_keep_contract_sample :
    ((DiceEvidenceExtension [1, 2, 3]).KeepsContract Sample.externals ↔ ([1, 2, 3] : Bytes).length < 2 ^ 16) ∧
      ((DiceEndorsementExtension [1, 2, 3]).KeepsContract Sample.externals ↔
        ([1, 2, 3] : Bytes).length < 2 ^ 16) :=
  dice_extensions_keep_contract_iff Sample.externals Sample.x509_lawful.octetString [1, 2, 3]

/-- Of 64 KiB no byte is announced and all are written. -/
theorem long_extension_wraps :
    (DiceEvidenceExtension (List.replicate 65536 7)).encodedLen = .ok 0 ∧
      (DiceEndorsementExtension (List.replicate 65536 7)).encodedLen = .ok 0 ∧
      (DiceEvidenceExtension (List.replicate 65536 7)).encode Write.string [] =
        (.ok (), List.replicate 65536 7) ∧
      (DiceEvidenceExtension (List.replicate 65536 7)).toExtension Sample.externals =
        .ok ⟨oidTcgDiceTaggedEvidence, false, List.replicate 65536 7⟩ ∧
      ¬ (DiceEvidenceExtension (List.replicate 65536 7)).KeepsContract Sample.externals ∧
      ¬ (DiceEndorsementExtension (List.replicate 65536 7)).KeepsContract Sample.externals := by
  have hwraps : asU16 (List.replicate 65536 (7 : UInt8)).length = 0 := by rw [List.length_replicate]; rfl
  have hlong : ¬ (List.replicate 65536 (7 : UInt8)).length < 2 ^ 16 := by
    rw [List.length_replicate]
    decide
  have hshort : (List.replicate 65536 (7 : UInt8)).length < 2 ^ 28 := by
    rw [List.length_replicate]
    decide
  refine ⟨congrArg Except.ok hwraps, congrArg Except.ok hwraps, rfl, ?_, ?_, ?_⟩
  · rw [DiceEvidenceExtension, DiceExtension.toExtension, diceExtension]
    simp only [Sample.externals, Sample.x509, if_pos hshort, ok_bind]
    rfl
  · intro hkeeps
    exact hlong ((DiceExtension.keepsContract_iff Sample.x509_lawful.octetString).mp hkeeps)
  · intro hkeeps
    exact hlong ((DiceExtension.keepsContract_iff Sample.x509_lawful.octetString).mp hkeeps)

end RatsRs.Cert
