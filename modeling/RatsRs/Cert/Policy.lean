import RatsRs.Cert.Hardware

/-! What a policy decides.

Once a certificate verifies, `CertVerifier.verify` is a function of three maps, the expected, the
built-in and the custom claims (`verdict`), and it says `Passed` for exactly those that agree on
every expected name (`Meets`). -/
namespace RatsRs.Cert
open Lib Tee

/-- Each expected claim is the built-in claim of its name, or where there is none the custom one. -/
def Meets (expected builtin custom : Claims) : Prop :=
  ∀ e ∈ expected.entries, (e.1 ∈ builtin.keys → builtin.get e.1 = some e.2) ∧
    (e.1 ∉ builtin.keys → custom.get e.1 = some e.2)

/-- What verification says of a certificate with these claims. -/
def verdict (expected builtin custom : Claims) : VerifyPolicyOutput :=
  if (VerifiyPolicy.contains expected).holds (mergeClaims builtin custom) then .passed else .failed

section Verdict
variable {expected builtin custom : Claims}

theorem get_mergeClaims_eq_some_iff {name : String} {value : Bytes} :
    (mergeClaims builtin custom).get name = some value ↔
      (name ∈ builtin.keys → builtin.get name = some value) ∧
        (name ∉ builtin.keys → custom.get name = some value) := by
  by_cases h : name ∈ builtin.keys
  · rw [get_mergeClaims_of_mem h]
    simp [h]
  · rw [get_mergeClaims_of_not_mem h]
    simp [h]

theorem verdict_eq_passed : verdict expected builtin custom = .passed ↔ Meets expected builtin custom := by
  have hholds : (VerifiyPolicy.contains expected).holds (mergeClaims builtin custom) = true ↔
      Meets expected builtin custom := by
    simp only [holds_contains_iff, get_mergeClaims_eq_some_iff, Meets]
  rw [← hholds, verdict]
  split <;> simp_all

theorem verdict_eq_failed : verdict expected builtin custom = .failed ↔ ¬ Meets expected builtin custom := by
  rw [← verdict_eq_passed]
  cases verdict expected builtin custom <;> simp

/-- Two verdicts are the same when they pass together. -/
theorem verdict_congr {expected' builtin' custom' : Claims}
    (h : Meets expected builtin custom ↔ Meets expected' builtin' custom') :
    verdict expected builtin custom = verdict expected' builtin' custom' := by
  by_cases hmeets : Meets expected builtin custom
  · rw [verdict_eq_passed.mpr hmeets, verdict_eq_passed.mpr (h.mp hmeets)]
  · rw [verdict_eq_failed.mpr hmeets, verdict_eq_failed.mpr (mt h.mpr hmeets)]

theorem verdict_missing {name : String} (hexpected : name ∈ expected.keys) (hbuiltin : name ∉ builtin.keys)
    (hcustom : name ∉ custom.keys) : verdict expected builtin custom = .failed := by
  rw [verdict_eq_failed]
  intro h
  obtain ⟨value, hvalue⟩ := IndexMap.exists_get_of_mem hexpected
  have hget := (h _ (IndexMap.get_eq_some_iff.mp hvalue)).2 hbuiltin
  rw [IndexMap.get_eq_none_iff.mpr hcustom] at hget
  cases hget

/-- The order of the entries of the three maps is of no account. -/
theorem verdict_perm {expected' builtin' custom' : Claims}
    (hexpected : expected.entries.Perm expected'.entries)
    (hbuiltin : builtin.entries.Perm builtin'.entries) (hcustom : custom.entries.Perm custom'.entries) :
    verdict expected builtin custom = verdict expected' builtin' custom' := by
  have hkeys : ∀ name, name ∈ builtin.keys ↔ name ∈ builtin'.keys := by
    intro name
    exact (hbuiltin.map Prod.fst).mem_iff
  apply verdict_congr
  unfold Meets
  refine forall_congr' fun e => ?_
  rw [hexpected.mem_iff, hkeys, IndexMap.get_perm hbuiltin, IndexMap.get_perm hcustom]

theorem verdict_more {more : Claims} (hsub : expected.entries ⊆ more.entries)
    (h : verdict more builtin custom = .passed) : verdict expected builtin custom = .passed := by
  rw [verdict_eq_passed] at h ⊢
  intro e he
  exact h e (hsub he)

/-- Over names there are built-in claims for, custom claims have no say. -/
theorem verdict_builtin (hnames : ∀ name ∈ expected.keys, name ∈ builtin.keys) (custom' : Claims) :
    verdict expected builtin custom = verdict expected builtin custom' := by
  apply verdict_congr
  unfold Meets
  refine forall₂_congr fun e he => ?_
  have hname := hnames e.1 (List.mem_map_of_mem he)
  simp [hname]

end Verdict

section Policy
variable {X : Externals} {D : Dcap} {der : Bytes}

theorem verify_contains_of_valid {c : Chain} (h : c.Valid X D der) (expected : Claims) :
    (CertVerifier.mk (.contains expected)).verify X D der =
      .ok (verdict expected c.builtinClaims c.customClaims) := by
  unfold CertVerifier.verify
  rw [verifyCertDer_eq_ok.mpr ⟨c, h, rfl⟩, ok_bind, verdict]
  split <;> rfl

/-- A policy adds no error and takes none away. -/
theorem verify_eq_error {verifier : CertVerifier} {e : Fault} :
    verifier.verify X D der = .error e ↔ verifyCertDer X D der = .error e := by
  unfold CertVerifier.verify
  cases verifyCertDer X D der with
  | error fault => rw [error_bind, Except.error.injEq, Except.error.injEq]
  | ok claims =>
    rw [ok_bind]
    split <;> simp [pure, Except.pure]

end Policy

/-- **Policies are exact.** For a certificate that verifies, with built-in claims `B` and custom
claims `C`, the outcome is `verdict P B C`: `Passed` when each expected claim is the one in `B`, or
the one in `C` for a name not in `B`, and else `Failed`; it is an error exactly where verification
is. The order of entries makes no difference to it, more expectations can only make it fail, and
`C` has no say over names in `B`. -/
theorem policy_exact (X : Externals) (D : Dcap) (der : Bytes) (P : Claims) :
    (∀ claims, verifyCertDer X D der = .ok claims → ∃ c : Chain, c.Valid X D der) ∧
    (∀ c : Chain, c.Valid X D der →
      (CertVerifier.mk (.contains P)).verify X D der = .ok (verdict P c.builtinClaims c.customClaims)) ∧
    (∀ e, (CertVerifier.mk (.contains P)).verify X D der = .error e ↔ verifyCertDer X D der = .error e) ∧
    (∀ B C : Claims,
      (verdict P B C = .passed ↔ ∀ e ∈ P.entries,
        (e.1 ∈ B.keys → B.get e.1 = some e.2) ∧ (e.1 ∉ B.keys → C.get e.1 = some e.2)) ∧
      (∀ name ∈ P.keys, name ∉ B.keys → name ∉ C.keys → verdict P B C = .failed) ∧
      (∀ P' B' C' : Claims, P.entries.Perm P'.entries → B.entries.Perm B'.entries →
        C.entries.Perm C'.entries → verdict P B C = verdict P' B' C') ∧
      (∀ P' : Claims, P.entries ⊆ P'.entries → verdict P' B C = .passed → verdict P B C = .passed) ∧
      ((∀ name ∈ P.keys, name ∈ B.keys) → ∀ C' : Claims, verdict P B C = verdict P B C')) := by
  refine ⟨?_, fun _ hvalid => verify_contains_of_valid hvalid P, fun _ => verify_eq_error, ?_⟩
  · intro claims hclaims
    obtain ⟨c, hvalid, -⟩ := verifyCertDer_eq_ok.mp hclaims
    exact ⟨c, hvalid⟩
  · intro B C
    refine ⟨verdict_eq_passed, ?_, ?_, fun _ => verdict_more, verdict_builtin⟩
    · intro name hexpected hbuiltin hcustom
      exact verdict_missing hexpected hbuiltin hcustom
    · intro P' B' C' hexpected hbuiltin hcustom
      exact verdict_perm hexpected hbuiltin hcustom

/-- The first sample meets an expectation about one of its custom claims. -/
theorem firstDer_meets_policy : ∃ c : Chain, c.Valid Sample.externals Sample.dcap Sample.firstDer ∧
    (CertVerifier.mk (.contains (.ofList [(builtInClaimTdxMrTd, [1, 2])]))).verify Sample.externals
        Sample.dcap Sample.firstDer =
      .ok (verdict (.ofList [(builtInClaimTdxMrTd, [1, 2])]) c.builtinClaims c.customClaims) := by
  obtain ⟨hchain, hverify, -⟩ := policy_exact Sample.externals Sample.dcap Sample.firstDer
    (.ofList [(builtInClaimTdxMrTd, [1, 2])])
  obtain ⟨c, hvalid⟩ := hchain _ Sample.verify_firstDer
  exact ⟨c, hvalid, hverify c hvalid⟩

end RatsRs.Cert
