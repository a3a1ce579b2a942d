import RatsRs.Cert.Completeness

/-! Which claims the hardware vouches for.

Merging keeps custom claims from replacing a claim of the quote: under a name that the
quote has a claim for, the value is the quote's, and a policy over such names is a
statement about the quote. It does not keep them from using a name that only another
kind of quote has claims for. -/
namespace RatsRs.Cert
open Lib Tee

/-- All names of built-in claims, of quotes of any kind. -/
def builtInClaimNames : List String :=
  [builtInClaimCommonQuote, builtInClaimCommonQuoteType] ++ sgxClaimFields.map Prod.fst ++
    TdxEvidence.claimFieldsV15.map Prod.fst

section Hardware
variable {X : Externals} {D : Dcap} {der : Bytes}

/-- A policy holds exactly if each expected claim is there. -/
theorem holds_contains_iff {expected claims : Claims} :
    (VerifiyPolicy.contains expected).holds claims = true ↔
      ∀ e ∈ expected.entries, claims.get e.1 = some e.2 := by
  rw [VerifiyPolicy.holds, List.all_eq_true]
  refine forall₂_congr fun e _ => ?_
  obtain ⟨name, expectedValue⟩ := e
  cases hg : claims.get name with
  | none => simp [hg]
  | some value =>
    simp only [hg, decide_eq_true_eq, Option.some.injEq]
    exact eq_comm

theorem verify_eq_passed {verifier : CertVerifier} : verifier.verify X D der = .ok .passed ↔
    ∃ claims, verifyCertDer X D der = .ok claims ∧ verifier.policy.holds claims = true := by
  simp only [CertVerifier.verify, bind_eq_ok]
  refine exists_congr fun claims => and_congr_right fun _ => ?_
  split <;> simp_all [pure_eq_ok]

/-- After merging, a name of the quote has the quote's value, any other the custom one. -/
theorem get_mergeClaims_of_mem {builtin custom : Claims} {name : String} (h : name ∈ builtin.keys) :
    (mergeClaims builtin custom).get name = builtin.get name := by
  obtain ⟨value, hvalue⟩ := IndexMap.exists_get_of_mem h
  rw [mergeClaims, IndexMap.get_addNew, hvalue, Option.some_or]

theorem get_mergeClaims_of_not_mem {builtin custom : Claims} {name : String}
    (h : name ∉ builtin.keys) : (mergeClaims builtin custom).get name = custom.get name := by
  rw [mergeClaims, IndexMap.get_addNew, IndexMap.get_eq_none_iff.mpr h, Option.none_or]
  rfl

/-- **Claims under the names of the certificate's own kind of quote come from the quote**,
all others from the claims buffer; and a policy over those names passes only what the
quote itself says. What a quote says is said by the layout of its own version, which that
of an SGX quote of version 5 is not read by. -/
theorem claims_of_own_kind {claims : Claims} (h : verifyCertDer X D der = .ok claims)
    (hquote : ∀ quote, quoteOf X der = some quote → ¬ IsSgxQuote5 quote) :
    ∃ c : Chain, c.Sound X D der claims ∧
      (∀ name ∈ (c.kind.ownFormat c.quote).names, ∃ value, claims.get name = some value ∧
        (name, value) ∈ (c.kind.ownFormat c.quote).entries c.quote) ∧
      (∀ name, name ∉ (c.kind.ownFormat c.quote).names → claims.get name = c.customClaims.get name) ∧
      ∀ expected : Claims, (∀ name ∈ expected.keys, name ∈ (c.kind.ownFormat c.quote).names) →
        (CertVerifier.mk (.contains expected)).verify X D der = .ok .passed →
        ∀ e ∈ expected.entries, e ∈ (c.kind.ownFormat c.quote).entries c.quote := by
  obtain ⟨c, hvalid, rfl⟩ := verifyCertDer_eq_ok.mp h
  have hformat : c.kind.ownFormat c.quote = c.kind.format :=
    QuoteKind.ownFormat_eq hvalid.accepted (hquote c.quote hvalid.quoteOf_eq)
  have hkeys : c.builtinClaims.keys = c.kind.format.names := QuoteFormat.keys_claims _ _
  have hown : ∀ name ∈ c.kind.format.names, ∀ value,
      (mergeClaims c.builtinClaims c.customClaims).get name = some value →
        (name, value) ∈ c.kind.format.entries c.quote := by
    intro name hname value hvalue
    rw [get_mergeClaims_of_mem (hkeys ▸ hname)] at hvalue
    exact IndexMap.get_eq_some_iff.mp hvalue
  refine ⟨c, hvalid.sound hformat, ?_⟩
  rw [hformat]
  refine ⟨?_, ?_, ?_⟩
  · intro name hname
    obtain ⟨value, hvalue⟩ := IndexMap.exists_get_of_mem (m := c.builtinClaims) (hkeys ▸ hname)
    have hmerged : (mergeClaims c.builtinClaims c.customClaims).get name = some value :=
      (get_mergeClaims_of_mem (hkeys ▸ hname)).trans hvalue
    exact ⟨value, hmerged, hown name hname value hmerged⟩
  · intro name hname
    exact get_mergeClaims_of_not_mem (hkeys ▸ hname)
  · intro expected hnames hpassed e he
    obtain ⟨claims, hclaims, hholds⟩ := verify_eq_passed.mp hpassed
    rw [h, Except.ok.injEq] at hclaims
    subst hclaims
    exact hown _ (hnames _ (List.mem_map_of_mem he)) _ (holds_contains_iff.mp hholds e he)

end Hardware

theorem firstDer_claims : ∃ c : Chain,
    c.Sound Sample.externals Sample.dcap Sample.firstDer Sample.verifiedClaims ∧
    (∀ name ∈ (c.kind.ownFormat c.quote).names, ∃ value, Sample.verifiedClaims.get name = some value ∧
      (name, value) ∈ (c.kind.ownFormat c.quote).entries c.quote) ∧
    (∀ name, name ∉ (c.kind.ownFormat c.quote).names →
      Sample.verifiedClaims.get name = c.customClaims.get name) ∧
    ∀ expected : Claims, (∀ name ∈ expected.keys, name ∈ (c.kind.ownFormat c.quote).names) →
      (CertVerifier.mk (.contains expected)).verify Sample.externals Sample.dcap Sample.firstDer =
        .ok .passed →
      ∀ e ∈ expected.entries, e ∈ (c.kind.ownFormat c.quote).entries c.quote := by
  have hquote : quoteOf Sample.externals Sample.firstDer = some Sample.quote := by decide +kernel
  refine claims_of_own_kind Sample.verify_firstDer fun quote h => ?_
  rw [hquote] at h
  obtain rfl := Option.some.inj h
  decide +kernel

/-- The sample has an SGX quote, and passes a policy about a TDX measurement that is
nowhere but in its custom claims. -/
theorem sgx_certificate_with_tdx_measurement :
    verifyCertDer Sample.externals Sample.dcap Sample.firstDer = .ok Sample.verifiedClaims ∧
    builtInClaimTdxMrTd ∈ builtInClaimNames ∧
    Sample.verifiedClaims.get builtInClaimTdxMrTd = some [1, 2] ∧
    Sample.claims.get builtInClaimTdxMrTd = some [1, 2] ∧
    (∀ k : QuoteKind, k.Accepts Sample.quote → builtInClaimTdxMrTd ∉ k.format.names) ∧
    (CertVerifier.mk (.contains (.ofList [(builtInClaimTdxMrTd, [1, 2])]))).verify Sample.externals
      Sample.dcap Sample.firstDer = .ok .passed := by
  refine ⟨Sample.verify_firstDer, by decide, by decide +kernel, by decide +kernel, ?_, by decide +kernel⟩
  intro k hk
  rw [QuoteKind.Accepts.unique hk Sample.quote_accepted]
  decide

end RatsRs.Cert
