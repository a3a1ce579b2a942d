import RatsRs.Tee.Verifier

/-! What creating, verifying and reading evidence comes to.

A quote that either parser accepts is of one of four kinds, and its bytes alone say
which: no string is a quote of two kinds. From there on everything the verifier does
with the evidence is a statement about the bytes: they pass the library, the report
data in them is the expected one, the claims are the fields of the kind's format. -/
namespace RatsRs.Tee
open Lib

/-- The kinds of quote. -/
inductive QuoteKind where
  | sgx
  | tdx (layout : TdxEvidence.Layout)
  deriving DecidableEq, Repr

namespace QuoteKind

/-- The parser of this kind accepts the quote. -/
def Accepts : QuoteKind → Bytes → Prop
  | sgx, quote => SgxDcapEvidence.Accepted quote
  | tdx layout, quote => layout.Matches quote

/-- The layout the parser accepts it under: for SGX that of `sgx_quote3_t`. -/
def format : QuoteKind → QuoteFormat
  | sgx => sgxFormat (SgxDcapEvidence.reportBody 0)
  | tdx layout => layout.format

def evidence : QuoteKind → Bytes → AutoEvidence
  | sgx, quote => .sgxDcap ⟨quote⟩
  | tdx _, quote => .tdx ⟨quote⟩

/-- The header tells an SGX quote from a TDX quote, and the layouts of TDX apart. -/
theorem Accepts.unique {k m : QuoteKind} {quote : Bytes} (hk : k.Accepts quote)
    (hm : m.Accepts quote) : k = m := by
  have key : ∀ l : TdxEvidence.Layout, SgxDcapEvidence.Accepted quote → ¬ l.Matches quote := by
    rintro l hs hl
    have hv := hl.version
    have ht := hl.teeType
    rcases hs.header with ⟨h3, -⟩ | ⟨-, h0⟩
    · cases l <;> simp only [TdxEvidence.Layout.version] at hv <;> omega
    · omega
  cases k with
  | sgx =>
    cases m with
    | sgx => rfl
    | tdx m => exact absurd hm (key m hk)
  | tdx l =>
    cases m with
    | sgx => exact absurd hk (key l hm)
    | tdx m =>
      rw [TdxEvidence.Layout.eq_of_type (l := m) (m := l) (by rw [← hk.version, ← hm.version])]
      intro s hs t ht
      rw [← (hm.bodyType s hs).1, ← (hk.bodyType t ht).1]

/-! What the quote's own version says. -/

/-- The layout of the quote's own version. -/
def ownFormat : QuoteKind → Bytes → QuoteFormat
  | sgx, quote => sgxFormat (SgxDcapEvidence.ownBody (headerOf quote).version)
  | tdx layout, _ => layout.format

/-- A complete quote of this kind, by the layout of its own version. -/
def WellFormed : QuoteKind → Bytes → Prop
  | sgx, quote => SgxDcapEvidence.WellFormed quote
  | tdx layout, quote => layout.Matches quote

theorem tdx_not_sgxQuote5 {l : TdxEvidence.Layout} {quote : Bytes} (h : l.Matches quote) :
    ¬ IsSgxQuote5 quote := by
  intro h5
  have htype := h.teeType.symm.trans h5.2
  cases htype

/-- The version of an SGX quote is 5 only if the quote is a `sgx_quote5_t`. -/
theorem version_ne_of_isSgx {quote : Bytes} (hheader : (headerOf quote).IsSgx) (h : ¬ IsSgxQuote5 quote) :
    (headerOf quote).version ≠ 5 := by
  intro h5
  rcases hheader with ⟨h3, -⟩ | ⟨-, htype⟩
  · exact absurd (h3.symm.trans h5) (by decide)
  · exact h ⟨h5, htype⟩

/-- Every other quote is read by its own layout. -/
theorem ownFormat_eq {k : QuoteKind} {quote : Bytes} (hk : k.Accepts quote) (h : ¬ IsSgxQuote5 quote) :
    k.ownFormat quote = k.format := by
  cases k with
  | sgx =>
    rw [ownFormat, SgxDcapEvidence.ownBody, if_neg (version_ne_of_isSgx hk.header h)]
    rfl
  | tdx l => rfl

theorem WellFormed.accepts {k : QuoteKind} {quote : Bytes} (hk : k.WellFormed quote)
    (h : ¬ IsSgxQuote5 quote) : k.Accepts quote := by
  cases k with
  | sgx => exact (SgxDcapEvidence.accepted_iff_wellFormed (version_ne_of_isSgx hk.header h)).mpr hk
  | tdx l => exact hk

theorem Accepts.wellFormed {k : QuoteKind} {quote : Bytes} (hk : k.Accepts quote)
    (h : ¬ IsSgxQuote5 quote) : k.WellFormed quote := by
  cases k with
  | sgx => exact (SgxDcapEvidence.accepted_iff_wellFormed (version_ne_of_isSgx hk.header h)).mp hk
  | tdx l => exact hk

/-- No parser takes a `sgx_quote5_t` about a padded digest. -/
theorem not_accepts_of_padded {quote hash : Bytes} (h : IsSgxQuote5 quote) (hhash : hash.length = 32)
    (hread : (sgx.ownFormat quote).reportData.read quote = hash ++ List.replicate 32 0) (k : QuoteKind) :
    ¬ k.Accepts quote := by
  intro hk
  cases k with
  | sgx =>
    rw [ownFormat, h.1] at hread
    exact SgxDcapEvidence.Accepted.not_padded hk hhash hread
  | tdx l => exact tdx_not_sgxQuote5 hk h

theorem getClaims_eq {k : QuoteKind} {quote : Bytes} (h : k.Accepts quote) :
    (k.evidence quote).getClaims = .ok (k.format.claims quote) := by
  cases k with
  | sgx => exact SgxDcapEvidence.getClaims_eq h
  | tdx l => exact h.claims_eq

end QuoteKind

/-! ### Creating evidence -/

/-- Trying a parser that never crashes. -/
theorem attempt_eq {α : Type} {r : Option (Res α)} (h : ∀ x ∈ r, Res.Safe x) :
    ∃ a, attempt r = .ok a ∧ ∀ x, a = some x ↔ r = some (.ok x) := by
  rcases r with - | (e | c) | x
  · exact ⟨none, rfl, by simp⟩
  · exact ⟨none, rfl, by simp⟩
  · exact absurd rfl (h _ rfl c)
  · exact ⟨some x, rfl, by simp⟩

/-- **Creating evidence** succeeds on the quotes of some kind, under the tag of quotes. -/
theorem AutoEvidence.createEvidenceFromDice_eq_ok {cborTag : Nat} {quote : Bytes} {e : AutoEvidence} :
    createEvidenceFromDice cborTag quote = .ok e ↔
      cborTag = ocbrTagEvidenceIntelTeeQuote ∧ ∃ k : QuoteKind, k.Accepts quote ∧ e = k.evidence quote := by
  obtain ⟨sgx, hsgx, hs⟩ := attempt_eq
    (r := SgxDcapEvidence.createEvidenceFromDice cborTag quote)
    (createFromDice_safe (SgxDcapEvidence.newFromUnchecked_safe quote))
  obtain ⟨tdx, htdx, ht⟩ := attempt_eq
    (r := TdxEvidence.createEvidenceFromDice cborTag quote)
    (createFromDice_safe (TdxEvidence.newFromUnchecked_safe quote))
  rw [createEvidenceFromDice, hsgx, htdx]
  simp only [Res.ofCrash, ok_bind]
  cases sgx with
  | some x =>
    obtain ⟨htag, rfl, ha⟩ := SgxDcapEvidence.create_eq_ok.mp ((hs x).mp rfl)
    rw [pure_eq_ok]
    constructor
    · rintro rfl
      exact ⟨htag, .sgx, ha, rfl⟩
    · rintro ⟨-, k, hk, rfl⟩
      rw [QuoteKind.Accepts.unique hk (m := .sgx) ha]
      rfl
  | none =>
    have hnosgx : ¬ (cborTag = ocbrTagEvidenceIntelTeeQuote ∧ SgxDcapEvidence.Accepted quote) := by
      rintro ⟨htag, ha⟩
      have := (hs ⟨quote⟩).mpr (SgxDcapEvidence.create_eq_ok.mpr ⟨htag, rfl, ha⟩)
      cases this
    cases tdx with
    | some x =>
      obtain ⟨htag, rfl, l, hl⟩ := TdxEvidence.create_eq_ok.mp ((ht x).mp rfl)
      rw [pure_eq_ok]
      constructor
      · rintro rfl
        exact ⟨htag, .tdx l, hl, rfl⟩
      · rintro ⟨-, k, hk, rfl⟩
        rw [QuoteKind.Accepts.unique hk (m := .tdx l) hl]
        rfl
    | none =>
      simp only [Res.fail, reduceCtorEq, false_iff]
      rintro ⟨htag, k, hk, -⟩
      cases k with
      | sgx => exact hnosgx ⟨htag, hk⟩
      | tdx l =>
        have := (ht ⟨quote⟩).mpr (TdxEvidence.create_eq_ok.mpr ⟨htag, rfl, l, hk⟩)
        cases this

/-! ### Verifying evidence -/

/-- **Verifying evidence**: the library passes exactly these bytes, and their report data
is the expected one, padded with zeros. -/
theorem QuoteKind.verifyEvidence_eq_ok {D : Dcap} {k : QuoteKind} {quote reportData : Bytes} {u : Unit}
    (hk : k.Accepts quote) (h : reportData.length ≤ 64) :
    AutoVerifier.verifyEvidence D (k.evidence quote) reportData = .ok u ↔
      D.Passes quote ∧ k.format.reportData.read quote =
        reportData ++ List.replicate (64 - reportData.length) 0 := by
  cases k with
  | sgx =>
    show SgxDcapVerifier.verifyEvidence D ⟨quote⟩ reportData = .ok u ↔ _
    simp only [SgxDcapVerifier.verifyEvidence, bind_eq_ok, Res.context_eq_ok,
      Dcap.ecdsaQuoteVerification_eq_ok, exists_const, extend_of_le h, Except.ok.injEq, exists_eq_left',
      SgxDcapEvidence.reportData_eq hk, Res.ofCrash, Res.ensure_eq_ok]
    rfl
  | tdx l =>
    show TdxVerifier.verifyEvidence D ⟨quote⟩ reportData = .ok u ↔ _
    simp only [TdxVerifier.verifyEvidence, bind_eq_ok, Res.context_eq_ok,
      Dcap.ecdsaQuoteVerification_eq_ok, exists_const, extend_of_le h, Except.ok.injEq, exists_eq_left',
      hk.reportDataField_eq, Res.ensure_eq_ok]
    rfl

/-- On report data that fits the field, verifying returns. -/
theorem QuoteKind.verifyEvidence_safe {D : Dcap} {k : QuoteKind} {quote reportData : Bytes}
    (hk : k.Accepts quote) (h : reportData.length ≤ 64) :
    (AutoVerifier.verifyEvidence D (k.evidence quote) reportData).Safe := by
  cases k with
  | sgx =>
    show (SgxDcapVerifier.verifyEvidence D ⟨quote⟩ reportData).Safe
    apply Res.Safe.bind (D.ecdsaQuoteVerification_safe _ _).mapError
    intro _ _
    rw [extend_of_le h, ok_bind, SgxDcapEvidence.reportData_eq hk]
    exact Res.safe_ensure
  | tdx l =>
    show (TdxVerifier.verifyEvidence D ⟨quote⟩ reportData).Safe
    apply Res.Safe.bind (D.ecdsaQuoteVerification_safe _ _).mapError
    intro _ _
    rw [extend_of_le h, ok_bind, hk.reportDataField_eq]
    exact Res.safe_ensure

end RatsRs.Tee
