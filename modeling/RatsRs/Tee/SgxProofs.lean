import RatsRs.Tee.Sgx

/-! What the SGX parser accepts, and where it reads.

An accepted quote is read as `sgx_quote3_t` from end to end, inside the string. That is
the layout of versions 3 and 4. A version 5 quote has two more fields between header and
body (`ownBody`), as the TDX parser has it, so its body is read six bytes too early. -/
namespace RatsRs.Tee
open Lib

/-- An SGX quote whose report body is at `body`. -/
def sgxFormat (body : Nat) : QuoteFormat :=
  .ofTable "sgx_dcap" sgxReportBody body sgxClaimFields .reportData (by decide) (by decide)
    (by decide)

/-- The quote is a `sgx_quote5_t` of an enclave. -/
def IsSgxQuote5 (quote : Bytes) : Prop := (headerOf quote).version = 5 ∧ (headerOf quote).teeType = 0

instance (quote : Bytes) : Decidable (IsSgxQuote5 quote) := inferInstanceAs (Decidable (_ ∧ _))

namespace SgxDcapEvidence

/-! ### What is accepted -/

/-- The quotes the parser accepts. -/
structure Accepted (quote : Bytes) : Prop where
  header : (headerOf quote).IsSgx
  bound : sgxQuote3.size ≤ quote.length
  length : quote.length = sgxQuote3.size + leNat ((sgxQuote3.span 0 .signatureDataLen).read quote)

theorem quote3_within {quote : Bytes} (h : sgxQuote3.size ≤ quote.length) (f : QuoteField) :
    (sgxQuote3.span 0 f).Within quote :=
  Packed.span_within (by omega) f

/-- No string makes the parser read past its end. -/
theorem newFromUnchecked_safe (quote : Bytes) : (newFromUnchecked quote).Safe := by
  by_cases h : sgxQuote4Header.size ≤ quote.length
  · rw [newFromUnchecked, Res.ensure_true h, ok_bind, readHeader_eq h]
    simp only [Res.ofCrash, ok_bind]
    split
    · exact (checkQuote_safe _ _ _ _).bind fun _ _ => Res.safe_ok
    · exact Res.safe_fail
  · rw [newFromUnchecked, Res.ensure_false h]
    exact Res.safe_fail

/-- **The parser accepts exactly its format**, and keeps the bytes it was given. -/
theorem newFromUnchecked_eq_ok {quote : Bytes} {e : SgxDcapEvidence} :
    newFromUnchecked quote = .ok e ↔ e = ⟨quote⟩ ∧ Accepted quote := by
  by_cases h : sgxQuote4Header.size ≤ quote.length
  · rw [newFromUnchecked, Res.ensure_true h, ok_bind, readHeader_eq h]
    simp only [Res.ofCrash, ok_bind]
    by_cases hs : (headerOf quote).IsSgx
    · rw [if_pos hs]
      simp only [bind_eq_ok, checkQuote_eq_ok, pure_eq_ok, exists_const]
      constructor
      · rintro ⟨⟨hbound, hlength⟩, rfl⟩
        exact ⟨rfl, hs, hbound, hlength⟩
      · rintro ⟨rfl, ha⟩
        exact ⟨⟨ha.bound, ha.length⟩, rfl⟩
    · rw [if_neg hs]
      simp only [Res.fail, reduceCtorEq, false_iff]
      exact fun ha => hs ha.2.header
  · have hb : ¬ Accepted quote := fun ha => h (Nat.le_trans (by decide) ha.bound)
    simp only [newFromUnchecked, bind_eq_ok, Res.ensure_eq_ok, h, hb, false_and, and_false,
      exists_false]

theorem create_eq_ok {cborTag : Nat} {quote : Bytes} {e : SgxDcapEvidence} :
    createEvidenceFromDice cborTag quote = some (.ok e) ↔
      cborTag = ocbrTagEvidenceIntelTeeQuote ∧ e = ⟨quote⟩ ∧ Accepted quote := by
  rw [createEvidenceFromDice, createFromDice_eq_ok, newFromUnchecked_eq_ok]

/-- Everything read from an accepted quote is inside it. -/
theorem asQuote_eq {quote : Bytes} (h : Accepted quote) : asQuote ⟨quote⟩ = .ok 0 :=
  deref_zero h.bound

theorem body_within {quote : Bytes} (h : sgxQuote3.size ≤ quote.length) (f : ReportField) :
    (sgxReportBody.span (reportBody 0) f).Within quote :=
  Packed.span_within (Nat.le_trans (by decide) h) f

theorem getClaims_eq {quote : Bytes} (h : Accepted quote) :
    getClaims ⟨quote⟩ = .ok ((sgxFormat (reportBody 0)).claims quote) := by
  have hall : Span.read ⟨0, sgxQuote3.size + leNat ((sgxQuote3.span 0 .signatureDataLen).read quote)⟩
      quote = quote := by
    rw [← h.length]
    simp [Span.read]
  have hin : Span.Within ⟨0, sgxQuote3.size + leNat ((sgxQuote3.span 0 .signatureDataLen).read quote)⟩
      quote := by
    have := h.length
    simp only [Span.Within]
    omega
  have hwithin : ∀ e ∈ (sgxFormat (reportBody 0)).fields, e.2.Within quote := by
    intro e he
    obtain ⟨d, _, rfl⟩ := List.mem_map.mp he
    exact body_within h.bound d.2
  have hfields := insertFields_format (sgxFormat (reportBody 0)) hwithin
  simp only [getClaims, asQuote_eq h, Res.ofCrash, ok_bind, sgxGenClaimsFromQuote,
    readUint_of_within (quote3_within h.bound _), readField_of_within hin, hall]
  rw [show (sgxClaimFields.map fun e => (e.1, sgxReportBody.span (reportBody 0) e.2)) =
    (sgxFormat (reportBody 0)).fields from rfl]
  rw [show utf8 "sgx_dcap" = utf8 (sgxFormat (reportBody 0)).quoteType from rfl, hfields]

theorem reportData_eq {quote : Bytes} (h : Accepted quote) :
    reportData ⟨quote⟩ = .ok ((sgxFormat (reportBody 0)).reportData.read quote) := by
  simp only [reportData, asQuote_eq h, ok_bind, readField_of_within (body_within h.bound _)]
  rfl

/-! ### The layout of the quote's own version -/

/-- Where a quote of this version has its report body. -/
def ownBody (version : Nat) : Nat :=
  if version = 5 then sgxQuote5.offsetOf .body else sgxQuote4Header.size

/-- Where it has the length of its signature: behind the body. -/
def ownSignatureLen (version : Nat) : Span := ⟨ownBody version + sgxReportBody.size, 4⟩

/-- A complete SGX quote, by the layout of its own version. -/
structure WellFormed (quote : Bytes) : Prop where
  header : (headerOf quote).IsSgx
  bound : ownBody (headerOf quote).version + sgxReportBody.size + 4 ≤ quote.length
  /-- Version 5 says what the body is: an enclave's report, by its type, and as long as one. -/
  body : (headerOf quote).version = 5 → leNat ((sgxQuote5.span 0 .type_).read quote) = 1 ∧
    leNat ((sgxQuote5.span 0 .size).read quote) = sgxReportBody.size
  length : quote.length = ownBody (headerOf quote).version + sgxReportBody.size + 4 +
    leNat ((ownSignatureLen (headerOf quote).version).read quote)

/-- Up to version 4 the parser takes what is well formed, and nothing else. -/
theorem accepted_iff_wellFormed {quote : Bytes} (hv : (headerOf quote).version ≠ 5) :
    Accepted quote ↔ WellFormed quote := by
  have hbody : ownBody (headerOf quote).version = sgxQuote4Header.size := if_neg hv
  have hsig : ownSignatureLen (headerOf quote).version = sgxQuote3.span 0 .signatureDataLen := by
    rw [ownSignatureLen, hbody]
    rfl
  constructor
  · intro h
    refine ⟨h.header, ?_, fun h5 => absurd h5 hv, ?_⟩
    · rw [hbody]
      exact h.bound
    · rw [hsig, hbody]
      exact h.length
  · intro h
    have hbound := h.bound
    have hlength := h.length
    rw [hbody] at hbound hlength
    rw [hsig] at hlength
    exact ⟨h.header, hbound, hlength⟩

/-- `sgx_quote3_t` has the length of the signature where version 5 has the second half of the report data. A
padded digest there makes it zero, and the quote too long. -/
theorem Accepted.not_padded {quote hash : Bytes} (h : Accepted quote) (hhash : hash.length = 32) :
    (sgxFormat (ownBody 5)).reportData.read quote ≠ hash ++ List.replicate 32 0 := by
  have hreport : (sgxFormat (ownBody 5)).reportData = ⟨374, 64⟩ := rfl
  have hsig : sgxQuote3.span 0 .signatureDataLen = ⟨432, 4⟩ := rfl
  rw [hreport]
  intro hread
  have hlong : 438 ≤ quote.length := by
    have hsize := congrArg List.length hread
    simp only [Span.read, List.length_take, List.length_drop, List.length_append, hhash,
      List.length_replicate] at hsize
    omega
  have hzero : Span.read ⟨432, 4⟩ quote = List.replicate 4 0 := by
    calc Span.read ⟨432, 4⟩ quote = ((Span.read ⟨374, 64⟩ quote).drop 58).take 4 := by
          simp [Span.read, List.drop_take, List.drop_drop, List.take_take]
      _ = List.replicate 4 0 := by
          rw [hread, List.drop_append, List.drop_of_length_le (by omega), hhash]
          rfl
  have hlength := h.length
  rw [hsig, hzero] at hlength
  exact absurd (hlength.trans (rfl : _ = 436)) (by omega)

/-- The quote is read where its version puts things. -/
structure ReadsOwnLayout (quote : Bytes) : Prop where
  /-- The body that claims and report data are taken from. -/
  body : ∃ q, asQuote ⟨quote⟩ = .ok q ∧ reportBody q = ownBody (headerOf quote).version
  claims : getClaims ⟨quote⟩ = .ok ((sgxFormat (ownBody (headerOf quote).version)).claims quote)
  reportData : reportData ⟨quote⟩ =
    .ok ((sgxFormat (ownBody (headerOf quote).version)).reportData.read quote)
  /-- The length that is compared with the length of the whole. -/
  signatureLen : sgxQuote3.span 0 .signatureDataLen = ownSignatureLen (headerOf quote).version
  length : quote.length = ownBody (headerOf quote).version + sgxReportBody.size + 4 +
    leNat ((ownSignatureLen (headerOf quote).version).read quote)

/-- A version 5 quote as the headers have it: enclave type, size of the body, a body whose
`mr_enclave` is all `0xaa`, no signature. Its report data says 6 where a version 3 quote
has the length of its signature. -/
def quote5Sample : Bytes :=
  leBytes 2 5 ++ leBytes 2 2 ++ leBytes 4 0 ++ List.replicate 40 0 ++ leBytes 2 1 ++ leBytes 4 384 ++
    List.replicate 64 0 ++ List.replicate 32 0xaa ++ List.replicate 282 0 ++ [6] ++
    List.replicate 5 0 ++ leBytes 4 0

/-- **An accepted quote is read by its own layout exactly if its version is not 5.** -/
theorem readsOwnLayout_iff {quote : Bytes} {e : SgxDcapEvidence}
    (h : newFromUnchecked quote = .ok e) :
    ReadsOwnLayout quote ↔ (headerOf quote).version ≠ 5 := by
  obtain ⟨-, ha⟩ := newFromUnchecked_eq_ok.mp h
  constructor
  · intro hown hv
    obtain ⟨q, hq, hbody⟩ := hown.body
    rw [asQuote_eq ha, Except.ok.injEq] at hq
    subst hq
    rw [hv] at hbody
    exact absurd hbody (by decide)
  · intro hv
    have hbody : ownBody (headerOf quote).version = reportBody 0 := if_neg hv
    have hsig : ownSignatureLen (headerOf quote).version = sgxQuote3.span 0 .signatureDataLen := by
      rw [ownSignatureLen, hbody]
      rfl
    exact {
      body := ⟨0, asQuote_eq ha, hbody.symm⟩
      claims := by rw [hbody, getClaims_eq ha]
      reportData := by rw [hbody, reportData_eq ha]
      signatureLen := hsig.symm
      length := by rw [hsig, hbody]; exact ha.length }

theorem quote5Sample_as_version4 :
    ReadsOwnLayout (quote5Sample.set 0 4) ↔ (headerOf (quote5Sample.set 0 4)).version ≠ 5 :=
  readsOwnLayout_iff (e := ⟨quote5Sample.set 0 4⟩) (by decide +kernel)

/-- Accepted, and its `mr_enclave` comes out shifted by six bytes. -/
theorem quote5Sample_misread :
    newFromUnchecked quote5Sample = .ok ⟨quote5Sample⟩ ∧ ¬ ReadsOwnLayout quote5Sample ∧
    (getClaims ⟨quote5Sample⟩).toOption.bind (·.get builtInClaimSgxMrEnclave) =
      some (List.replicate 6 0 ++ List.replicate 26 0xaa) ∧
    (sgxReportBody.span (ownBody 5) .mrEnclave).read quote5Sample = List.replicate 32 0xaa := by
  refine ⟨by decide +kernel, fun h => ?_, by decide +kernel, by decide +kernel⟩
  have hv : (headerOf quote5Sample).version = 5 := by decide +kernel
  have := h.signatureLen
  rw [hv] at this
  exact absurd this (by decide)

end SgxDcapEvidence

end RatsRs.Tee
