import RatsRs.Tee.VerifierProofs

/-! Report data at both ends.

An attester puts report data into a quote, a verifier compares what it finds in the quote with the
report data it expects; both pad to the 64 bytes of the field. The attesters check the length
first, the verifiers do not, and the copy into the 64 bytes panics on more
(`report_data_agreed_iff`). -/
namespace RatsRs.Tee
open Lib

/-! ### The attesters -/

/-- The refusal of both attesters. -/
def tooLong {α : Type} (reportData : Bytes) : Res α :=
  Res.fail .invalidParameter s!"report data length too long: {reportData.length} > 64"

/-- The check both begin with. -/
def checkLength (reportData : Bytes) : Res Unit :=
  if 64 < reportData.length then tooLong reportData else .ok ()

/-- `tdx_attest_rs`: the answer to a request for a quote over report data, for no key in particular
and without flags, is a code, 0 for success, and a quote if there is one. -/
structure TdxAttest where
  tdxAttGetQuote : Bytes → Nat × Option Bytes

def TdxAttester.getEvidence (T : TdxAttest) (reportData : Bytes) : Res TdxEvidence := do
  checkLength reportData
  let tdxReportData ← extend reportData
  let (result, quote) := T.tdxAttGetQuote tdxReportData
  Res.ensure (result = 0) .tdxAttesterGenerateQuoteFailed
    s!"tdx_attest_rs::tdx_att_get_quote failed: 0x{hex 2 result}"
  match quote with
  | none => Res.crash .panic
  | some quote => TdxEvidence.newFromChecked quote

/-- `occlum_dcap`: `generate_quote` fills the buffer it is given. -/
structure OcclumDcap where
  Handler : Type
  new : Except String Handler
  getQuoteSize : Handler → Except String Nat
  generateQuote : Handler → (quote : Bytes) → (reportData : Bytes) → Except String Bytes

/-- With the feature `attester-sgx-dcap-occlum`; without it nothing is compiled. -/
def SgxDcapAttester.getEvidence (O : OcclumDcap) (reportData : Bytes) : Res SgxDcapEvidence := do
  checkLength reportData
  let handler ← Res.ofForeign O.new
  let quoteSize ← Res.ofForeign (O.getQuoteSize handler)
  let sgxReportData ← extend reportData
  let occlumQuote ← ((Res.ofForeign (O.generateQuote handler (List.replicate quoteSize 0) sgxReportData)).kind
    .sgxDcapAttesterGenerateQuoteFailed).context "failed at generate_quote()"
  SgxDcapEvidence.newFromChecked occlumQuote

/-- The variables that are set and the paths that exist. -/
structure Environment where
  vars : List String
  paths : List String

/-- `TeeType::detect_env` with the features of both attesters; of SGX only Occlum is supported. -/
def TeeType.detectEnv (env : Environment) : Option TeeType :=
  if "OCCLUM" ∈ env.vars then some .sgxDcap
  else if "/dev/tdx-attest" ∈ env.paths ∨ "/dev/tdx-guest" ∈ env.paths ∨ "/dev/tdx_guest" ∈ env.paths then
    some .tdx
  else none

/-- `AutoAttester::get_evidence`. -/
def AutoAttester.getEvidence (env : Environment) (O : OcclumDcap) (T : TdxAttest) (reportData : Bytes) :
    Res AutoEvidence :=
  match TeeType.detectEnv env with
  | some .sgxDcap => (SgxDcapAttester.getEvidence O reportData).map .sgxDcap
  | some .tdx => (TdxAttester.getEvidence T reportData).map .tdx
  | none => Res.fail .unsupportedTeeType
      "No TEE was detected on this environment, or the corresponding features (like `attester-*`) may be missing."

/-! ### What is padded and where it is -/

/-- Report data as they stand in a quote. -/
def padded (reportData : Bytes) : Bytes := reportData ++ List.replicate (64 - reportData.length) 0

/-- Where the quote of an SGX evidence has its report data by its own version. -/
def SgxDcapEvidence.ownReportData (quote : Bytes) : Bytes :=
  (sgxFormat (ownBody (headerOf quote).version)).reportData.read quote

/-- Where it is read, whatever the version. -/
def SgxDcapEvidence.readReportData (quote : Bytes) : Bytes :=
  (sgxFormat (reportBody 0)).reportData.read quote

/-- The platform quotes what it is given: a TDX quote with these report data. -/
def TdxAttest.QuotesReportData (T : TdxAttest) (reportData : Bytes) : Prop :=
  ∀ quote, T.tdxAttGetQuote reportData = (0, some quote) →
    ∃ l : TdxEvidence.Layout, l.Matches quote ∧ l.format.reportData.read quote = reportData

/-- A `sgx_quote3_t` with these report data. -/
def OcclumDcap.QuotesReportData (O : OcclumDcap) (reportData : Bytes) : Prop :=
  ∀ handler buffer quote, O.generateQuote handler buffer reportData = .ok quote →
    SgxDcapEvidence.Accepted quote ∧ (headerOf quote).version = 3 ∧
      SgxDcapEvidence.ownReportData quote = reportData

/-- A verification agrees with the attesters about report data, when the quote has `field`. -/
structure AgreesWithAttesters (result : Res Unit) (field reportData : Bytes) : Prop where
  safe : result.Safe
  within : reportData.length ≤ 64 → (result = .ok () ↔ field = padded reportData)
  beyond : 64 < reportData.length → ∃ e, result = .error (.error e)

/-! ### The verifiers -/

section Verifiers
variable {D : Dcap} {reportData : Bytes}

theorem extend_of_lt (h : 64 < reportData.length) : extend reportData = .error (.crash .panic) :=
  if_neg (Nat.not_le.mpr h)

/-- What both verifiers come to once the library has passed the quote: a comparison with the field they
read. It agrees with the attesters up to the length of the field, as far as that is the field meant. -/
theorem compare_agrees_iff {read field : Bytes} {mismatch : ErrorKind} {msg : String} :
    AgreesWithAttesters (extend reportData >>= fun extended => Res.ensure (read = extended) mismatch msg)
        field reportData ↔
      reportData.length ≤ 64 ∧ (read = padded reportData ↔ field = padded reportData) := by
  by_cases h : reportData.length ≤ 64
  · rw [extend_of_le h, ok_bind]
    constructor
    · intro hagrees
      refine ⟨h, ?_⟩
      rw [← hagrees.within h, Res.ensure_eq_ok]
      rfl
    · intro hfield
      refine ⟨Res.safe_ensure, fun _ => ?_, fun hlong => absurd h (Nat.not_le.mpr hlong)⟩
      rw [Res.ensure_eq_ok, ← hfield.2]
      rfl
  · rw [extend_of_lt (Nat.not_le.mp h), error_bind]
    constructor
    · intro hagrees
      exact absurd rfl (hagrees.safe .panic)
    · intro hshort
      exact absurd hshort.1 h

theorem SgxDcapVerifier.verifyEvidence_of_passes {quote : Bytes} (ha : SgxDcapEvidence.Accepted quote)
    (hpasses : D.Passes quote) :
    verifyEvidence D ⟨quote⟩ reportData = extend reportData >>= fun extended =>
      Res.ensure (SgxDcapEvidence.readReportData quote = extended) .sgxDcapVerifierReportDataMismatch
        "report data mismatch" := by
  unfold verifyEvidence
  have hquote : D.ecdsaQuoteVerification kinds quote = .ok () :=
    (D.ecdsaQuoteVerification_eq_ok).mpr hpasses
  simp only [SgxDcapEvidence.asQuoteData, Res.context_eq_ok.mpr hquote, ok_bind,
    SgxDcapEvidence.reportData_eq ha, Res.ofCrash]
  rfl

theorem TdxVerifier.verifyEvidence_of_passes {quote : Bytes} {l : TdxEvidence.Layout} (hl : l.Matches quote)
    (hpasses : D.Passes quote) :
    verifyEvidence D ⟨quote⟩ reportData = extend reportData >>= fun extended =>
      Res.ensure (l.format.reportData.read quote = extended) .tdxVerifierReportDataMismatch
        "report data mismatch" := by
  unfold verifyEvidence
  have hquote : D.ecdsaQuoteVerification kinds quote = .ok () :=
    (D.ecdsaQuoteVerification_eq_ok).mpr hpasses
  simp only [TdxEvidence.asQuoteData, Res.context_eq_ok.mpr hquote, ok_bind, hl.reportDataField_eq]

/-- Up to version 4 the field is read where it is. -/
theorem SgxDcapEvidence.readReportData_eq {quote : Bytes} (h : (headerOf quote).version ≠ 5) :
    readReportData quote = ownReportData quote := by
  rw [readReportData, ownReportData, ownBody, if_neg h]
  rfl

theorem SgxDcapVerifier.agrees_iff {quote : Bytes} (ha : SgxDcapEvidence.Accepted quote)
    (hpasses : D.Passes quote) :
    AgreesWithAttesters (verifyEvidence D ⟨quote⟩ reportData) (SgxDcapEvidence.ownReportData quote)
        reportData ↔
      reportData.length ≤ 64 ∧ ((headerOf quote).version = 5 →
        (SgxDcapEvidence.readReportData quote = padded reportData ↔
          SgxDcapEvidence.ownReportData quote = padded reportData)) := by
  rw [verifyEvidence_of_passes ha hpasses, compare_agrees_iff]
  refine and_congr_right fun _ => ?_
  by_cases hv : (headerOf quote).version = 5
  · simp [hv]
  · simp [hv, SgxDcapEvidence.readReportData_eq hv]

theorem TdxVerifier.agrees_iff {quote : Bytes} {l : TdxEvidence.Layout} (hl : l.Matches quote)
    (hpasses : D.Passes quote) :
    AgreesWithAttesters (verifyEvidence D ⟨quote⟩ reportData) (l.format.reportData.read quote) reportData ↔
      reportData.length ≤ 64 := by
  rw [verifyEvidence_of_passes hl hpasses, compare_agrees_iff]
  simp

end Verifiers

/-! ### From attester to verifier -/

section Honest
variable {reportData : Bytes}

theorem checkLength_of_lt (h : 64 < reportData.length) : checkLength reportData = tooLong reportData :=
  if_pos h

theorem checkLength_eq_ok {u : Unit} : checkLength reportData = .ok u ↔ reportData.length ≤ 64 := by
  unfold checkLength tooLong Res.fail
  split <;> simp <;> omega

/-- An attester that quotes what it is given quotes padded report data. -/
theorem TdxAttester.getEvidence_eq_ok {T : TdxAttest} {e : TdxEvidence}
    (h : getEvidence T reportData = .ok e) :
    reportData.length ≤ 64 ∧ T.tdxAttGetQuote (padded reportData) = (0, some e.data) := by
  obtain ⟨u, hlength, h⟩ := bind_eq_ok.mp h
  have hle := checkLength_eq_ok.mp hlength
  rw [extend_of_le hle, ok_bind] at h
  cases hquote : T.tdxAttGetQuote (padded reportData) with
  | mk result quote =>
    obtain ⟨u, hresult, h⟩ := bind_eq_ok.mp h
    have hzero : result = 0 := by
      have hfst := Res.ensure_eq_ok.mp hresult
      exact (congrArg Prod.fst hquote).symm.trans hfst
    refine ⟨hle, ?_⟩
    have hsnd : (T.tdxAttGetQuote (reportData ++ List.replicate (64 - reportData.length) 0)).2 = quote :=
      congrArg Prod.snd hquote
    rw [hsnd] at h
    cases quote with
    | none => cases h
    | some quote =>
      cases h
      rw [hzero]

theorem SgxDcapAttester.getEvidence_eq_ok {O : OcclumDcap} {e : SgxDcapEvidence}
    (h : getEvidence O reportData = .ok e) :
    reportData.length ≤ 64 ∧
      ∃ handler buffer, O.generateQuote handler buffer (padded reportData) = .ok e.data := by
  obtain ⟨u, hlength, h⟩ := bind_eq_ok.mp h
  have hle := checkLength_eq_ok.mp hlength
  obtain ⟨handler, -, h⟩ := bind_eq_ok.mp h
  obtain ⟨quoteSize, -, h⟩ := bind_eq_ok.mp h
  rw [extend_of_le hle, ok_bind] at h
  obtain ⟨quote, hquote, h⟩ := bind_eq_ok.mp h
  cases h
  rw [Res.context_eq_ok, Res.kind_eq_ok, Res.ofForeign_eq_ok] at hquote
  exact ⟨hle, handler, _, hquote⟩

end Honest

/-- **Main theorem.** With a quote that passes the library, a verifier agrees with the attesters about
report data exactly if the data have at most 64 bytes, and for an SGX quote of version 5, which is
not read where its report data are, if that makes no difference. The attesters refuse longer data, and
what a platform quotes for them is evidence that verifies. -/
theorem report_data_agreed_iff (D : Dcap) (reportData : Bytes) :
    (∀ quote, SgxDcapEvidence.Accepted quote → D.Passes quote →
      (AgreesWithAttesters (SgxDcapVerifier.verifyEvidence D ⟨quote⟩ reportData)
          (SgxDcapEvidence.ownReportData quote) reportData ↔
        reportData.length ≤ 64 ∧ ((headerOf quote).version = 5 →
          (SgxDcapEvidence.readReportData quote = padded reportData ↔
            SgxDcapEvidence.ownReportData quote = padded reportData)))) ∧
    (∀ quote (l : TdxEvidence.Layout), l.Matches quote → D.Passes quote →
      (AgreesWithAttesters (TdxVerifier.verifyEvidence D ⟨quote⟩ reportData)
          (l.format.reportData.read quote) reportData ↔
        reportData.length ≤ 64)) ∧
    (64 < reportData.length →
      (∀ O, SgxDcapAttester.getEvidence O reportData = tooLong reportData) ∧
      ∀ T, TdxAttester.getEvidence T reportData = tooLong reportData) ∧
    (∀ O e, O.QuotesReportData (padded reportData) → SgxDcapAttester.getEvidence O reportData = .ok e →
      D.Passes e.data → SgxDcapVerifier.verifyEvidence D e reportData = .ok ()) ∧
    ∀ T e, T.QuotesReportData (padded reportData) → TdxAttester.getEvidence T reportData = .ok e →
      D.Passes e.data → TdxVerifier.verifyEvidence D e reportData = .ok () := by
  refine ⟨fun _ => SgxDcapVerifier.agrees_iff, fun _ _ => TdxVerifier.agrees_iff, ?_, ?_, ?_⟩
  · intro hlong
    constructor
    · intro O
      rw [SgxDcapAttester.getEvidence, checkLength_of_lt hlong]
      rfl
    · intro T
      rw [TdxAttester.getEvidence, checkLength_of_lt hlong]
      rfl
  · intro O e hquotes he hpasses
    obtain ⟨hle, handler, buffer, hquote⟩ := SgxDcapAttester.getEvidence_eq_ok he
    obtain ⟨ha, hv, hfield⟩ := hquotes handler buffer e.data hquote
    have hagrees : AgreesWithAttesters (SgxDcapVerifier.verifyEvidence D ⟨e.data⟩ reportData)
        (SgxDcapEvidence.ownReportData e.data) reportData :=
      (SgxDcapVerifier.agrees_iff ha hpasses).mpr
        ⟨hle, fun hfive => absurd (hv.symm.trans hfive) (by decide)⟩
    exact (hagrees.within hle).mpr hfield
  · intro T e hquotes he hpasses
    obtain ⟨hle, hquote⟩ := TdxAttester.getEvidence_eq_ok he
    obtain ⟨l, hl, hfield⟩ := hquotes e.data hquote
    have hagrees : AgreesWithAttesters (TdxVerifier.verifyEvidence D ⟨e.data⟩ reportData)
        (l.format.reportData.read e.data) reportData :=
      (TdxVerifier.agrees_iff hl hpasses).mpr hle
    exact (hagrees.within hle).mpr hfield

/-! ### A platform -/

/-- A library that passes every quote. -/
def Dcap.passing : Dcap where
  Collateral := Unit
  supplementalSize := 536
  currentTime := 0
  teeGetSupplementalDataVersionAndSize _ := .ok (3, 536)
  teeQvGetCollateral _ := .ok ()
  teeVerifyQuote _ _ _ _ := .ok (0, .ok)

theorem Dcap.passing_passes (quote : Bytes) : Dcap.passing.Passes quote :=
  ⟨3, 536, rfl, 0, .ok, rfl, trivial⟩

/-- A version 3 quote without a signature, with the report data 1, 2, 3. -/
def quote3Sample : Bytes :=
  leBytes 2 3 ++ leBytes 2 2 ++ List.replicate 364 0 ++ padded [1, 2, 3] ++ leBytes 4 0

def OcclumDcap.sample : OcclumDcap where
  Handler := Unit
  new := .ok ()
  getQuoteSize _ := .ok quote3Sample.length
  generateQuote _ _ _ := .ok quote3Sample

theorem quote3Sample_accepted : SgxDcapEvidence.Accepted quote3Sample where
  header := by decide +kernel
  bound := by decide +kernel
  length := by decide +kernel

/-- The quote verifies for what it was asked for. -/
theorem sample_verifies :
    SgxDcapVerifier.verifyEvidence .passing ⟨quote3Sample⟩ [1, 2, 3] = .ok () := by
  have hquotes : OcclumDcap.sample.QuotesReportData (padded [1, 2, 3]) := by
    intro handler buffer quote h
    obtain rfl := Except.ok.inj h
    exact ⟨quote3Sample_accepted, by decide +kernel, by decide +kernel⟩
  obtain ⟨-, -, -, hverifies, -⟩ := report_data_agreed_iff .passing [1, 2, 3]
  exact hverifies .sample ⟨quote3Sample⟩ hquotes rfl (Dcap.passing_passes _)

/-- For one byte more than the field has, the attester returns an error and the verifier panics. -/
theorem long_report_data_panics :
    SgxDcapAttester.getEvidence .sample (List.replicate 65 0) = tooLong (List.replicate 65 0) ∧
      SgxDcapEvidence.Accepted quote3Sample ∧ Dcap.passing.Passes quote3Sample ∧
      SgxDcapVerifier.verifyEvidence .passing ⟨quote3Sample⟩ (List.replicate 65 0) = Res.crash .panic ∧
      ¬ AgreesWithAttesters (SgxDcapVerifier.verifyEvidence .passing ⟨quote3Sample⟩ (List.replicate 65 0))
        (SgxDcapEvidence.ownReportData quote3Sample) (List.replicate 65 0) := by
  have hpanic : SgxDcapVerifier.verifyEvidence .passing ⟨quote3Sample⟩ (List.replicate 65 0) =
      Res.crash .panic := by
    rw [SgxDcapVerifier.verifyEvidence_of_passes quote3Sample_accepted (Dcap.passing_passes _),
      extend_of_lt (by decide)]
    rfl
  refine ⟨rfl, quote3Sample_accepted, Dcap.passing_passes _, hpanic, ?_⟩
  intro hagrees
  exact hagrees.safe .panic hpanic

end RatsRs.Tee
