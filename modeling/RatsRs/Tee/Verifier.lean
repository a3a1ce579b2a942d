import RatsRs.Tee.SgxProofs
import RatsRs.Tee.TdxProofs

/-! Verifying evidence of either type.

The quote verification library is a parameter, free to answer anything. Both verifiers
ask it about the quote's bytes, take the result unless it is a terminal one, and
compare the report data of the quote with the expected report data, zero-padded.
`AutoEvidence` is evidence of one of the two types: SGX is tried first. -/
namespace RatsRs.Tee
open Lib

/-! ### The quote verification library -/

/-- `sgx_ql_qv_result_t`: the results the verifiers name, and all others by their code. -/
inductive SgxQlQvResult where
  | ok
  | configNeeded
  | outOfDate
  | outOfDateConfigNeeded
  | swHardeningNeeded
  | configAndSwHardeningNeeded
  | other (code : Nat)
  deriving DecidableEq, Repr

def SgxQlQvResult.NonTerminal : SgxQlQvResult → Prop
  | .other _ => False
  | _ => True

/-- `intel_tee_quote_verification_rs`, with the clock it is given the time of. A failed
call is the code of its `quote3_error_t`. -/
structure Dcap where
  Collateral : Type
  /-- `mem::size_of::<sgx_ql_qv_supplemental_t>()`. -/
  supplementalSize : Nat
  currentTime : Nat
  teeGetSupplementalDataVersionAndSize : Bytes → Except Nat (Nat × Nat)
  teeQvGetCollateral : Bytes → Except Nat Collateral
  /-- Quote, collateral, time, size of the supplemental data asked for. -/
  teeVerifyQuote : Bytes → Option Collateral → Nat → Option Nat → Except Nat (Nat × SgxQlQvResult)

namespace Dcap
variable (D : Dcap)

/-- The error kinds a verifier reports. -/
structure Kinds where
  getSupplementalDataFailed : ErrorKind
  verifyQuoteFailed : ErrorKind

/-- `supp_data_desc`, handed over only when the library agrees about its size. -/
def supplementalData (suppSize : Nat) : Option Nat :=
  let dataSize := if suppSize = D.supplementalSize then suppSize else 0
  if dataSize = 0 then none else some dataSize

/-- The verification of a quote, and what it ended in. -/
def verifyQuote (quote : Bytes) (suppSize : Nat) : Except Nat (Nat × SgxQlQvResult) :=
  let collateral := (D.teeQvGetCollateral quote).toOption
  D.teeVerifyQuote quote collateral D.currentTime (D.supplementalData suppSize)

def ecdsaQuoteVerification (kinds : Kinds) (quote : Bytes) : Res Unit :=
  match D.teeGetSupplementalDataVersionAndSize quote with
  | .error e => Res.fail kinds.getSupplementalDataFailed
      s!"tee_get_quote_supplemental_data_size failed: 0x{hex 2 e}"
  | .ok (_, suppSize) =>
    match D.verifyQuote quote suppSize with
    | .error e => Res.fail kinds.verifyQuoteFailed s!"tee_verify_quote failed: 0x{hex 2 e}"
    | .ok (_, result) =>
      match result with
      | .ok | .configNeeded | .outOfDate | .outOfDateConfigNeeded | .swHardeningNeeded
      | .configAndSwHardeningNeeded => .ok ()
      | .other code => Res.fail kinds.verifyQuoteFailed
          s!"Verification completed with Terminal result: {hex 0 code}"

/-- The library took these very bytes, with a result that is not terminal. -/
def Passes (quote : Bytes) : Prop :=
  ∃ version suppSize, D.teeGetSupplementalDataVersionAndSize quote = .ok (version, suppSize) ∧
    ∃ status result, D.verifyQuote quote suppSize = .ok (status, result) ∧ result.NonTerminal

theorem ecdsaQuoteVerification_eq_ok {kinds : Kinds} {quote : Bytes} {u : Unit} :
    D.ecdsaQuoteVerification kinds quote = .ok u ↔ D.Passes quote := by
  unfold ecdsaQuoteVerification Passes
  rcases hs : D.teeGetSupplementalDataVersionAndSize quote with e | ⟨version, suppSize⟩
  · simp [Res.fail]
  · rcases hv : D.verifyQuote quote suppSize with e | ⟨status, result⟩
    · simp [hv, Res.fail]
    · cases result <;> simp [hv, Res.fail, SgxQlQvResult.NonTerminal]

theorem ecdsaQuoteVerification_safe (kinds : Kinds) (quote : Bytes) :
    (D.ecdsaQuoteVerification kinds quote).Safe := by
  unfold ecdsaQuoteVerification
  split
  · exact Res.safe_fail
  · split
    · exact Res.safe_fail
    · split
      · exact Res.safe_ok
      · exact Res.safe_ok
      · exact Res.safe_ok
      · exact Res.safe_ok
      · exact Res.safe_ok
      · exact Res.safe_ok
      · exact Res.safe_fail

end Dcap

/-! ### The two verifiers -/

/-- `extended.d[..report_data.len()].clone_from_slice(report_data)` on 64 zero bytes. -/
def extend (reportData : Bytes) : Res Bytes :=
  if reportData.length ≤ 64 then .ok (reportData ++ List.replicate (64 - reportData.length) 0)
  else Res.crash .panic

theorem extend_of_le {reportData : Bytes} (h : reportData.length ≤ 64) :
    extend reportData = .ok (reportData ++ List.replicate (64 - reportData.length) 0) := if_pos h

section Verifiers
variable (D : Dcap)

def SgxDcapVerifier.kinds : Dcap.Kinds :=
  ⟨.sgxDcapVerifierGetSupplementalDataFailed, .sgxDcapVerifierVerifyQuoteFailed⟩

/-- `SgxDcapVerifier::verify_evidence`. -/
def SgxDcapVerifier.verifyEvidence (evidence : SgxDcapEvidence) (reportData : Bytes) : Res Unit := do
  (D.ecdsaQuoteVerification kinds evidence.asQuoteData).context
    "Evidence's identity verification error."
  let extended ← extend reportData
  let reportDataFromQuote ← Res.ofCrash evidence.reportData
  Res.ensure (reportDataFromQuote = extended) .sgxDcapVerifierReportDataMismatch
    "report data mismatch"

def TdxVerifier.kinds : Dcap.Kinds :=
  ⟨.tdxVerifierGetSupplementalDataFailed, .tdxVerifierVerifyQuoteFailed⟩

/-- `TdxVerifier::verify_evidence`. -/
def TdxVerifier.verifyEvidence (evidence : TdxEvidence) (reportData : Bytes) : Res Unit := do
  (D.ecdsaQuoteVerification kinds evidence.asQuoteData).context
    "Evidence's identity verification error."
  let extended ← extend reportData
  let reportDataFromQuote ← evidence.getReportDataField
  Res.ensure (reportDataFromQuote = extended) .tdxVerifierReportDataMismatch "report data mismatch"

end Verifiers

/-! ### Evidence of either type -/

/-- A boxed `GenericEvidence`. -/
inductive AutoEvidence where
  | sgxDcap (evidence : SgxDcapEvidence)
  | tdx (evidence : TdxEvidence)
  deriving DecidableEq, Repr

/-- `Some(Ok(res))` or go on; a crash is not caught. -/
def attempt {α : Type} : Option (Res α) → Except Crash (Option α)
  | some (.ok a) => .ok (some a)
  | some (.error (.crash c)) => .error c
  | _ => .ok none

namespace AutoEvidence

def unrecognized (cborTag : Nat) (rawEvidence : Bytes) : String :=
  s!"Unrecognized evidence type, cbor_tag: 0x{hex 0 cborTag}, raw_evidence: {hexList rawEvidence}"

def createEvidenceFromDice (cborTag : Nat) (rawEvidence : Bytes) : Res AutoEvidence := do
  let sgx ← Res.ofCrash (attempt (SgxDcapEvidence.createEvidenceFromDice cborTag rawEvidence))
  if let some res := sgx then
    return .sgxDcap res
  let tdx ← Res.ofCrash (attempt (TdxEvidence.createEvidenceFromDice cborTag rawEvidence))
  if let some res := tdx then
    return .tdx res
  Res.fail .unrecognizedEvidenceType (unrecognized cborTag rawEvidence)

def getDiceCborTag : AutoEvidence → Nat
  | sgxDcap e => e.getDiceCborTag
  | tdx e => e.getDiceCborTag

def getDiceRawEvidence : AutoEvidence → Bytes
  | sgxDcap e => e.getDiceRawEvidence
  | tdx e => e.getDiceRawEvidence

def getTeeType : AutoEvidence → TeeType
  | sgxDcap e => e.getTeeType
  | tdx e => e.getTeeType

def getClaims : AutoEvidence → Res Claims
  | sgxDcap e => e.getClaims
  | tdx e => e.getClaims

end AutoEvidence

/-- `AutoVerifier::verify_evidence`: by the type the evidence names, on the evidence
downcast to it. -/
def AutoVerifier.verifyEvidence (D : Dcap) (evidence : AutoEvidence) (reportData : Bytes) : Res Unit :=
  match evidence.getTeeType, evidence with
  | .sgxDcap, .sgxDcap ev => SgxDcapVerifier.verifyEvidence D ev reportData
  | .tdx, .tdx ev => TdxVerifier.verifyEvidence D ev reportData
  | _, _ => Res.crash .panic

end RatsRs.Tee
