import RatsRs.Tee.Basic

/-! SGX DCAP evidence.

`newFromUnchecked` takes a quote whose header says version 3, or version 4 or 5 for an
SGX enclave, and checks the length of a `sgx_quote3_t` and its signature; everything
read from a quote afterwards is read as that structure. -/
namespace RatsRs.Tee
open Lib

/-- Represents an SGX DCAP quote of version 3. -/
structure SgxDcapEvidence where
  data : Bytes
  deriving DecidableEq, Repr

/-- The versions and types of quote the parser takes. -/
def Header.IsSgx (h : Header) : Prop :=
  (h.version = 3 ∧ (h.attKeyType = 2 ∨ h.attKeyType = 3)) ∨
    ((h.version = 4 ∨ h.version = 5) ∧ h.teeType = 0)

instance (h : Header) : Decidable h.IsSgx := inferInstanceAs (Decidable (_ ∨ _))

namespace SgxDcapEvidence

def newFromChecked (checkedQuote : Bytes) : Res SgxDcapEvidence := .ok ⟨checkedQuote⟩

def newFromUnchecked (uncheckedQuote : Bytes) : Res SgxDcapEvidence := do
  Res.ensure (sgxQuote4Header.size ≤ uncheckedQuote.length) .sgxDcapMulformedQuote
    (tooShort uncheckedQuote)
  let header ← Res.ofCrash (readHeader uncheckedQuote)
  if header.IsSgx then do
    checkQuote sgxQuote3 .sgxDcapMulformedQuote "SGX DCAP quote version 3" uncheckedQuote
    pure ⟨uncheckedQuote⟩
  else
    Res.fail .sgxDcapUnsupportedEvidenceType header.unsupported

/-- `as_quote`: the data as a `sgx_quote3_t`. -/
def asQuote (e : SgxDcapEvidence) : Except Crash Nat := deref e.data ⟨0, sgxQuote3.size⟩

def asQuoteData (e : SgxDcapEvidence) : Bytes := e.data

/-- `quote.report_body`. -/
def reportBody (quote : Nat) : Nat := quote + sgxQuote3.offsetOf .reportBody

end SgxDcapEvidence

/-! ### Claims -/

/-- The claims of an SGX quote and the fields they show, in the order of insertion. -/
def sgxClaimFields : List (String × ReportField) :=
  [(builtInClaimSgxCpuSvn, .cpuSvn), (builtInClaimSgxIsvExtProdId, .isvExtProdId),
    (builtInClaimSgxAttributes, .attributes), (builtInClaimSgxMrEnclave, .mrEnclave),
    (builtInClaimSgxMrSigner, .mrSigner), (builtInClaimSgxConfigId, .configId),
    (builtInClaimSgxIsvProdId, .isvProdId), (builtInClaimSgxIsvSvn, .isvSvn),
    (builtInClaimSgxConfigSvn, .configSvn), (builtInClaimSgxIsvFamilyId, .isvFamilyId)]

/-- `gen_claims_from_quote`. -/
def sgxGenClaimsFromQuote (data : Bytes) (quote : Nat) : Res Claims := Res.ofCrash do
  let signatureDataLen ← readUint data (sgxQuote3.span quote .signatureDataLen)
  let common ← readField data ⟨quote, sgxQuote3.size + signatureDataLen⟩
  let claims := IndexMap.empty.insert builtInClaimCommonQuote common
  let claims := claims.insert builtInClaimCommonQuoteType (utf8 "sgx_dcap")
  insertFields data (sgxClaimFields.map fun e =>
    (e.1, sgxReportBody.span (SgxDcapEvidence.reportBody quote) e.2)) claims

namespace SgxDcapEvidence

def getClaims (e : SgxDcapEvidence) : Res Claims := do
  let quote ← Res.ofCrash e.asQuote
  sgxGenClaimsFromQuote e.data quote

/-- `quote.report_body.report_data.d`. -/
def reportData (e : SgxDcapEvidence) : Except Crash Bytes := do
  let quote ← e.asQuote
  readField e.data (sgxReportBody.span (reportBody quote) .reportData)

def getDiceCborTag (_ : SgxDcapEvidence) : Nat := ocbrTagEvidenceIntelTeeQuote

def getDiceRawEvidence (e : SgxDcapEvidence) : Bytes := e.data

def getTeeType (_ : SgxDcapEvidence) : TeeType := .sgxDcap

def createEvidenceFromDice : Nat → Bytes → Option (Res SgxDcapEvidence) :=
  createFromDice newFromUnchecked .sgxDcapUnsupportedEvidenceType

end SgxDcapEvidence

end RatsRs.Tee
