import RatsRs.Tee.Basic

/-! TDX evidence.

A TDX quote has one of three layouts: version 4, and version 5 with a TDX 1.0 or a
TDX 1.5 report. `newFromUnchecked` checks the length of the layout it finds;
`asQuote` finds the layout again and hands out references into it; claims and report
data are read through those. The reads are the code's: past the end of the string
they end in a crash. -/
namespace RatsRs.Tee
open Lib

/-- Represents a TDX quote of version 4 or version 5. -/
structure TdxEvidence where
  data : Bytes
  deriving DecidableEq, Repr

/-- The references `as_quote` hands out. -/
inductive Quote where
  /-- quote4 TDX quote -/
  | quote4 (quote : Nat)
  /-- quote5 with TDX 1.0 -/
  | quote5Tdx10 (quote reportBody : Nat)
  /-- quote5 with TDX 1.5 -/
  | quote5Tdx15 (quote reportBody : Nat)
  deriving DecidableEq, Repr

namespace TdxEvidence

def newFromChecked (checkedQuote : Bytes) : Res TdxEvidence := .ok ⟨checkedQuote⟩

/-- The `u32` behind a body of `bodySize` bytes. -/
def signatureLen (quote bodySize : Nat) : Span := ⟨quote + sgxQuote5.offsetOf .body + bodySize, 4⟩

/-- The condition on a version 5 quote with a body of `bodySize` bytes: the size field
and the bound come first, so that the length is not read past the end. -/
def mismatch5 (bodySize : Nat) (uncheckedQuote : Bytes) (quote : Nat) : Except Crash Bool := do
  let size ← readUint uncheckedQuote (sgxQuote5.span quote .size)
  if bodySize ≠ size ∨ uncheckedQuote.length < sgxQuote5.offsetOf .body + bodySize + 4 then
    pure true
  else do
    let signatureDataLen ← readUint uncheckedQuote (signatureLen quote bodySize)
    pure (decide (uncheckedQuote.length ≠
      sgxQuote5.offsetOf .body + bodySize + 4 + signatureDataLen))

/-- The check of a version 5 quote whose body has `bodySize` bytes. -/
def checkBody5 (bodySize : Nat) (tdx : String) (uncheckedQuote : Bytes) (quote : Nat) : Res Unit := do
  let mismatch ← Res.ofCrash (mismatch5 bodySize uncheckedQuote quote)
  Res.ensure (mismatch = false) .tdxMulformedQuote
    s!"Invalid {tdx} quote version 5: quote length mismatch and probably got truncated"

/-- The message about a body that is of neither TDX version. -/
def unsupportedBody (teeReportType : Nat) : String := s!"unsupoorted quote body type {teeReportType}"

def checkQuote5 (uncheckedQuote : Bytes) : Res Unit := do
  Res.ensure (sgxQuote5.size ≤ uncheckedQuote.length) .tdxMulformedQuote
    s!"Invalid TDX quote version 5: quote length {uncheckedQuote.length} is too short"
  let quote ← Res.ofCrash (deref uncheckedQuote ⟨0, sgxQuote5.size⟩)
  let teeReportType ← Res.ofCrash (readUint uncheckedQuote (sgxQuote5.span quote .type_))
  if teeReportType = 2 then
    checkBody5 sgxReport2Body.size "TDX 1.0" uncheckedQuote quote
  else if teeReportType = 3 then
    checkBody5 sgxReport2BodyV15.size "TDX 1.5" uncheckedQuote quote
  else
    Res.fail .tdxUnsupportedEvidenceType (unsupportedBody teeReportType)

def newFromUnchecked (uncheckedQuote : Bytes) : Res TdxEvidence := do
  Res.ensure (sgxQuote4Header.size ≤ uncheckedQuote.length) .tdxMulformedQuote
    (tooShort uncheckedQuote)
  let header ← Res.ofCrash (readHeader uncheckedQuote)
  if header.version = 4 ∧ header.teeType = 0x81 then do
    checkQuote sgxQuote4 .tdxMulformedQuote "TDX quote version 4" uncheckedQuote
    pure ⟨uncheckedQuote⟩
  else if header.version = 5 ∧ header.teeType = 0x81 then do
    checkQuote5 uncheckedQuote
    pure ⟨uncheckedQuote⟩
  else
    Res.fail .tdxUnsupportedEvidenceType header.unsupported

def asQuote (e : TdxEvidence) : Res Quote := do
  let quoteHeader ← Res.ofCrash (readHeader e.data)
  if quoteHeader.version = 4 then do
    let quote ← Res.ofCrash (deref e.data ⟨0, sgxQuote4.size⟩)
    pure (.quote4 quote)
  else if quoteHeader.version = 5 then do
    let quote ← Res.ofCrash (deref e.data ⟨0, sgxQuote5.size⟩)
    let teeReportType ← Res.ofCrash (readUint e.data (sgxQuote5.span quote .type_))
    let body := quote + sgxQuote5.offsetOf .body
    if teeReportType = 2 then do
      let reportBody ← Res.ofCrash (deref e.data ⟨body, sgxReport2Body.size⟩)
      pure (.quote5Tdx10 quote reportBody)
    else if teeReportType = 3 then do
      let reportBody ← Res.ofCrash (deref e.data ⟨body, sgxReport2BodyV15.size⟩)
      pure (.quote5Tdx15 quote reportBody)
    else
      Res.fail .tdxUnsupportedEvidenceType (unsupportedBody teeReportType)
  else
    Res.fail .tdxUnsupportedEvidenceType s!"unsupoorted quote version {quoteHeader.version}"

def asQuoteData (e : TdxEvidence) : Bytes := e.data

/-- `quote.report_body` of a version 4 quote. -/
def reportBody4 (quote : Nat) : Nat := quote + sgxQuote4.offsetOf .reportBody

def getReportDataField (e : TdxEvidence) : Res Bytes := do
  let quote ← e.asQuote
  Res.ofCrash (readField e.data (match quote with
    | .quote4 quote => sgxReport2Body.span (reportBody4 quote) .reportData
    | .quote5Tdx10 _ reportBody => sgxReport2Body.span reportBody .reportData
    | .quote5Tdx15 _ reportBody => sgxReport2BodyV15.span reportBody .reportData))

/-! ### Claims -/

/-- The claims of a TD report and the fields they show, in the order of insertion. -/
def claimFields : List (String × Report2Field) :=
  [(builtInClaimTdxTeeTcbSvn, .teeTcbSvn), (builtInClaimTdxMrSeam, .mrSeam),
    (builtInClaimTdxMrsignerSeam, .mrsignerSeam), (builtInClaimTdxSeamAttributes, .seamAttributes),
    (builtInClaimTdxTdAttributes, .tdAttributes), (builtInClaimTdxXfam, .xfam),
    (builtInClaimTdxMrTd, .mrTd), (builtInClaimTdxMrConfigId, .mrConfigId),
    (builtInClaimTdxMrOwner, .mrOwner), (builtInClaimTdxMrOwnerConfig, .mrOwnerConfig),
    (builtInClaimTdxRtMr0, .rtMr0), (builtInClaimTdxRtMr1, .rtMr1),
    (builtInClaimTdxRtMr2, .rtMr2), (builtInClaimTdxRtMr3, .rtMr3)]

/-- The same of a TDX 1.5 report. -/
def claimFieldsV15 : List (String × Report2Field) :=
  claimFields ++
    [(builtInClaimTdxTeeTcbSvn2, .teeTcbSvn2), (builtInClaimTdxMrServicetd, .mrServicetd)]

/-- Inserts the fields of a report that starts at `reportBody`. -/
def appendClaims (layout : Packed Report2Field) (table : List (String × Report2Field)) (data : Bytes)
    (claims : Claims) (reportBody : Nat) : Except Crash Claims :=
  insertFields data (table.map fun e => (e.1, layout.span reportBody e.2)) claims

def appendClaimsSgxReport2BodyT := appendClaims sgxReport2Body claimFields

def appendClaimsSgxReport2BodyV15T := appendClaims sgxReport2BodyV15 claimFieldsV15

def genClaimsFromQuote (e : TdxEvidence) : Res Claims := do
  let claims := IndexMap.empty.insert builtInClaimCommonQuote e.asQuoteData
  let claims := claims.insert builtInClaimCommonQuoteType (utf8 "tdx")
  let quote ← e.asQuote
  Res.ofCrash (match quote with
    | .quote4 quote => appendClaimsSgxReport2BodyT e.data claims (reportBody4 quote)
    | .quote5Tdx10 _ reportBody => appendClaimsSgxReport2BodyT e.data claims reportBody
    | .quote5Tdx15 _ reportBody => appendClaimsSgxReport2BodyV15T e.data claims reportBody)

def getClaims (e : TdxEvidence) : Res Claims := e.genClaimsFromQuote

def getDiceCborTag (_ : TdxEvidence) : Nat := ocbrTagEvidenceIntelTeeQuote

def getDiceRawEvidence (e : TdxEvidence) : Bytes := e.data

def getTeeType (_ : TdxEvidence) : TeeType := .tdx

def createEvidenceFromDice : Nat → Bytes → Option (Res TdxEvidence) :=
  createFromDice newFromUnchecked .tdxUnsupportedEvidenceType

end TdxEvidence

end RatsRs.Tee
