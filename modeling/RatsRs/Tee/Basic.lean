import RatsRs.Lib.IndexMap
import RatsRs.Tee.Layout

/-! Evidence types, claims, and what a quote's claims are meant to be.

A claim is a name and a byte string. The built-in claims of a quote are the quote
itself, the name of its type, and fields of its report. `QuoteFormat` says which
fields, where, under which names, and where the report data is: the parsers of the two
evidence types are compared with it. -/
namespace RatsRs.Tee
open Lib

abbrev Claims := IndexMap String Bytes

inductive TeeType where
  | sgxDcap
  | tdx
  deriving DecidableEq, Repr

/-! ### CBOR tags of evidence -/

/-- Intel TEE quotes, all SGX and TDX quote types. -/
def ocbrTagEvidenceIntelTeeQuote : Nat := 60000

/-- Intel TEE reports (TDX report or SGX report type 2). -/
def ocbrTagEvidenceIntelTeeReport : Nat := 60001

/-! ### Names of built-in claims -/

def builtInClaimCommonQuote : String := "common_quote"
def builtInClaimCommonQuoteType : String := "common_quote_type"

def builtInClaimSgxCpuSvn : String := "sgx_cpu_svn"
def builtInClaimSgxIsvExtProdId : String := "sgx_isv_ext_prod_id"
def builtInClaimSgxAttributes : String := "sgx_attributes"
def builtInClaimSgxMrEnclave : String := "sgx_mr_enclave"
def builtInClaimSgxMrSigner : String := "sgx_mr_signer"
def builtInClaimSgxConfigId : String := "sgx_config_id"
def builtInClaimSgxIsvProdId : String := "sgx_isv_prod_id"
def builtInClaimSgxIsvSvn : String := "sgx_isv_svn"
def builtInClaimSgxConfigSvn : String := "sgx_config_svn"
def builtInClaimSgxIsvFamilyId : String := "sgx_isv_family_id"

def builtInClaimTdxTeeTcbSvn : String := "tdx_tee_tcb_svn"
def builtInClaimTdxMrSeam : String := "tdx_mr_seam"
def builtInClaimTdxMrsignerSeam : String := "tdx_mrsigner_seam"
def builtInClaimTdxSeamAttributes : String := "tdx_seam_attributes"
def builtInClaimTdxTdAttributes : String := "tdx_td_attributes"
def builtInClaimTdxXfam : String := "tdx_xfam"
def builtInClaimTdxMrTd : String := "tdx_mr_td"
def builtInClaimTdxMrConfigId : String := "tdx_mr_config_id"
def builtInClaimTdxMrOwner : String := "tdx_mr_owner"
def builtInClaimTdxMrOwnerConfig : String := "tdx_mr_owner_config"
def builtInClaimTdxRtMr0 : String := "tdx_rt_mr0"
def builtInClaimTdxRtMr1 : String := "tdx_rt_mr1"
def builtInClaimTdxRtMr2 : String := "tdx_rt_mr2"
def builtInClaimTdxRtMr3 : String := "tdx_rt_mr3"
def builtInClaimTdxTeeTcbSvn2 : String := "tdx_tee_tcb_svn2"
def builtInClaimTdxMrServicetd : String := "tdx_mr_servicetd"

/-! ### What a quote says -/

/-- Where a kind of quote keeps what is reported about it. -/
structure QuoteFormat where
  quoteType : String
  fields : List (String × Span)
  reportData : Span
  names_nodup :
    (builtInClaimCommonQuote :: builtInClaimCommonQuoteType :: fields.map Prod.fst).Nodup
  fields_disjoint : fields.Pairwise fun e f => e.2.Disjoint f.2

namespace QuoteFormat

/-- The names of the built-in claims. -/
def names (f : QuoteFormat) : List String :=
  builtInClaimCommonQuote :: builtInClaimCommonQuoteType :: f.fields.map Prod.fst

/-- The built-in claims of a quote, in order. -/
def entries (f : QuoteFormat) (quote : Bytes) : List (String × Bytes) :=
  (builtInClaimCommonQuote, quote) :: (builtInClaimCommonQuoteType, utf8 f.quoteType) ::
    f.fields.map fun e => (e.1, e.2.read quote)

theorem entries_names (f : QuoteFormat) (quote : Bytes) :
    (f.entries quote).map Prod.fst = f.names := by
  simp [entries, names, List.map_map, Function.comp_def]

def claims (f : QuoteFormat) (quote : Bytes) : Claims :=
  ⟨f.entries quote, by rw [entries_names]; exact f.names_nodup⟩

@[simp] theorem keys_claims (f : QuoteFormat) (quote : Bytes) : (f.claims quote).keys = f.names :=
  entries_names f quote

/-- A format whose fields are fields of one packed record. -/
def ofTable {F : Type} [DecidableEq F] (quoteType : String) (layout : Packed F) (base : Nat)
    (table : List (String × F)) (reportData : F)
    (hnames : (builtInClaimCommonQuote :: builtInClaimCommonQuoteType :: table.map Prod.fst).Nodup)
    (hfields : table.Pairwise fun d e => d.2 ≠ e.2) (hmem : ∀ e ∈ table, e.2 ∈ layout.fields) :
    QuoteFormat where
  quoteType := quoteType
  fields := table.map fun e => (e.1, layout.span base e.2)
  reportData := layout.span base reportData
  names_nodup := by simpa [List.map_map, Function.comp_def] using hnames
  fields_disjoint := by
    rw [List.pairwise_map]
    exact hfields.imp_of_mem fun hd he hne => Packed.span_disjoint base (hmem _ hd) (hmem _ he) hne

end QuoteFormat

/-! ### Reading a quote -/

/-- The fields of the header that the parsers look at. -/
structure Header where
  version : Nat
  attKeyType : Nat
  teeType : Nat
  deriving DecidableEq, Repr

/-- The header of a quote, read through `*const sgx_quote4_header_t`. -/
def readHeader (data : Bytes) : Except Crash Header := do
  let header ← deref data ⟨0, sgxQuote4Header.size⟩
  let version ← readUint data (sgxQuote4Header.span header .version)
  let attKeyType ← readUint data (sgxQuote4Header.span header .attKeyType)
  let teeType ← readUint data (sgxQuote4Header.span header .teeType)
  pure ⟨version, attKeyType, teeType⟩

def headerOf (data : Bytes) : Header where
  version := leNat ((sgxQuote4Header.span 0 .version).read data)
  attKeyType := leNat ((sgxQuote4Header.span 0 .attKeyType).read data)
  teeType := leNat ((sgxQuote4Header.span 0 .teeType).read data)

/-- The message of both parsers about a header they do not take. -/
def Header.unsupported (header : Header) : String :=
  s!"Unsupported quote type, version: {hex 2 header.version}, att_key_type: {hex 2 header.attKeyType}, tee_type: {hex 2 header.teeType}"

/-- The message of both parsers about a quote shorter than what it is to be read as. -/
def tooShort (quote : Bytes) : String := s!"Invalid quote: quote length {quote.length} is too short"

theorem readHeader_eq {data : Bytes} (h : sgxQuote4Header.size ≤ data.length) :
    readHeader data = .ok (headerOf data) := by
  have hfield : ∀ f, (sgxQuote4Header.span 0 f).Within data := fun f =>
    Packed.span_within (by omega) f
  simp only [readHeader, deref_zero h, ok_bind, readUint_of_within (hfield _)]
  rfl

/-- The bound and the length check of both parsers on a record with its signature
behind it. -/
def checkQuote (layout : Packed QuoteField) (mulformed : ErrorKind) (what : String)
    (uncheckedQuote : Bytes) : Res Unit := do
  Res.ensure (layout.size ≤ uncheckedQuote.length) mulformed (tooShort uncheckedQuote)
  let quote ← Res.ofCrash (deref uncheckedQuote ⟨0, layout.size⟩)
  let signatureDataLen ← Res.ofCrash (readUint uncheckedQuote (layout.span quote .signatureDataLen))
  let expectedQuoteLen := layout.size + signatureDataLen
  Res.ensure (uncheckedQuote.length = expectedQuoteLen) mulformed
    s!"Invalid {what}: quote length mismatch and probably got truncated, unchecked_quote.len(): {uncheckedQuote.length}, expected: {expectedQuoteLen}"

/-- What is left after the bound is a length check, inside the string. -/
theorem checkQuote_of_le {layout : Packed QuoteField} {mulformed : ErrorKind} {what : String}
    {quote : Bytes} (h : layout.size ≤ quote.length) :
    checkQuote layout mulformed what quote =
      let expected := layout.size + leNat ((layout.span 0 .signatureDataLen).read quote)
      Res.ensure (quote.length = expected) mulformed
        s!"Invalid {what}: quote length mismatch and probably got truncated, unchecked_quote.len(): {quote.length}, expected: {expected}" := by
  rw [checkQuote, Res.ensure_true h, ok_bind, deref_zero h]
  have hf : (layout.span 0 .signatureDataLen).Within quote := Packed.span_within (by omega) _
  simp only [Res.ofCrash, ok_bind, readUint_of_within hf]

theorem checkQuote_eq_ok {layout : Packed QuoteField} {mulformed : ErrorKind} {what : String}
    {quote : Bytes} {u : Unit} :
    checkQuote layout mulformed what quote = .ok u ↔ layout.size ≤ quote.length ∧
      quote.length = layout.size + leNat ((layout.span 0 .signatureDataLen).read quote) := by
  by_cases h : layout.size ≤ quote.length
  · simp only [checkQuote_of_le h, Res.ensure_eq_ok, h, true_and]
  · simp only [checkQuote, bind_eq_ok, Res.ensure_eq_ok, h, false_and, exists_false]

theorem checkQuote_safe (layout : Packed QuoteField) (mulformed : ErrorKind) (what : String)
    (quote : Bytes) : (checkQuote layout mulformed what quote).Safe := by
  by_cases h : layout.size ≤ quote.length
  · rw [checkQuote_of_le h]
    exact Res.safe_ensure
  · rw [checkQuote, Res.ensure_false h]
    exact Res.safe_fail

/-- `create_evidence_from_dice` of both types: `none` for a tag that is not theirs. -/
def createFromDice {α : Type} (newFromUnchecked : Bytes → Res α) (unsupported : ErrorKind)
    (cborTag : Nat) (rawEvidence : Bytes) : Option (Res α) :=
  if cborTag = ocbrTagEvidenceIntelTeeQuote then some (newFromUnchecked rawEvidence)
  else if cborTag = ocbrTagEvidenceIntelTeeReport then
    some (Res.fail unsupported
      "Unsupported evidence type: Intel TEE report (TDX report or SGX report type 2)")
  else none

section CreateFromDice
variable {α : Type} {newFromUnchecked : Bytes → Res α} {unsupported : ErrorKind} {cborTag : Nat}
  {rawEvidence : Bytes}

theorem createFromDice_safe (h : (newFromUnchecked rawEvidence).Safe) :
    ∀ r ∈ createFromDice newFromUnchecked unsupported cborTag rawEvidence, Res.Safe r := by
  intro r hr
  unfold createFromDice at hr
  split at hr
  · cases hr
    exact h
  · split at hr
    · cases hr
      exact Res.safe_fail
    · cases hr

theorem createFromDice_eq_ok {a : α} :
    createFromDice newFromUnchecked unsupported cborTag rawEvidence = some (.ok a) ↔
      cborTag = ocbrTagEvidenceIntelTeeQuote ∧ newFromUnchecked rawEvidence = .ok a := by
  unfold createFromDice
  split
  next h => simp only [Option.some.injEq, h, true_and]
  next h => split <;> simp [h, Res.fail]

end CreateFromDice

/-- `claims.insert(name, as_slice!(field).into())` for each field in turn. The macro
copies the field and hands out the bytes of the copy. -/
def insertFields (data : Bytes) : List (String × Span) → Claims → Except Crash Claims
  | [], claims => .ok claims
  | (name, field) :: rest, claims => do
    let value ← readField data field
    insertFields data rest (claims.insert name value)

theorem insertFields_eq {data : Bytes} {fields : List (String × Span)}
    (h : ∀ e ∈ fields, e.2.Within data) (claims : Claims) :
    insertFields data fields claims =
      .ok ((fields.map fun e => (e.1, e.2.read data)).foldl (fun m e => m.insert e.1 e.2) claims) := by
  induction fields generalizing claims with
  | nil => rfl
  | cons e rest ih =>
    obtain ⟨name, field⟩ := e
    rw [insertFields, readField_of_within (h _ List.mem_cons_self), ok_bind,
      ih (fun e he => h e (List.mem_cons_of_mem _ he))]
    rfl

/-- The two common claims, then the fields: the built-in claims of the format. -/
theorem insertFields_format (f : QuoteFormat) {data : Bytes}
    (h : ∀ e ∈ f.fields, e.2.Within data) :
    insertFields data f.fields ((IndexMap.empty.insert builtInClaimCommonQuote data).insert
      builtInClaimCommonQuoteType (utf8 f.quoteType)) = .ok (f.claims data) := by
  rw [insertFields_eq h, ← IndexMap.ofList_eq (f.claims data)]
  rfl

end RatsRs.Tee
