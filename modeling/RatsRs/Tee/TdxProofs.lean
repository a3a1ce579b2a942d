import RatsRs.Tee.Tdx

/-! The TDX parser accepts exactly its three layouts, and reads what it accepts by the
layout it was accepted under.

`Layout` is the format by itself: where the body is, which report it holds, how long
the whole is. `Matches` says that a string has a layout; a string has at most one, and
what has one neither extends nor truncates to another. -/
namespace RatsRs.Tee.TdxEvidence
open Lib

/-- The layouts of a TDX quote. -/
inductive Layout where
  | quote4
  | quote5Tdx10
  | quote5Tdx15
  deriving DecidableEq, Repr

namespace Layout

def version : Layout → Nat
  | .quote4 => 4
  | .quote5Tdx10 | .quote5Tdx15 => 5

/-- What the type field of a version 5 quote must say. -/
def bodyType : Layout → Option Nat
  | .quote4 => none
  | .quote5Tdx10 => some 2
  | .quote5Tdx15 => some 3

/-- Where the report body starts: behind the header, in version 5 behind type and size too. -/
def body : Layout → Nat
  | .quote4 => sgxQuote4Header.size
  | .quote5Tdx10 | .quote5Tdx15 => sgxQuote5.offsetOf .body

def report : Layout → Packed Report2Field
  | .quote4 | .quote5Tdx10 => sgxReport2Body
  | .quote5Tdx15 => sgxReport2BodyV15

/-- Where the length of the signature is. -/
def signatureLen (l : Layout) : Span := ⟨l.body + l.report.size, 4⟩

/-- Length of the quote without its signature. -/
def fixedSize (l : Layout) : Nat := l.body + l.report.size + 4

/-- The references to a quote of this layout. -/
def quote : Layout → Quote
  | .quote4 => .quote4 0
  | .quote5Tdx10 => .quote5Tdx10 0 Layout.quote5Tdx10.body
  | .quote5Tdx15 => .quote5Tdx15 0 Layout.quote5Tdx15.body

/-- The claims about the report and the fields they show. -/
def table : Layout → List (String × Report2Field)
  | .quote4 | .quote5Tdx10 => claimFields
  | .quote5Tdx15 => claimFieldsV15

def format (l : Layout) : QuoteFormat :=
  .ofTable "tdx" l.report l.body l.table .reportData (by cases l <;> decide) (by cases l <;> decide)
    (by cases l <;> decide)

/-- Version and type tell the layouts apart. -/
theorem eq_of_type {l m : Layout} (hv : m.version = l.version)
    (ht : ∀ s ∈ l.bodyType, ∀ t ∈ m.bodyType, s = t) : m = l := by
  cases l <;> cases m <;> first
    | rfl
    | cases ht _ rfl _ rfl
    | cases hv

/-- `b` is a quote of this layout, complete and with nothing behind it. -/
structure Matches (l : Layout) (b : Bytes) : Prop where
  bound : l.fixedSize ≤ b.length
  version : (headerOf b).version = l.version
  teeType : (headerOf b).teeType = 0x81
  bodyType : ∀ t ∈ l.bodyType, leNat ((sgxQuote5.span 0 .type_).read b) = t ∧
    leNat ((sgxQuote5.span 0 .size).read b) = l.report.size
  length : b.length = l.fixedSize + leNat (l.signatureLen.read b)

end Layout

/-- The strings that are TDX quotes. -/
def Accepted (b : Bytes) : Prop := ∃ l : Layout, l.Matches b

/-! ### The parser -/

theorem quote5_within {b : Bytes} (h : sgxQuote5.size ≤ b.length) (f : Quote5Field) :
    (sgxQuote5.span 0 f).Within b :=
  Packed.span_within (by omega) f

/-- The condition reads inside the string, and says whether size and length are wrong. -/
theorem mismatch5_eq {bodySize : Nat} {b : Bytes} (h : sgxQuote5.size ≤ b.length) :
    mismatch5 bodySize b 0 = .ok (decide ¬ (leNat ((sgxQuote5.span 0 .size).read b) = bodySize ∧
      54 + bodySize + 4 ≤ b.length ∧
      b.length = 54 + bodySize + 4 + leNat ((signatureLen 0 bodySize).read b))) := by
  rw [mismatch5, readUint_of_within (quote5_within h .size), ok_bind]
  rw [show sgxQuote5.offsetOf .body = 54 from rfl]
  split
  next hbad =>
    rw [pure_eq_ok, eq_comm, decide_eq_true_iff]
    rintro ⟨hsize, hbound, -⟩
    exact hbad.elim (fun hne => hne hsize.symm) (fun hlt => absurd hbound (by omega))
  next hgood =>
    have hin : (signatureLen 0 bodySize).Within b := by
      have : sgxQuote5.offsetOf .body = 54 := rfl
      simp only [Span.Within, signatureLen, this]
      omega
    have hsize : leNat ((sgxQuote5.span 0 .size).read b) = bodySize := by omega
    rw [readUint_of_within hin, ok_bind, pure_eq_ok, decide_eq_decide, hsize]
    have hbound : 54 + bodySize + 4 ≤ b.length := by omega
    simp only [hbound, true_and, ne_eq]

theorem checkBody5_eq_ok {bodySize : Nat} {tdx : String} {b : Bytes} {u : Unit}
    (h : sgxQuote5.size ≤ b.length) :
    checkBody5 bodySize tdx b 0 = .ok u ↔ leNat ((sgxQuote5.span 0 .size).read b) = bodySize ∧
      54 + bodySize + 4 ≤ b.length ∧
      b.length = 54 + bodySize + 4 + leNat ((signatureLen 0 bodySize).read b) := by
  rw [checkBody5, mismatch5_eq h]
  simp only [Res.ofCrash, ok_bind, Res.ensure_eq_ok, decide_eq_false_iff_not, not_not]

theorem checkBody5_safe (bodySize : Nat) (tdx : String) {b : Bytes} (h : sgxQuote5.size ≤ b.length) :
    (checkBody5 bodySize tdx b 0).Safe := by
  rw [checkBody5, mismatch5_eq h]
  exact Res.safe_ensure

/-- What is left of the version 5 check once the string holds the fixed part. -/
theorem checkQuote5_of_le {b : Bytes} (h : sgxQuote5.size ≤ b.length) :
    checkQuote5 b =
      let teeReportType := leNat ((sgxQuote5.span 0 .type_).read b)
      if teeReportType = 2 then checkBody5 sgxReport2Body.size "TDX 1.0" b 0
      else if teeReportType = 3 then checkBody5 sgxReport2BodyV15.size "TDX 1.5" b 0
      else Res.fail .tdxUnsupportedEvidenceType (unsupportedBody teeReportType) := by
  rw [checkQuote5, Res.ensure_true h, ok_bind, deref_zero h]
  simp only [Res.ofCrash, ok_bind, readUint_of_within (quote5_within h .type_)]

theorem checkQuote5_safe (b : Bytes) : (checkQuote5 b).Safe := by
  by_cases h : sgxQuote5.size ≤ b.length
  · rw [checkQuote5_of_le h]
    dsimp only
    split
    · exact checkBody5_safe _ _ h
    · split
      · exact checkBody5_safe _ _ h
      · exact Res.safe_fail
  · rw [checkQuote5, Res.ensure_false h]
    exact Res.safe_fail

theorem newFromUnchecked_of_le {b : Bytes} (h : sgxQuote4Header.size ≤ b.length) :
    newFromUnchecked b =
      if (headerOf b).version = 4 ∧ (headerOf b).teeType = 0x81 then do
        checkQuote sgxQuote4 .tdxMulformedQuote "TDX quote version 4" b
        pure ⟨b⟩
      else if (headerOf b).version = 5 ∧ (headerOf b).teeType = 0x81 then do
        checkQuote5 b
        pure ⟨b⟩
      else Res.fail .tdxUnsupportedEvidenceType (headerOf b).unsupported := by
  rw [newFromUnchecked, Res.ensure_true h, ok_bind, readHeader_eq h]
  rfl

/-- No string makes the parser read past its end. -/
theorem newFromUnchecked_safe (b : Bytes) : (newFromUnchecked b).Safe := by
  by_cases h : sgxQuote4Header.size ≤ b.length
  · rw [newFromUnchecked_of_le h]
    split
    · exact (checkQuote_safe _ _ _ _).bind fun _ _ => Res.safe_ok
    · split
      · exact (checkQuote5_safe b).bind fun _ _ => Res.safe_ok
      · exact Res.safe_fail
  · rw [newFromUnchecked, Res.ensure_false h]
    exact Res.safe_fail

theorem quote4_matches {b : Bytes} (hv : (headerOf b).version = 4) (ht : (headerOf b).teeType = 0x81) :
    Layout.quote4.Matches b ↔ sgxQuote4.size ≤ b.length ∧
      b.length = sgxQuote4.size + leNat ((sgxQuote4.span 0 .signatureDataLen).read b) :=
  ⟨fun h => ⟨h.bound, h.length⟩, fun h => ⟨h.1, hv, ht, nofun, h.2⟩⟩

theorem quote5_matches {l : Layout} {b : Bytes} {t : Nat} (hl : l.version = 5)
    (hlt : l.bodyType = some t) (hv : (headerOf b).version = 5) (ht : (headerOf b).teeType = 0x81)
    (htype : leNat ((sgxQuote5.span 0 .type_).read b) = t) :
    l.Matches b ↔ leNat ((sgxQuote5.span 0 .size).read b) = l.report.size ∧
      54 + l.report.size + 4 ≤ b.length ∧
      b.length = 54 + l.report.size + 4 + leNat ((signatureLen 0 l.report.size).read b) := by
  have hbody : l.body = 54 := by cases l <;> first | rfl | cases hl
  have hspan : l.signatureLen = signatureLen 0 l.report.size := by
    simp only [Layout.signatureLen, hbody, signatureLen]
    rfl
  have hsize : l.fixedSize = 54 + l.report.size + 4 := by rw [Layout.fixedSize, hbody]
  constructor
  · intro h
    have hlen := h.length
    rw [hspan, hsize] at hlen
    exact ⟨(h.bodyType t hlt).2, hsize ▸ h.bound, hlen⟩
  · rintro ⟨hs, hb, hlen⟩
    refine ⟨hsize ▸ hb, hv.trans hl.symm, ht, fun t' ht' => ?_, by rw [hspan, hsize]; exact hlen⟩
    rw [hlt, Option.mem_some_iff] at ht'
    exact ⟨htype.trans ht', hs⟩

theorem checkQuote5_eq_ok {b : Bytes} {u : Unit} (hv : (headerOf b).version = 5)
    (ht : (headerOf b).teeType = 0x81) :
    checkQuote5 b = .ok u ↔ Layout.quote5Tdx10.Matches b ∨ Layout.quote5Tdx15.Matches b := by
  by_cases h : sgxQuote5.size ≤ b.length
  · rw [checkQuote5_of_le h]
    dsimp only
    split
    next h2 =>
      refine (checkBody5_eq_ok h).trans
        ((quote5_matches (l := .quote5Tdx10) rfl rfl hv ht h2).symm.trans ⟨Or.inl, fun hm => ?_⟩)
      refine hm.resolve_right fun hm3 => ?_
      have := (hm3.bodyType 3 rfl).1
      omega
    next h2 =>
      split
      next h3 =>
        refine (checkBody5_eq_ok h).trans
          ((quote5_matches (l := .quote5Tdx15) rfl rfl hv ht h3).symm.trans ⟨Or.inr, fun hm => ?_⟩)
        exact hm.resolve_left fun hm2 => h2 (hm2.bodyType 2 rfl).1
      next h3 =>
        simp only [Res.fail, reduceCtorEq, false_iff, not_or]
        exact ⟨fun hm => h2 (hm.bodyType 2 rfl).1, fun hm => h3 (hm.bodyType 3 rfl).1⟩
  · rw [checkQuote5, Res.ensure_false h]
    simp only [Res.fail, error_bind, reduceCtorEq, false_iff, not_or]
    exact ⟨fun hm => h (Nat.le_trans (by decide) hm.bound),
      fun hm => h (Nat.le_trans (by decide) hm.bound)⟩

/-- **The parser accepts exactly its format**, and keeps the bytes it was given. -/
theorem newFromUnchecked_eq_ok {b : Bytes} {e : TdxEvidence} :
    newFromUnchecked b = .ok e ↔ e = ⟨b⟩ ∧ Accepted b := by
  have hshort : Accepted b → sgxQuote4Header.size ≤ b.length := fun ⟨l, hm⟩ =>
    Nat.le_trans (by cases l <;> decide) hm.bound
  by_cases h : sgxQuote4Header.size ≤ b.length
  · rw [newFromUnchecked_of_le h]
    split
    next h4 =>
      have hacc : Accepted b ↔ Layout.quote4.Matches b := by
        refine ⟨fun ⟨l, hm⟩ => ?_, fun hm => ⟨_, hm⟩⟩
        have hl : l.version = 4 := hm.version.symm.trans h4.1
        cases l with
        | quote4 => exact hm
        | quote5Tdx10 => cases hl
        | quote5Tdx15 => cases hl
      simp only [bind_eq_ok, checkQuote_eq_ok, pure_eq_ok, exists_const]
      rw [hacc, quote4_matches h4.1 h4.2, and_comm, eq_comm]
    next h4 =>
      split
      next h5 =>
        have hacc : Accepted b ↔ Layout.quote5Tdx10.Matches b ∨ Layout.quote5Tdx15.Matches b := by
          refine ⟨fun ⟨l, hm⟩ => ?_, fun hm => hm.elim (fun h => ⟨_, h⟩) (fun h => ⟨_, h⟩)⟩
          have hl : l.version = 5 := hm.version.symm.trans h5.1
          cases l with
          | quote4 => cases hl
          | quote5Tdx10 => exact .inl hm
          | quote5Tdx15 => exact .inr hm
        simp only [bind_eq_ok, checkQuote5_eq_ok h5.1 h5.2, pure_eq_ok, exists_const]
        rw [hacc, and_comm, eq_comm]
      next h5 =>
        simp only [Res.fail, reduceCtorEq, false_iff, not_and]
        rintro - ⟨l, hm⟩
        cases l with
        | quote4 => exact h4 ⟨hm.version, hm.teeType⟩
        | quote5Tdx10 => exact h5 ⟨hm.version, hm.teeType⟩
        | quote5Tdx15 => exact h5 ⟨hm.version, hm.teeType⟩
  · have hno : ¬ Accepted b := fun ha => h (hshort ha)
    simp only [newFromUnchecked, bind_eq_ok, Res.ensure_eq_ok, h, hno, false_and, and_false,
      exists_false]

theorem create_eq_ok {cborTag : Nat} {quote : Bytes} {e : TdxEvidence} :
    createEvidenceFromDice cborTag quote = some (.ok e) ↔
      cborTag = ocbrTagEvidenceIntelTeeQuote ∧ e = ⟨quote⟩ ∧ Accepted quote := by
  rw [createEvidenceFromDice, createFromDice_eq_ok, newFromUnchecked_eq_ok]

/-! ### Nothing can be cut off or added -/

namespace Layout.Matches
variable {l : Layout} {b : Bytes}

/-- Every field of the report lies inside the quote. -/
theorem report_within (h : l.Matches b) (f : Report2Field) :
    (l.report.span l.body f).Within b := by
  have := h.bound
  refine Packed.span_within ?_ f
  simp only [Layout.fixedSize] at this
  omega

theorem header_le (h : l.Matches b) : sgxQuote4Header.size ≤ b.length :=
  Nat.le_trans (by cases l <;> decide) h.bound

/-- The accessor repeats the dispatch of the check and arrives at the same layout. -/
theorem asQuote_eq (h : l.Matches b) : asQuote ⟨b⟩ = .ok l.quote := by
  have hb := h.bound
  rw [asQuote, readHeader_eq h.header_le]
  simp only [Res.ofCrash, ok_bind]
  cases l with
  | quote4 =>
    have hv : (headerOf b).version = 4 := h.version
    have h4 : sgxQuote4.size ≤ b.length := hb
    rw [if_pos hv, deref_zero h4]
    rfl
  | quote5Tdx10 =>
    have hv : (headerOf b).version = 5 := h.version
    have h5 : sgxQuote5.size ≤ b.length := Nat.le_trans (by decide) hb
    have hbody : Span.Within ⟨0 + sgxQuote5.offsetOf .body, sgxReport2Body.size⟩ b :=
      Nat.le_trans (by decide) hb
    rw [if_neg (by omega), if_pos hv, deref_zero h5]
    simp only [ok_bind, readUint_of_within (quote5_within h5 _), (h.bodyType 2 rfl).1, if_true,
      deref_of_within hbody]
    rfl
  | quote5Tdx15 =>
    have hv : (headerOf b).version = 5 := h.version
    have h5 : sgxQuote5.size ≤ b.length := Nat.le_trans (by decide) hb
    have hbody : Span.Within ⟨0 + sgxQuote5.offsetOf .body, sgxReport2BodyV15.size⟩ b :=
      Nat.le_trans (by decide) hb
    rw [if_neg (by omega), if_pos hv, deref_zero h5]
    simp only [ok_bind, readUint_of_within (quote5_within h5 _), (h.bodyType 3 rfl).1]
    rw [if_neg (by decide), if_true, deref_of_within hbody]
    rfl

theorem reportDataField_eq (h : l.Matches b) :
    getReportDataField ⟨b⟩ = .ok (l.format.reportData.read b) := by
  have hin := readField_of_within (h.report_within .reportData)
  rw [getReportDataField, h.asQuote_eq, ok_bind]
  cases l <;> exact congrArg Res.ofCrash hin

theorem fields_within (h : l.Matches b) : ∀ e ∈ l.format.fields, e.2.Within b := by
  intro e he
  obtain ⟨d, _, rfl⟩ := List.mem_map.mp he
  exact h.report_within d.2

theorem claims_eq (h : l.Matches b) : getClaims ⟨b⟩ = .ok (l.format.claims b) := by
  have hfields := insertFields_format l.format h.fields_within
  rw [getClaims, genClaimsFromQuote, h.asQuote_eq, ok_bind]
  cases l <;> exact congrArg Res.ofCrash hfields

end Layout.Matches

end RatsRs.Tee.TdxEvidence
