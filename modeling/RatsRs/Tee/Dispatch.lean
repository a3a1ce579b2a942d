import RatsRs.Tee.VerifierProofs

/-! Which parser takes the evidence.

`AutoEvidence` tries the parsers one after the other and takes the first evidence it gets. No string
is accepted by both, so the order is of no consequence: what comes out, its type included, is a
function of the tag and the bytes. -/
namespace RatsRs.Tee
open Lib

/-! ### Trying one after the other -/

section Trying
variable {α : Type}

/-- The first that is `Some(Ok(_))`, or what there is otherwise. -/
def firstAccepted (otherwise : Res α) : List (Option (Res α)) → Res α
  | [] => otherwise
  | result :: results => do
    match ← Res.ofCrash (attempt result) with
    | some a => .ok a
    | none => firstAccepted otherwise results

def Accepting (result : Option (Res α)) : Prop := ∃ a, result = some (.ok a)

theorem firstAccepted_cons_accepting {otherwise : Res α} {a : α} {results : List (Option (Res α))} :
    firstAccepted otherwise (some (.ok a) :: results) = .ok a := rfl

theorem firstAccepted_cons_not {otherwise : Res α} {result : Option (Res α)}
    {results : List (Option (Res α))} (hsafe : ∀ r ∈ result, Res.Safe r) (h : ¬ Accepting result) :
    firstAccepted otherwise (result :: results) = firstAccepted otherwise results := by
  obtain ⟨a, hattempt, ha⟩ := attempt_eq hsafe
  cases a with
  | some a => exact absurd ⟨a, (ha a).mp rfl⟩ h
  | none =>
    rw [firstAccepted, hattempt]
    rfl

/-- Where no two accept, any order gives the same. -/
theorem firstAccepted_perm {otherwise : Res α} {results results' : List (Option (Res α))}
    (hperm : results.Perm results') (hsafe : ∀ result ∈ results, ∀ r ∈ result, Res.Safe r)
    (hone : results.Pairwise fun r s => ¬ (Accepting r ∧ Accepting s)) :
    firstAccepted otherwise results = firstAccepted otherwise results' := by
  induction hperm with
  | nil => rfl
  | cons result hperm ih =>
    have ih := ih (fun r hr => hsafe r (List.mem_cons_of_mem _ hr)) (List.pairwise_cons.mp hone).2
    by_cases h : Accepting result
    · obtain ⟨a, rfl⟩ := h
      rfl
    · have hresult := hsafe result (List.mem_cons_self ..)
      rw [firstAccepted_cons_not hresult h, firstAccepted_cons_not hresult h, ih]
  | swap r s results =>
    have hs := hsafe s (List.mem_cons_self ..)
    have hr := hsafe r (List.mem_cons_of_mem _ (List.mem_cons_self ..))
    have hnot : ¬ (Accepting s ∧ Accepting r) :=
      (List.pairwise_cons.mp hone).1 r (List.mem_cons_self ..)
    by_cases h : Accepting r
    · have hs' : ¬ Accepting s := fun hacc => hnot ⟨hacc, h⟩
      obtain ⟨a, rfl⟩ := h
      rw [firstAccepted_cons_not hs hs', firstAccepted_cons_accepting, firstAccepted_cons_accepting]
    · rw [firstAccepted_cons_not hr h]
      by_cases h' : Accepting s
      · obtain ⟨a, rfl⟩ := h'
        rfl
      · rw [firstAccepted_cons_not hs h', firstAccepted_cons_not hs h', firstAccepted_cons_not hr h]
  | trans hperm _ ih₁ ih₂ =>
    rw [ih₁ hsafe hone]
    apply ih₂
    · intro r hr
      exact hsafe r (hperm.mem_iff.mpr hr)
    · refine hone.perm hperm ?_
      intro r s h hboth
      exact h hboth.symm

/-- It fails exactly if none accepts. -/
theorem firstAccepted_eq_otherwise {otherwise : Res α} (hfails : ∀ a, otherwise ≠ .ok a)
    {results : List (Option (Res α))} (hsafe : ∀ result ∈ results, ∀ r ∈ result, Res.Safe r) :
    firstAccepted otherwise results = otherwise ↔ ∀ result ∈ results, ¬ Accepting result := by
  induction results with
  | nil => exact ⟨fun _ => nofun, fun _ => rfl⟩
  | cons result results ih =>
    have ih := ih fun r hr => hsafe r (List.mem_cons_of_mem _ hr)
    by_cases h : Accepting result
    · obtain ⟨a, rfl⟩ := h
      rw [firstAccepted_cons_accepting]
      constructor
      · intro heq
        exact absurd heq.symm (hfails a)
      · intro hnone
        exact absurd ⟨a, rfl⟩ (hnone _ (List.mem_cons_self ..))
    · rw [firstAccepted_cons_not (hsafe result (List.mem_cons_self ..)) h, ih, List.forall_mem_cons]
      exact ⟨fun hnone => ⟨h, hnone⟩, And.right⟩

theorem firstAccepted_cases (otherwise : Res α) {results : List (Option (Res α))}
    (hsafe : ∀ result ∈ results, ∀ r ∈ result, Res.Safe r) :
    firstAccepted otherwise results = otherwise ∨ ∃ a, firstAccepted otherwise results = .ok a := by
  induction results with
  | nil => exact .inl rfl
  | cons result results ih =>
    by_cases h : Accepting result
    · obtain ⟨a, rfl⟩ := h
      exact .inr ⟨a, rfl⟩
    · rw [firstAccepted_cons_not (hsafe result (List.mem_cons_self ..)) h]
      exact ih fun r hr => hsafe r (List.mem_cons_of_mem _ hr)

/-- The evidence of a parser, boxed. -/
theorem attempt_map {β : Type} (f : α → β) (result : Option (Res α)) :
    attempt (result.map (Except.map f)) = (attempt result).map (Option.map f) := by
  rcases result with - | (e | c) | a <;> rfl

theorem accepting_map {β : Type} (f : α → β) {result : Option (Res α)} :
    Accepting (result.map (Except.map f)) ↔ Accepting result := by
  rcases result with - | (e | c) | a <;> simp [Accepting, Except.map]

theorem safe_map {β : Type} (f : α → β) {result : Option (Res α)} (h : ∀ r ∈ result, Res.Safe r) :
    ∀ r ∈ result.map (Except.map f), Res.Safe r := by
  rcases result with - | (e | c) | a
  · nofun
  · simp [Except.map, Res.Safe]
  · exact absurd rfl (h _ rfl c)
  · simp [Except.map, Res.Safe]

end Trying

/-! ### The two parsers -/

namespace AutoEvidence

def sgxResult (cborTag : Nat) (rawEvidence : Bytes) : Option (Res AutoEvidence) :=
  (SgxDcapEvidence.createEvidenceFromDice cborTag rawEvidence).map (Except.map .sgxDcap)

def tdxResult (cborTag : Nat) (rawEvidence : Bytes) : Option (Res AutoEvidence) :=
  (TdxEvidence.createEvidenceFromDice cborTag rawEvidence).map (Except.map .tdx)

theorem results_safe (cborTag : Nat) (rawEvidence : Bytes) :
    ∀ result ∈ [sgxResult cborTag rawEvidence, tdxResult cborTag rawEvidence],
      ∀ r ∈ result, Res.Safe r := by
  intro result hresult
  rcases List.mem_cons.mp hresult with rfl | hresult
  · exact safe_map _ (createFromDice_safe (SgxDcapEvidence.newFromUnchecked_safe rawEvidence))
  · rw [List.mem_singleton.mp hresult]
    exact safe_map _ (createFromDice_safe (TdxEvidence.newFromUnchecked_safe rawEvidence))

theorem createEvidenceFromDice_eq (cborTag : Nat) (rawEvidence : Bytes) :
    createEvidenceFromDice cborTag rawEvidence =
      firstAccepted (Res.fail .unrecognizedEvidenceType (unrecognized cborTag rawEvidence))
        [sgxResult cborTag rawEvidence, tdxResult cborTag rawEvidence] := by
  rw [createEvidenceFromDice, firstAccepted, firstAccepted, firstAccepted, sgxResult, tdxResult,
    attempt_map, attempt_map]
  rcases attempt (SgxDcapEvidence.createEvidenceFromDice cborTag rawEvidence) with c | (- | sgx)
  · rfl
  · rcases attempt (TdxEvidence.createEvidenceFromDice cborTag rawEvidence) with c | (- | tdx) <;> rfl
  · rfl

theorem createEvidenceFromDice_safe (cborTag : Nat) (rawEvidence : Bytes) :
    (createEvidenceFromDice cborTag rawEvidence).Safe := by
  rw [createEvidenceFromDice_eq]
  rcases firstAccepted_cases (Res.fail .unrecognizedEvidenceType (unrecognized cborTag rawEvidence))
    (results_safe cborTag rawEvidence) with hfail | ⟨e, he⟩
  · rw [hfail]
    exact Res.safe_fail
  · rw [he]
    exact Res.safe_ok

/-- The header says which parser may take a quote. -/
theorem not_both (cborTag : Nat) (rawEvidence : Bytes) :
    ¬ (Accepting (sgxResult cborTag rawEvidence) ∧ Accepting (tdxResult cborTag rawEvidence)) := by
  intro h
  obtain ⟨hsgx, htdx⟩ := h
  rw [sgxResult, accepting_map] at hsgx
  rw [tdxResult, accepting_map] at htdx
  obtain ⟨sgx, hsgx⟩ := hsgx
  obtain ⟨tdx, htdx⟩ := htdx
  obtain ⟨-, -, hsgx⟩ := SgxDcapEvidence.create_eq_ok.mp hsgx
  obtain ⟨-, -, l, htdx⟩ := TdxEvidence.create_eq_ok.mp htdx
  have hkind := QuoteKind.Accepts.unique (k := .sgx) (m := .tdx l) hsgx htdx
  cases hkind

/-- The type of evidence, by the header of the quote. -/
def teeTypeOf (rawEvidence : Bytes) : TeeType :=
  if (headerOf rawEvidence).IsSgx then .sgxDcap else .tdx

theorem getTeeType_eq {cborTag : Nat} {rawEvidence : Bytes} {e : AutoEvidence}
    (h : createEvidenceFromDice cborTag rawEvidence = .ok e) : e.getTeeType = teeTypeOf rawEvidence := by
  obtain ⟨-, k, hk, rfl⟩ := createEvidenceFromDice_eq_ok.mp h
  cases k with
  | sgx =>
    rw [teeTypeOf, if_pos (SgxDcapEvidence.Accepted.header hk)]
    rfl
  | tdx l =>
    have hnot : ¬ (headerOf rawEvidence).IsSgx := by
      intro hsgx
      have hversion := hk.version
      have hteeType := hk.teeType
      rcases hsgx with ⟨hthree, -⟩ | ⟨-, hzero⟩
      · cases l <;> simp only [TdxEvidence.Layout.version] at hversion <;> omega
      · omega
    rw [teeTypeOf, if_neg hnot]
    rfl

/-- **Main theorem.** Of the two parsers at most one accepts, so the order in which they are tried does not
matter; creating evidence fails exactly if both reject. The type of what is created is a function of the
bytes, and it is created again from its own tag and bytes. -/
theorem dispatch_unambiguous (cborTag : Nat) (rawEvidence : Bytes) :
    (∀ sgx tdx, ¬ (SgxDcapEvidence.createEvidenceFromDice cborTag rawEvidence = some (.ok sgx) ∧
      TdxEvidence.createEvidenceFromDice cborTag rawEvidence = some (.ok tdx))) ∧
    (∀ results, results.Perm [sgxResult cborTag rawEvidence, tdxResult cborTag rawEvidence] →
      firstAccepted (Res.fail .unrecognizedEvidenceType (unrecognized cborTag rawEvidence)) results =
        createEvidenceFromDice cborTag rawEvidence) ∧
    (createEvidenceFromDice cborTag rawEvidence =
        Res.fail .unrecognizedEvidenceType (unrecognized cborTag rawEvidence) ↔
      ¬ Accepting (SgxDcapEvidence.createEvidenceFromDice cborTag rawEvidence) ∧
        ¬ Accepting (TdxEvidence.createEvidenceFromDice cborTag rawEvidence)) ∧
    (createEvidenceFromDice cborTag rawEvidence =
        Res.fail .unrecognizedEvidenceType (unrecognized cborTag rawEvidence) ∨
      ∃ e, createEvidenceFromDice cborTag rawEvidence = .ok e ∧ e.getTeeType = teeTypeOf rawEvidence ∧
        createEvidenceFromDice e.getDiceCborTag e.getDiceRawEvidence = .ok e) := by
  have hsafe := results_safe cborTag rawEvidence
  refine ⟨?_, ?_, ?_, ?_⟩
  · intro sgx tdx hboth
    apply not_both cborTag rawEvidence
    rw [sgxResult, tdxResult, accepting_map, accepting_map]
    exact ⟨⟨sgx, hboth.1⟩, ⟨tdx, hboth.2⟩⟩
  · intro results hperm
    rw [createEvidenceFromDice_eq]
    refine (firstAccepted_perm hperm.symm hsafe ?_).symm
    exact List.pairwise_pair.mpr (not_both cborTag rawEvidence)
  · have hfails : ∀ e, (Res.fail .unrecognizedEvidenceType (unrecognized cborTag rawEvidence) :
        Res AutoEvidence) ≠ .ok e := by
      intro e h
      cases h
    rw [createEvidenceFromDice_eq, firstAccepted_eq_otherwise hfails hsafe, List.forall_mem_cons,
      List.forall_mem_singleton, sgxResult, tdxResult, accepting_map, accepting_map]
  · rw [createEvidenceFromDice_eq]
    rcases firstAccepted_cases (Res.fail .unrecognizedEvidenceType (unrecognized cborTag rawEvidence)) hsafe
      with hfail | ⟨e, he⟩
    · exact .inl hfail
    · refine .inr ⟨e, he, ?_⟩
      rw [← createEvidenceFromDice_eq] at he
      refine ⟨getTeeType_eq he, ?_⟩
      -- the evidence is of the tag and the bytes it was created from
      obtain ⟨rfl, k, hk, rfl⟩ := createEvidenceFromDice_eq_ok.mp he
      have htag : (k.evidence rawEvidence).getDiceCborTag = ocbrTagEvidenceIntelTeeQuote := by
        cases k <;> rfl
      have hraw : (k.evidence rawEvidence).getDiceRawEvidence = rawEvidence := by cases k <;> rfl
      rw [htag, hraw]
      exact he

end AutoEvidence

end RatsRs.Tee
