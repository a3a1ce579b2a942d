import RatsRs.Lib.Bytes

/-! Packed records.

A packed record is the list of its fields, each with its size; a field starts where
the fields before it end. Two facts are used of any such record: every field lies
inside it, and two fields share no byte. -/
namespace RatsRs.Lib

abbrev Packed (F : Type) := List (F × Nat)

namespace Packed
variable {F : Type}

def size (l : Packed F) : Nat := (l.map Prod.snd).sum

def fields (l : Packed F) : List F := l.map Prod.fst

variable [DecidableEq F]

def offsetOf (l : Packed F) (f : F) : Nat :=
  match l with
  | [] => 0
  | (g, n) :: rest => if g = f then 0 else n + offsetOf rest f

def sizeOf (l : Packed F) (f : F) : Nat :=
  match l with
  | [] => 0
  | (g, n) :: rest => if g = f then n else sizeOf rest f

/-- Where field `f` of a record that starts at `base` is. -/
def span (l : Packed F) (base : Nat) (f : F) : Span := ⟨base + l.offsetOf f, l.sizeOf f⟩

theorem offsetOf_add_sizeOf_le (l : Packed F) (f : F) : l.offsetOf f + l.sizeOf f ≤ l.size := by
  induction l with
  | nil => simp [offsetOf, sizeOf]
  | cons e rest ih =>
    obtain ⟨g, n⟩ := e
    have hsize : size ((g, n) :: rest) = n + size rest := by simp [size]
    by_cases hg : g = f
    · simp only [offsetOf, sizeOf, hg, if_true]
      rw [← hg, hsize]
      omega
    · simp only [offsetOf, sizeOf, hg, if_false]
      rw [hsize]
      omega

/-- A record inside a string has its fields inside the string. -/
theorem span_within {l : Packed F} {base : Nat} {b : Bytes} (h : base + l.size ≤ b.length) (f : F) :
    (l.span base f).Within b := by
  have := l.offsetOf_add_sizeOf_le f
  simp only [Span.Within, span]
  omega

theorem span_disjoint_base {l : Packed F} {f g : F} (hf : f ∈ l.fields) (hg : g ∈ l.fields)
    (h : f ≠ g) :
    l.offsetOf f + l.sizeOf f ≤ l.offsetOf g ∨ l.offsetOf g + l.sizeOf g ≤ l.offsetOf f := by
  induction l with
  | nil => cases hf
  | cons e rest ih =>
    obtain ⟨x, n⟩ := e
    rw [fields, List.map_cons, List.mem_cons] at hf hg
    by_cases hx : x = f
    · subst hx
      simp [offsetOf, sizeOf, h]
    · by_cases hy : x = g
      · subst hy
        simp [offsetOf, sizeOf, hx]
      · have := ih (hf.resolve_left (fun he => hx he.symm)) (hg.resolve_left (fun he => hy he.symm))
        simp only [offsetOf, sizeOf, hx, hy, if_false]
        omega

/-- **Distinct fields share no byte.** -/
theorem span_disjoint {l : Packed F} (base : Nat) {f g : F} (hf : f ∈ l.fields) (hg : g ∈ l.fields)
    (h : f ≠ g) : (l.span base f).Disjoint (l.span base g) := by
  have := span_disjoint_base hf hg h
  simp only [Span.Disjoint, span]
  omega

end Packed

end RatsRs.Lib
