import Mathlib.Data.List.Basic

/-! Tables.

A table is a list whose entries are looked up by their index and never leave: one is changed where it is, set, or
added at the end. Here is what such a step keeps of every entry, and what it changes of a view of the table. -/
namespace RatsRs.Lib
variable {α β : Type}

/-! ### Of every entry -/

section Entries
variable {q : Nat → α → Prop} {l : List α} {i : Nat} {a : α}

theorem forall_getElem?_modify {f : α → α} (h : ∀ j a, l[j]? = some a → q j a)
    (hf : ∀ a, l[i]? = some a → q i a → q i (f a)) :
    ∀ j a, (l.modify i f)[j]? = some a → q j a := by
  intro j a ha
  rw [List.getElem?_modify] at ha
  obtain ⟨b, hb, rfl⟩ := Option.map_eq_some_iff.mp ha
  by_cases hij : i = j
  · subst hij
    rw [if_pos rfl]
    exact hf b hb (h i b hb)
  · rw [if_neg hij]
    exact h j b hb

theorem forall_getElem?_concat (h : ∀ j b, l[j]? = some b → q j b) (ha : q l.length a) :
    ∀ j b, (l ++ [a])[j]? = some b → q j b := by
  intro j b hb
  rw [List.getElem?_append] at hb
  split at hb
  next => exact h j b hb
  next hle =>
    cases hsub : j - l.length with
    | zero =>
      rw [hsub] at hb
      obtain rfl := Option.some.inj hb
      rwa [show j = l.length by omega]
    | succ n =>
      rw [hsub] at hb
      cases hb

theorem forall_getElem?_set (h : ∀ j b, l[j]? = some b → q j b) (ha : q i a) :
    ∀ j b, (l.set i a)[j]? = some b → q j b := by
  intro j b hb
  rw [List.getElem?_set] at hb
  split at hb
  next hij =>
    subst hij
    split at hb
    next => exact Option.some.inj hb ▸ ha
    next => cases hb
  next => exact h j b hb

end Entries

/-! ### Views -/

theorem modify_of_fixed {l : List α} {i : Nat} {f : α → α} (h : ∀ a, l[i]? = some a → f a = a) :
    l.modify i f = l := by
  apply List.ext_getElem?
  intro j
  rw [List.getElem?_modify]
  cases hj : l[j]? with
  | none => rfl
  | some a =>
    refine congrArg some ?_
    dsimp only
    split
    next hij => exact h a (hij ▸ hj)
    next => rfl

theorem map_modify {l : List α} {i : Nat} {f : α → α} {g : α → β} {k : β → β}
    (h : ∀ a, g (f a) = k (g a)) : (l.modify i f).map g = (l.map g).modify i k := by
  apply List.ext_getElem?
  intro j
  simp only [List.getElem?_map, List.getElem?_modify, Option.map_eq_map, Option.map_map]
  congr 1
  funext a
  dsimp only [Function.comp]
  split
  · exact h a
  · rfl

/-- Changes that do not depend on each other. -/
theorem modify_modify_comm {l : List α} {i j : Nat} {f g : α → α} (h : ∀ a, f (g a) = g (f a)) :
    (l.modify i f).modify j g = (l.modify j g).modify i f := by
  apply List.ext_getElem?
  intro k
  simp only [List.getElem?_modify, Option.map_eq_map, Option.map_map]
  congr 1
  funext a
  dsimp only [Function.comp]
  split <;> split
  · exact (h a).symm
  · rfl
  · rfl
  · rfl

/-- What `g` does not see. -/
theorem map_modify_of_eq {l : List α} {i : Nat} {f : α → α} {g : α → β} (h : ∀ a, g (f a) = g a) :
    (l.modify i f).map g = l.map g :=
  (map_modify (k := id) h).trans (modify_of_fixed fun _ _ => rfl)

end RatsRs.Lib
