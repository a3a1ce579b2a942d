import Mathlib.Data.List.Basic

/-! Logs with counters.

A sender numbers what it sends with a counter that only goes up, a receiver counts what it takes. If it
takes only what has the number it has counted to, then what it has taken is a first part of what was
sent, without a gap, whatever it was offered in between. -/
namespace RatsRs.Lib
variable {α : Type}

/-- Numbered one after the other. -/
def numbered (base : Nat) : List α → List (Nat × α)
  | [] => []
  | a :: as => (base, a) :: numbered (base + 1) as

theorem numbered_append (base : Nat) (as bs : List α) :
    numbered base (as ++ bs) = numbered base as ++ numbered (base + as.length) bs := by
  induction as generalizing base with
  | nil => rfl
  | cons a as ih =>
    simp only [List.cons_append, numbered, ih, List.length_cons]
    rw [Nat.add_right_comm, Nat.add_assoc]

theorem map_snd_numbered (base : Nat) (as : List α) : (numbered base as).map Prod.snd = as := by
  induction as generalizing base with
  | nil => rfl
  | cons a as ih => rw [numbered, List.map_cons, ih]

theorem bounds_of_mem_numbered {base : Nat} {as : List α} {x : Nat × α} (h : x ∈ numbered base as) :
    base ≤ x.1 ∧ x.1 < base + as.length := by
  induction as generalizing base with
  | nil => cases h
  | cons a as ih =>
    rw [List.length_cons]
    rcases List.mem_cons.mp h with rfl | hrest
    · exact ⟨Nat.le_refl _, by omega⟩
    · obtain ⟨hlow, hhigh⟩ := ih hrest
      omega

/-- The numbers of a log go up. -/
def Increasing (log : List (Nat × α)) : Prop := log.Pairwise fun x y => x.1 < y.1

theorem numbered_increasing (base : Nat) (as : List α) : Increasing (numbered base as) := by
  induction as generalizing base with
  | nil => exact .nil
  | cons a as ih =>
    refine .cons (fun x hx => ?_) (ih (base + 1))
    exact (bounds_of_mem_numbered hx).1

theorem Increasing.push {log : List (Nat × α)} {n : Nat} (a : α) (h : Increasing log)
    (below : ∀ x ∈ log, x.1 < n) : Increasing (log ++ [(n, a)]) := by
  refine List.pairwise_append.mpr ⟨h, List.pairwise_singleton _ _, ?_⟩
  intro x hx y hy
  rw [List.mem_singleton.mp hy]
  exact below x hx

/-- What has the next number stands next in the log. -/
theorem Increasing.next {log : List (Nat × α)} {base : Nat} {taken : List α} {a : α}
    (h : Increasing log) (above : ∀ x ∈ log, base ≤ x.1) (starts : numbered base taken <+: log)
    (next : (base + taken.length, a) ∈ log) : numbered base (taken ++ [a]) <+: log := by
  obtain ⟨rest, rfl⟩ := starts
  have hrest : (base + taken.length, a) ∈ rest := by
    rcases List.mem_append.mp next with hold | hnew
    · have := (bounds_of_mem_numbered hold).2
      omega
    · exact hnew
  obtain ⟨-, hsorted, hapart⟩ := List.pairwise_append.mp h
  -- nothing in the rest has a number before the next
  have hlow : ∀ x ∈ rest, base + taken.length ≤ x.1 := by
    intro x hx
    cases taken.eq_nil_or_concat' with
    | inl hnil =>
      rw [hnil, List.length_nil, Nat.add_zero]
      exact above x (List.mem_append_right _ hx)
    | inr hlast =>
      obtain ⟨front, last, rfl⟩ := hlast
      have hmem : (base + front.length, last) ∈ numbered base (front ++ [last]) := by
        rw [numbered_append]
        exact List.mem_append_right _ (List.mem_singleton_self _)
      have := hapart _ hmem x hx
      rw [List.length_append, List.length_singleton]
      omega
  cases rest with
  | nil => cases hrest
  | cons x rest =>
    rw [numbered_append]
    rcases List.mem_cons.mp hrest with hhead | hlater
    · rw [← hhead]
      exact ⟨rest, by simp [numbered]⟩
    · have hlt := (List.pairwise_cons.mp hsorted).1 _ hlater
      have hle := hlow x (List.mem_cons_self ..)
      omega

end RatsRs.Lib
