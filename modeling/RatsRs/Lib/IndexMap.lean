import Mathlib.Tactic
import Mathlib.Data.List.Nodup

/-! Maps that remember insertion order.

A map is its list of entries, each key once (`nodup`): inserting a key that is
there replaces the value where it stands, inserting another appends. Besides
lookup after an insertion, the file says what adding only the *new* keys of a list
does (`addNew`): the entries it started from stay in front, untouched. -/
namespace RatsRs.Lib

structure IndexMap (κ ν : Type) where
  entries : List (κ × ν)
  nodup : (entries.map Prod.fst).Nodup

namespace IndexMap
variable {κ ν : Type}

@[ext] theorem ext {m n : IndexMap κ ν} (h : m.entries = n.entries) : m = n := by
  cases m
  cases n
  simpa using h

instance [DecidableEq κ] [DecidableEq ν] : DecidableEq (IndexMap κ ν) := fun m n =>
  decidable_of_iff (m.entries = n.entries) ⟨ext, fun h => h ▸ rfl⟩

def empty : IndexMap κ ν := ⟨[], List.nodup_nil⟩

def keys (m : IndexMap κ ν) : List κ := m.entries.map Prod.fst

def size (m : IndexMap κ ν) : Nat := m.entries.length

variable [DecidableEq κ]

def get (m : IndexMap κ ν) (k : κ) : Option ν := m.entries.lookup k

def containsKey (m : IndexMap κ ν) (k : κ) : Bool := decide (k ∈ m.keys)

/-- The entries after inserting `k`: replaced in place, or appended. -/
def upsert (k : κ) (v : ν) : List (κ × ν) → List (κ × ν)
  | [] => [(k, v)]
  | e :: rest => if e.1 = k then (k, v) :: rest else e :: upsert k v rest

theorem mem_keys_upsert (k : κ) (v : ν) (l : List (κ × ν)) (x : κ) :
    x ∈ (upsert k v l).map Prod.fst ↔ x = k ∨ x ∈ l.map Prod.fst := by
  induction l with
  | nil => simp [upsert]
  | cons e rest ih =>
    by_cases he : e.1 = k
    · simp [upsert, he]
    · simp only [upsert, he, if_false, List.map_cons, List.mem_cons, ih]
      tauto

theorem nodup_upsert (k : κ) (v : ν) (l : List (κ × ν)) (h : (l.map Prod.fst).Nodup) :
    ((upsert k v l).map Prod.fst).Nodup := by
  induction l with
  | nil => simp [upsert]
  | cons e rest ih =>
    rw [List.map_cons, List.nodup_cons] at h
    by_cases he : e.1 = k
    · rw [upsert, if_pos he, List.map_cons, List.nodup_cons]
      exact ⟨he ▸ h.1, h.2⟩
    · rw [upsert, if_neg he, List.map_cons, List.nodup_cons, mem_keys_upsert]
      exact ⟨fun hk => hk.elim he h.1, ih h.2⟩

def insert (m : IndexMap κ ν) (k : κ) (v : ν) : IndexMap κ ν :=
  ⟨upsert k v m.entries, nodup_upsert k v m.entries m.nodup⟩

/-- The map a sequence of insertions builds. -/
def ofList (l : List (κ × ν)) : IndexMap κ ν := l.foldl (fun m e => m.insert e.1 e.2) empty

/-- Inserts each entry whose key is not there yet. -/
def addNew (m : IndexMap κ ν) (l : List (κ × ν)) : IndexMap κ ν :=
  l.foldl (fun m e => if m.containsKey e.1 then m else m.insert e.1 e.2) m

/-! ### Lookup -/

@[simp] theorem containsKey_iff {m : IndexMap κ ν} {k : κ} : m.containsKey k = true ↔ k ∈ m.keys := by
  simp [containsKey]

theorem lookup_cons (e : κ × ν) (l : List (κ × ν)) (k : κ) :
    (e :: l).lookup k = if k = e.1 then some e.2 else l.lookup k := by
  rw [List.lookup_cons]
  by_cases h : k = e.1
  · rw [if_pos h, beq_iff_eq.mpr h]
  · rw [if_neg h, beq_eq_false_iff_ne.mpr h]

theorem lookup_eq_none_iff {l : List (κ × ν)} {k : κ} :
    l.lookup k = none ↔ k ∉ l.map Prod.fst := by
  induction l with
  | nil => simp
  | cons e rest ih =>
    rw [lookup_cons, List.map_cons, List.mem_cons, not_or, ← ih]
    by_cases he : k = e.1 <;> simp [he]

theorem get_eq_none_iff {m : IndexMap κ ν} {k : κ} : m.get k = none ↔ k ∉ m.keys :=
  lookup_eq_none_iff

theorem lookup_eq_some_iff {l : List (κ × ν)} (h : (l.map Prod.fst).Nodup) {k : κ} {v : ν} :
    l.lookup k = some v ↔ (k, v) ∈ l := by
  induction l with
  | nil => simp
  | cons e rest ih =>
    rw [List.map_cons, List.nodup_cons] at h
    obtain ⟨a, b⟩ := e
    rw [lookup_cons, List.mem_cons, Prod.mk.injEq]
    by_cases he : k = a
    · subst he
      have hnot : (k, v) ∉ rest := fun hm => h.1 (List.mem_map.mpr ⟨(k, v), hm, rfl⟩)
      simp [hnot, eq_comm]
    · rw [if_neg he, ih h.2]
      simp [he]

/-- Looking a key up finds its entry and nothing else. -/
theorem get_eq_some_iff {m : IndexMap κ ν} {k : κ} {v : ν} :
    m.get k = some v ↔ (k, v) ∈ m.entries :=
  lookup_eq_some_iff m.nodup

/-- The order of the entries is nothing to a lookup. -/
theorem get_perm {m n : IndexMap κ ν} (h : m.entries.Perm n.entries) (k : κ) : m.get k = n.get k := by
  apply Option.ext
  intro v
  rw [get_eq_some_iff, get_eq_some_iff, h.mem_iff]

theorem exists_get_of_mem {m : IndexMap κ ν} {k : κ} (h : k ∈ m.keys) : ∃ v, m.get k = some v := by
  cases hg : m.get k with
  | none => exact absurd h (get_eq_none_iff.mp hg)
  | some v => exact ⟨v, rfl⟩

theorem lookup_upsert (k : κ) (v : ν) (l : List (κ × ν)) (x : κ) :
    (upsert k v l).lookup x = if x = k then some v else l.lookup x := by
  induction l with
  | nil => rw [upsert, lookup_cons]
  | cons e rest ih =>
    by_cases he : e.1 = k
    · subst he
      rw [upsert, if_pos rfl, lookup_cons, lookup_cons]
      by_cases hx : x = e.1 <;> simp [hx]
    · rw [upsert, if_neg he, lookup_cons, lookup_cons, ih]
      by_cases hx : x = e.1
      · subst hx
        simp [he]
      · simp [hx]

theorem get_insert (m : IndexMap κ ν) (k : κ) (v : ν) (x : κ) :
    (m.insert k v).get x = if x = k then some v else m.get x :=
  lookup_upsert k v m.entries x

@[simp] theorem get_insert_self (m : IndexMap κ ν) (k : κ) (v : ν) :
    (m.insert k v).get k = some v := by
  rw [get_insert, if_pos rfl]

/-- Of the entries with one key, the last counts. -/
theorem get_ofList (l : List (κ × ν)) (k : κ) : (ofList l).get k = l.reverse.lookup k := by
  induction l using List.reverseRecOn with
  | nil => rfl
  | append_singleton l e ih =>
    rw [List.reverse_append, List.reverse_singleton, List.singleton_append, lookup_cons, ← ih, ofList,
      List.foldl_append]
    exact get_insert _ e.1 e.2 k

theorem mem_upsert {k : κ} {v : ν} {l : List (κ × ν)} {e : κ × ν} (h : e ∈ upsert k v l) :
    e = (k, v) ∨ e ∈ l := by
  induction l with
  | nil => exact .inl (List.mem_singleton.mp h)
  | cons d rest ih =>
    rw [upsert] at h
    split at h
    · exact (List.mem_cons.mp h).imp_right (List.mem_cons_of_mem d)
    · rcases List.mem_cons.mp h with rfl | hrest
      · exact .inr List.mem_cons_self
      · exact (ih hrest).imp_right (List.mem_cons_of_mem d)

theorem length_upsert_le (k : κ) (v : ν) (l : List (κ × ν)) : (upsert k v l).length ≤ l.length + 1 := by
  induction l with
  | nil => exact Nat.le_refl 1
  | cons d rest ih =>
    rw [upsert]
    split <;> simp only [List.length_cons] <;> omega

/-- A map built from entries has some of them, and nothing else. -/
theorem ofList_sub (l : List (κ × ν)) :
    (∀ e ∈ (ofList l).entries, e ∈ l) ∧ (ofList l).size ≤ l.length := by
  induction l using List.reverseRecOn with
  | nil => exact ⟨fun _ he => he, Nat.le_refl 0⟩
  | append_singleton l e ih =>
    have hstep : (ofList (l ++ [e])).entries = upsert e.1 e.2 (ofList l).entries := by
      rw [ofList, List.foldl_append]
      rfl
    constructor
    · intro d hd
      rw [hstep] at hd
      rw [List.mem_append, List.mem_singleton]
      rcases mem_upsert hd with rfl | hold
      · exact .inr rfl
      · exact .inl (ih.1 d hold)
    · have hlen := length_upsert_le e.1 e.2 (ofList l).entries
      have hold := ih.2
      rw [size] at hold
      rw [size, hstep, List.length_append, List.length_singleton]
      omega

/-! ### Insertion order -/

theorem upsert_of_not_mem (k : κ) (v : ν) (l : List (κ × ν)) (h : k ∉ l.map Prod.fst) :
    upsert k v l = l ++ [(k, v)] := by
  induction l with
  | nil => rfl
  | cons e rest ih =>
    rw [List.map_cons, List.mem_cons, not_or] at h
    rw [upsert, if_neg (fun he => h.1 he.symm), ih h.2, List.cons_append]

theorem entries_insert_new (m : IndexMap κ ν) (k : κ) (v : ν) (h : k ∉ m.keys) :
    (m.insert k v).entries = m.entries ++ [(k, v)] :=
  upsert_of_not_mem k v m.entries h

/-- Inserting entries with new, distinct keys appends them in order. -/
theorem entries_foldl_insert (l : List (κ × ν)) (m : IndexMap κ ν)
    (h : ((m.entries ++ l).map Prod.fst).Nodup) :
    (l.foldl (fun m e => m.insert e.1 e.2) m).entries = m.entries ++ l := by
  induction l generalizing m with
  | nil => simp
  | cons e rest ih =>
    have hnew : e.1 ∉ m.keys := by
      rw [List.map_append, List.nodup_append] at h
      intro hm
      exact h.2.2 e.1 hm e.1 (by simp) rfl
    have hins := entries_insert_new m e.1 e.2 hnew
    rw [List.foldl_cons, ih _ (by rw [hins]; simpa using h), hins, List.append_assoc]
    rfl

/-- Distinct keys are kept in the order they come. -/
theorem ofList_entries (l : List (κ × ν)) (h : (l.map Prod.fst).Nodup) :
    (ofList l).entries = l := by
  rw [ofList, entries_foldl_insert l empty (by simpa [empty] using h)]
  rfl

theorem ofList_eq (m : IndexMap κ ν) : ofList m.entries = m :=
  ext (ofList_entries m.entries m.nodup)

/-- **Adding new keys** leaves what was there in front and appends, in order, the
entries whose keys were not. -/
theorem addNew_entries (m : IndexMap κ ν) (l : List (κ × ν)) (h : (l.map Prod.fst).Nodup) :
    (m.addNew l).entries = m.entries ++ l.filter (fun e => decide (e.1 ∉ m.keys)) := by
  induction l generalizing m with
  | nil => simp [addNew]
  | cons e rest ih =>
    rw [List.map_cons, List.nodup_cons] at h
    by_cases hm : e.1 ∈ m.keys
    · have hstep : m.addNew (e :: rest) = m.addNew rest := by
        simp [addNew, containsKey, hm]
      rw [hstep, ih m h.2, List.filter_cons, if_neg (by simpa using hm)]
    · have hstep : m.addNew (e :: rest) = (m.insert e.1 e.2).addNew rest := by
        simp [addNew, containsKey, hm]
      -- The key just inserted does not occur again, so the filter is the old one.
      have hfilter : rest.filter (fun x => decide (x.1 ∉ (m.insert e.1 e.2).keys)) =
          rest.filter (fun x => decide (x.1 ∉ m.keys)) := by
        apply List.filter_congr
        intro x hx
        have hne : x.1 ≠ e.1 := fun he => h.1 (he ▸ List.mem_map_of_mem (f := Prod.fst) hx)
        have hkeys : x.1 ∈ (m.insert e.1 e.2).keys ↔ x.1 ∈ m.keys := by
          simp only [keys, insert, mem_keys_upsert, hne, false_or]
        simp only [hkeys]
      rw [hstep, ih _ h.2, entries_insert_new m _ _ hm, hfilter, List.filter_cons,
        if_pos (by simpa using hm), List.append_assoc]
      rfl

/-- After adding new keys, a key that was there has its old value and any other
key the value the list gives it. -/
theorem get_addNew (m : IndexMap κ ν) (l : List (κ × ν)) (k : κ) :
    (m.addNew l).get k = (m.get k).or (l.lookup k) := by
  induction l generalizing m with
  | nil => simp [addNew]
  | cons e rest ih =>
    by_cases hm : e.1 ∈ m.keys
    · have hstep : m.addNew (e :: rest) = m.addNew rest := by
        simp [addNew, containsKey, hm]
      rw [hstep, ih, lookup_cons]
      by_cases hk : k = e.1
      · obtain ⟨v, hv⟩ := exists_get_of_mem (hk ▸ hm)
        simp [hv]
      · rw [if_neg hk]
    · have hstep : m.addNew (e :: rest) = (m.insert e.1 e.2).addNew rest := by
        simp [addNew, containsKey, hm]
      rw [hstep, ih, get_insert, lookup_cons]
      by_cases hk : k = e.1
      · have hnone : m.get k = none := get_eq_none_iff.mpr (hk ▸ hm)
        rw [if_pos hk, if_pos hk, hnone]
        rfl
      · rw [if_neg hk, if_neg hk]

end IndexMap

end RatsRs.Lib
