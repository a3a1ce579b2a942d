import Mathlib.Data.List.Perm.Basic
import Mathlib.Data.List.Nodup

/-! Objects behind pointers.

A library that hands out pointers keeps what they point to until it is told to free it. An arena knows the
objects that are allocated and not freed, and whether a pointer to any other was ever used. Objects may
count their references (`Counted`): such an object is freed when its last reference is released. -/
namespace RatsRs.Lib

structure Arena (α : Type) where
  next : Nat
  live : List (Nat × α)
  /-- A pointer was used or freed that was not allocated any more, or never was. -/
  fault : Bool

namespace Arena
variable {α : Type}

def empty : Arena α := ⟨0, [], false⟩

def get (self : Arena α) (pointer : Nat) : Option α :=
  (self.live.find? fun object => object.1 == pointer).map (·.2)

def alloc (self : Arena α) (a : α) : Nat × Arena α :=
  (self.next, ⟨self.next + 1, (self.next, a) :: self.live, self.fault⟩)

/-- What is pointed to is changed. -/
def update (self : Arena α) (pointer : Nat) (f : α → α) : Arena α :=
  match self.get pointer with
  | some _ =>
    { self with
      live := self.live.map fun object => if object.1 = pointer then (pointer, f object.2) else object }
  | none => { self with fault := true }

def free (self : Arena α) (pointer : Nat) : Arena α :=
  match self.get pointer with
  | some _ => { self with live := self.live.filter fun object => object.1 != pointer }
  | none => { self with fault := true }

/-- The pointers that may be used. -/
def pointers (self : Arena α) : List Nat := self.live.map (·.1)

def values (self : Arena α) : List α := self.live.map (·.2)

/-- No fault so far, and no two objects behind one pointer. -/
structure Sound (arena : Arena α) : Prop where
  fault : arena.fault = false
  below : ∀ pointer ∈ arena.pointers, pointer < arena.next
  distinct : arena.pointers.Nodup

theorem sound_empty : (empty : Arena α).Sound where
  fault := rfl
  below := fun _ h => (by cases h)
  distinct := List.nodup_nil

section Operations
variable {self : Arena α} {pointer : Nat} {a : α} {f : α → α}

theorem get_eq_some_iff (h : self.Sound) : self.get pointer = some a ↔ (pointer, a) ∈ self.live := by
  obtain ⟨next, live, fault⟩ := self
  have hdistinct : (live.map (·.1)).Nodup := h.distinct
  show (live.find? fun object => object.1 == pointer).map (·.2) = some a ↔ (pointer, a) ∈ live
  clear h
  induction live with
  | nil => simp
  | cons object live ih =>
    obtain ⟨p, b⟩ := object
    rw [List.map_cons, List.nodup_cons] at hdistinct
    by_cases hp : p = pointer
    · subst hp
      rw [List.find?_cons_of_pos (by simp)]
      constructor
      · intro hb
        obtain rfl := Option.some.inj hb
        exact List.mem_cons_self ..
      · intro hmem
        rcases List.mem_cons.mp hmem with heq | hlive
        · rw [(Prod.mk.inj heq).2]
          rfl
        · exact absurd (List.mem_map_of_mem hlive) hdistinct.1
    · rw [List.find?_cons_of_neg (by simpa using hp), ih hdistinct.2]
      constructor
      · exact List.mem_cons_of_mem _
      · intro hmem
        rcases List.mem_cons.mp hmem with heq | hlive
        · exact absurd (Prod.mk.inj heq).1.symm hp
        · exact hlive

theorem mem_pointers_iff (h : self.Sound) : pointer ∈ self.pointers ↔ ∃ a, self.get pointer = some a := by
  simp only [get_eq_some_iff h, pointers, List.mem_map]
  constructor
  · rintro ⟨⟨p, a⟩, hlive, rfl⟩
    exact ⟨a, hlive⟩
  · rintro ⟨a, hlive⟩
    exact ⟨_, hlive, rfl⟩

/-! ### Allocating -/

theorem Sound.alloc (h : self.Sound) (a : α) : (self.alloc a).2.Sound where
  fault := h.fault
  below := by
    intro pointer hpointer
    rcases List.mem_cons.mp hpointer with rfl | hold
    · exact Nat.lt_succ_self _
    · exact Nat.lt_succ_of_lt (h.below pointer hold)
  distinct := List.nodup_cons.mpr ⟨fun hmem => absurd (h.below _ hmem) (Nat.lt_irrefl _), h.distinct⟩

theorem get_alloc_self : (self.alloc a).2.get (self.alloc a).1 = some a := by
  simp [get, alloc]

theorem get_alloc_of_ne (h : pointer ≠ self.next) : (self.alloc a).2.get pointer = self.get pointer := by
  unfold get alloc
  rw [List.find?_cons_of_neg (by simpa using Ne.symm h)]

theorem get_alloc_of_lt (h : pointer < self.next) : (self.alloc a).2.get pointer = self.get pointer := by
  unfold get alloc
  rw [List.find?_cons_of_neg (by simpa using Nat.ne_of_gt h)]

/-! ### Changing -/

theorem update_eq (h : pointer ∈ self.pointers) (hsound : self.Sound) :
    self.update pointer f = { self with
      live := self.live.map fun object => if object.1 = pointer then (pointer, f object.2) else object } := by
  obtain ⟨a, ha⟩ := (mem_pointers_iff hsound).mp h
  rw [update, ha]

theorem pointers_update (h : pointer ∈ self.pointers) (hsound : self.Sound) :
    (self.update pointer f).pointers = self.pointers := by
  rw [update_eq h hsound]
  unfold pointers
  rw [List.map_map]
  refine List.map_congr_left ?_
  intro object _
  dsimp only [Function.comp]
  split
  · exact (by assumption : object.1 = pointer).symm
  · rfl

theorem Sound.update (hsound : self.Sound) (h : pointer ∈ self.pointers) : (self.update pointer f).Sound where
  fault := by rw [update_eq h hsound]; exact hsound.fault
  below := by
    rw [pointers_update h hsound, update_eq h hsound]
    exact hsound.below
  distinct := by rw [pointers_update h hsound]; exact hsound.distinct

theorem get_update_self (hsound : self.Sound) (h : self.get pointer = some a) :
    (self.update pointer f).get pointer = some (f a) := by
  have hmem := (mem_pointers_iff hsound).mpr ⟨a, h⟩
  rw [get_eq_some_iff (hsound.update hmem), update_eq hmem hsound]
  exact List.mem_map.mpr ⟨(pointer, a), (get_eq_some_iff hsound).mp h, if_pos rfl⟩

theorem get_update_of_ne {other : Nat} (hsound : self.Sound) (h : pointer ∈ self.pointers)
    (hne : other ≠ pointer) : (self.update pointer f).get other = self.get other := by
  apply Option.ext
  intro b
  rw [get_eq_some_iff (hsound.update h), get_eq_some_iff hsound, update_eq h hsound, List.mem_map]
  constructor
  · rintro ⟨⟨p, c⟩, hlive, heq⟩
    split at heq
    · exact absurd (Prod.mk.inj heq).1.symm hne
    · rw [← heq]
      exact hlive
  · intro hlive
    exact ⟨(other, b), hlive, if_neg hne⟩

/-- What a change leaves alone of each object is left alone of all. -/
theorem map_values_update {β : Type} {g : α → β} (hsound : self.Sound) (h : pointer ∈ self.pointers)
    (hg : ∀ a, g (f a) = g a) : (self.update pointer f).values.map g = self.values.map g := by
  rw [update_eq h hsound]
  unfold values
  rw [List.map_map, List.map_map, List.map_map]
  refine List.map_congr_left ?_
  intro object _
  dsimp only [Function.comp]
  split
  · exact hg object.2
  · rfl

theorem update_id (hsound : self.Sound) (h : pointer ∈ self.pointers) : self.update pointer id = self := by
  rw [update_eq h hsound]
  have hlive : self.live.map (fun object => if object.1 = pointer then (pointer, id object.2) else object) =
      self.live := by
    refine List.map_id'' ?_ self.live
    intro object
    split
    next heq => exact Prod.ext heq.symm rfl
    next => rfl
  rw [hlive]

/-! ### Freeing -/

theorem pointers_free (h : pointer ∈ self.pointers) (hsound : self.Sound) :
    (self.free pointer).pointers = self.pointers.filter (· != pointer) := by
  obtain ⟨a, ha⟩ := (mem_pointers_iff hsound).mp h
  rw [free, ha]
  unfold pointers
  rw [List.filter_map]
  rfl

theorem Sound.free (hsound : self.Sound) (h : pointer ∈ self.pointers) : (self.free pointer).Sound where
  fault := by
    obtain ⟨a, ha⟩ := (mem_pointers_iff hsound).mp h
    rw [Arena.free, ha]
    exact hsound.fault
  below := by
    intro other hother
    have hnext : (self.free pointer).next = self.next := by
      obtain ⟨a, ha⟩ := (mem_pointers_iff hsound).mp h
      rw [Arena.free, ha]
    rw [pointers_free h hsound] at hother
    rw [hnext]
    exact hsound.below other (List.mem_filter.mp hother).1
  distinct := by
    rw [pointers_free h hsound]
    exact hsound.distinct.filter _

theorem get_free_self (hsound : self.Sound) (h : pointer ∈ self.pointers) :
    (self.free pointer).get pointer = none := by
  rw [← Option.not_isSome_iff_eq_none, Option.isSome_iff_exists, ← mem_pointers_iff (hsound.free h),
    pointers_free h hsound, List.mem_filter]
  simp

theorem get_free_of_ne {other : Nat} (hsound : self.Sound) (h : pointer ∈ self.pointers)
    (hne : other ≠ pointer) : (self.free pointer).get other = self.get other := by
  apply Option.ext
  intro b
  obtain ⟨a, ha⟩ := (mem_pointers_iff hsound).mp h
  rw [get_eq_some_iff (hsound.free h), get_eq_some_iff hsound, Arena.free, ha, List.mem_filter]
  simp [hne]

/-- What is there is what was freed and the rest. -/
theorem values_free (hsound : self.Sound) (h : self.get pointer = some a) :
    self.values.Perm (a :: (self.free pointer).values) := by
  have hdistinct : (self.live.map (·.1)).Nodup := hsound.distinct
  rw [free, h]
  rw [get_eq_some_iff hsound] at h
  show (self.live.map (·.2)).Perm (a :: (self.live.filter fun object => object.1 != pointer).map (·.2))
  generalize self.live = live at h hdistinct ⊢
  induction live with
  | nil => cases h
  | cons object live ih =>
    rw [List.map_cons, List.nodup_cons] at hdistinct
    rcases List.mem_cons.mp h with rfl | hlive
    · have hrest : (live.filter fun object => object.1 != pointer) = live := by
        rw [List.filter_eq_self]
        intro other hother
        rw [bne_iff_ne]
        intro heq
        exact hdistinct.1 (List.mem_map.mpr ⟨other, hother, heq⟩)
      rw [List.filter_cons_of_neg (by simp), hrest]
      exact List.Perm.refl _
    · have hne : object.1 ≠ pointer := by
        intro heq
        exact hdistinct.1 (heq ▸ List.mem_map_of_mem hlive)
      rw [List.filter_cons_of_pos (by simpa using hne)]
      exact ((ih hlive hdistinct.2).cons _).trans (List.Perm.swap ..)

/-- Freeing takes one object away. -/
theorem length_free (h : pointer ∈ self.pointers) (hsound : self.Sound) :
    (self.free pointer).pointers.length + 1 = self.pointers.length := by
  rw [pointers_free h hsound, ← hsound.distinct.erase_eq_filter pointer, List.length_erase_of_mem h]
  have := List.length_pos_of_mem h
  omega

end Operations

/-! ### Counting references -/

/-- An object with the number of its references. -/
structure Counted (α : Type) where
  references : Nat
  value : α

section References
variable (self : Arena (Counted α)) (pointer : Nat)

/-- None, if there is no such object. -/
def references : Nat := ((self.get pointer).map (·.references)).getD 0

def retain : Arena (Counted α) :=
  self.update pointer fun object => { object with references := object.references + 1 }

def release : Arena (Counted α) :=
  if 1 < self.references pointer then
    self.update pointer fun object => { object with references := object.references - 1 }
  else self.free pointer

def updateValue (f : α → α) : Arena (Counted α) :=
  self.update pointer fun object => { object with value := f object.value }

/-- Every object that is there has a reference. -/
structure Referenced (arena : Arena (Counted α)) : Prop where
  sound : arena.Sound
  positive : ∀ pointer object, arena.get pointer = some object → 0 < object.references

end References

section References
variable {self : Arena (Counted α)} {pointer other : Nat}

theorem references_of_get {object : Counted α} (h : self.get pointer = some object) :
    self.references pointer = object.references := by
  rw [references, h]
  rfl

theorem mem_of_references (h : self.Sound) (hpos : 0 < self.references pointer) : pointer ∈ self.pointers := by
  rw [mem_pointers_iff h]
  cases hget : self.get pointer with
  | some object => exact ⟨object, rfl⟩
  | none =>
    rw [references, hget] at hpos
    cases hpos

theorem Referenced.references_pos (h : self.Referenced) (hmem : pointer ∈ self.pointers) :
    0 < self.references pointer := by
  obtain ⟨object, hget⟩ := (mem_pointers_iff h.sound).mp hmem
  rw [references_of_get hget]
  exact h.positive pointer object hget

/-- A change of an object is one of its references, and of those of no other object. -/
theorem references_update {f : Counted α → Counted α} {g : Nat → Nat} (h : self.Sound)
    (hmem : pointer ∈ self.pointers) (hf : ∀ object, (f object).references = g object.references) :
    (self.update pointer f).references other =
      if pointer = other then g (self.references other) else self.references other := by
  split
  next heq =>
    subst heq
    obtain ⟨object, hget⟩ := (mem_pointers_iff h).mp hmem
    rw [references_of_get (get_update_self h hget), references_of_get hget]
    exact hf object
  next hne => rw [references, get_update_of_ne h hmem (Ne.symm hne), references]

theorem Referenced.update {f : Counted α → Counted α} (h : self.Referenced) (hmem : pointer ∈ self.pointers)
    (hf : ∀ object, self.get pointer = some object → 0 < (f object).references) :
    (self.update pointer f).Referenced where
  sound := h.sound.update hmem
  positive := by
    intro other object hget
    by_cases hother : other = pointer
    · subst hother
      obtain ⟨before, hbefore⟩ := (mem_pointers_iff h.sound).mp hmem
      rw [get_update_self h.sound hbefore] at hget
      obtain rfl := Option.some.inj hget
      exact hf before hbefore
    · rw [get_update_of_ne h.sound hmem hother] at hget
      exact h.positive other object hget

theorem Referenced.alloc (h : self.Referenced) (a : α) : (self.alloc ⟨1, a⟩).2.Referenced where
  sound := h.sound.alloc _
  positive := by
    intro other object hget
    by_cases hother : other = self.next
    · rw [hother] at hget
      obtain rfl := Option.some.inj (get_alloc_self.symm.trans hget)
      exact Nat.one_pos
    · rw [get_alloc_of_ne hother] at hget
      exact h.positive other object hget

theorem references_alloc (h : self.Sound) (a : α) :
    (self.alloc ⟨1, a⟩).2.references other = self.references other + if self.next = other then 1 else 0 := by
  split
  next heq =>
    subst heq
    have hnone : self.references self.next = 0 := by
      by_contra hpos
      exact Nat.lt_irrefl _ (h.below _ (mem_of_references h (Nat.pos_of_ne_zero hpos)))
    have hget : (self.alloc ⟨1, a⟩).2.get self.next = some ⟨1, a⟩ := get_alloc_self
    rw [hnone, references_of_get hget]
  next hne => rw [references, get_alloc_of_ne (Ne.symm hne), references, Nat.add_zero]

theorem Referenced.retain (h : self.Referenced) (hmem : pointer ∈ self.pointers) : (self.retain pointer).Referenced :=
  h.update hmem fun _ _ => Nat.succ_pos _

theorem references_retain (h : self.Sound) (hmem : pointer ∈ self.pointers) :
    (self.retain pointer).references other = self.references other + if pointer = other then 1 else 0 := by
  rw [Arena.retain, references_update (g := (· + 1)) h hmem fun _ => rfl]
  split <;> rfl

theorem Referenced.updateValue {f : α → α} (h : self.Referenced) (hmem : pointer ∈ self.pointers) :
    (self.updateValue pointer f).Referenced :=
  h.update hmem fun object hget => h.positive pointer object hget

theorem references_updateValue {f : α → α} (h : self.Sound) (hmem : pointer ∈ self.pointers) :
    (self.updateValue pointer f).references other = self.references other := by
  have hupdate : (self.updateValue pointer f).references other =
      if pointer = other then self.references other else self.references other :=
    references_update (g := id) h hmem fun _ => rfl
  rw [hupdate]
  exact ite_id _

theorem Referenced.release (h : self.Referenced) (hmem : pointer ∈ self.pointers) :
    (self.release pointer).Referenced := by
  unfold Arena.release
  split
  next hmore =>
    refine h.update hmem ?_
    intro object hget
    rw [references_of_get hget] at hmore
    exact Nat.sub_pos_of_lt hmore
  next =>
    refine ⟨h.sound.free hmem, ?_⟩
    intro other object hget
    by_cases hother : other = pointer
    · rw [hother, get_free_self h.sound hmem] at hget
      cases hget
    · rw [get_free_of_ne h.sound hmem hother] at hget
      exact h.positive other object hget

/-- Whether it is freed or not, an object that is released has a reference less. -/
theorem references_release (h : self.Referenced) (hmem : pointer ∈ self.pointers) :
    self.references other = (self.release pointer).references other + if pointer = other then 1 else 0 := by
  have hpos := h.references_pos hmem
  unfold Arena.release
  split
  next hmore =>
    rw [references_update (g := (· - 1)) h.sound hmem fun _ => rfl]
    split
    next heq =>
      subst heq
      omega
    next => rfl
  next hlast =>
    split
    next heq =>
      subst heq
      have hfreed : (self.free pointer).references pointer = 0 := by
        rw [references, get_free_self h.sound hmem]
        rfl
      omega
    next hne =>
      rw [Nat.add_zero]
      unfold references
      rw [get_free_of_ne h.sound hmem (Ne.symm hne)]

/-- A release frees nothing else. -/
theorem mem_release_of_ne (h : self.Sound) (hmem : pointer ∈ self.pointers) (hother : other ∈ self.pointers)
    (hne : other ≠ pointer) : other ∈ (self.release pointer).pointers := by
  unfold Arena.release
  split
  · rwa [pointers_update hmem h]
  · rw [pointers_free hmem h, List.mem_filter, bne_iff_ne]
    exact ⟨hother, hne⟩

theorem mem_of_mem_release (h : self.Sound) (hmem : pointer ∈ self.pointers)
    (hother : other ∈ (self.release pointer).pointers) : other ∈ self.pointers := by
  unfold Arena.release at hother
  split at hother
  · rwa [pointers_update hmem h] at hother
  · rw [pointers_free hmem h, List.mem_filter] at hother
    exact hother.1

end References
end Arena

end RatsRs.Lib
