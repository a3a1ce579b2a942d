import Mathlib.Logic.Basic

/-! Procedures.

A procedure changes a state and may fail; what it has changed before it failed stays changed. A
specification says what holds afterwards in either case: `Triple P p Q R` that from a state with `P`
the procedure returns into one with `Q`, or fails into one with `R`. -/
namespace RatsRs.Lib

abbrev Proc (σ ε : Type) := ExceptT ε (StateM σ)

namespace Proc
variable {σ ε α β : Type}

/-- What a procedure ends in and the state it leaves. -/
def exec (p : Proc σ ε α) (s : σ) : Except ε α × σ := p.run.run s

/-! ### Running -/

@[simp] theorem exec_pure (a : α) (s : σ) : (pure a : Proc σ ε α).exec s = (.ok a, s) := rfl

@[simp] theorem exec_throw (e : ε) (s : σ) : (throw e : Proc σ ε α).exec s = (.error e, s) := rfl

@[simp] theorem exec_get (s : σ) : (get : Proc σ ε σ).exec s = (.ok s, s) := rfl

@[simp] theorem exec_set (s s' : σ) : (set s' : Proc σ ε PUnit).exec s = (.ok ⟨⟩, s') := rfl

@[simp] theorem exec_modify (f : σ → σ) (s : σ) : (modify f : Proc σ ε PUnit).exec s = (.ok ⟨⟩, f s) := rfl

theorem exec_bind (p : Proc σ ε α) (f : α → Proc σ ε β) (s : σ) :
    (p >>= f).exec s =
      match p.exec s with
      | (.ok a, s') => (f a).exec s'
      | (.error e, s') => (.error e, s') := by
  unfold exec
  rw [ExceptT.run_bind, StateT.run_bind]
  rcases hp : p.run.run s with ⟨e | a, s'⟩
  · rfl
  · rfl

theorem exec_bind_ok {p : Proc σ ε α} {f : α → Proc σ ε β} {s s' : σ} {a : α} (h : p.exec s = (.ok a, s')) :
    (p >>= f).exec s = (f a).exec s' := by
  rw [exec_bind, h]

theorem exec_tryCatch (p : Proc σ ε α) (handle : ε → Proc σ ε α) (s : σ) :
    (tryCatch p handle).exec s =
      match p.exec s with
      | (.ok a, s') => (.ok a, s')
      | (.error e, s') => (handle e).exec s' := by
  unfold exec
  rw [ExceptT.run_tryCatch, StateT.run_bind]
  rcases hp : p.run.run s with ⟨e | a, s'⟩
  · rfl
  · rfl

theorem exec_map (f : α → β) (p : Proc σ ε α) (s : σ) :
    (f <$> p).exec s = ((p.exec s).1.map f, (p.exec s).2) := by
  rw [← bind_pure_comp, exec_bind]
  rcases p.exec s with ⟨e | a, s'⟩ <;> rfl

theorem ext {p q : Proc σ ε α} (h : ∀ s, p.exec s = q.exec s) : p = q := funext h

/-- A result that is there already. -/
def ofExcept : Except ε α → Proc σ ε α
  | .ok a => pure a
  | .error e => throw e

@[simp] theorem exec_ofExcept (r : Except ε α) (s : σ) : (ofExcept r : Proc σ ε α).exec s = (r, s) := by
  cases r <;> rfl

/-! ### Specifications -/

def Triple (P : σ → Prop) (p : Proc σ ε α) (Q : α → σ → Prop) (R : ε → σ → Prop) : Prop :=
  ∀ s, P s → match p.exec s with
    | (.ok a, s') => Q a s'
    | (.error e, s') => R e s'

section Rules
variable {P : σ → Prop} {p : Proc σ ε α} {Q : α → σ → Prop} {R : ε → σ → Prop}

theorem Triple.ok (h : Triple P p Q R) {s s' : σ} {a : α} (hs : P s) (hp : p.exec s = (.ok a, s')) : Q a s' := by
  have := h s hs
  rwa [hp] at this

theorem Triple.error (h : Triple P p Q R) {s s' : σ} {e : ε} (hs : P s) (hp : p.exec s = (.error e, s')) :
    R e s' := by
  have := h s hs
  rwa [hp] at this

theorem Triple.pure {a : α} (h : ∀ s, P s → Q a s) : Triple P (pure a : Proc σ ε α) Q R := h

theorem Triple.throw {e : ε} (h : ∀ s, P s → R e s) : Triple P (throw e : Proc σ ε α) Q R := h

theorem Triple.ofExcept {r : Except ε α} (hQ : ∀ a, r = .ok a → ∀ s, P s → Q a s)
    (hR : ∀ e, r = .error e → ∀ s, P s → R e s) : Triple P (ofExcept r) Q R := by
  intro s hs
  rw [exec_ofExcept]
  cases r with
  | ok a => exact hQ a rfl s hs
  | error e => exact hR e rfl s hs

theorem Triple.modify {f : σ → σ} {Q : PUnit → σ → Prop} (h : ∀ s, P s → Q ⟨⟩ (f s)) :
    Triple P (modify f : Proc σ ε PUnit) Q R := h

theorem Triple.bind {f : α → Proc σ ε β} {S : β → σ → Prop} (hp : Triple P p Q R)
    (hf : ∀ a, Triple (Q a) (f a) S R) : Triple P (p >>= f) S R := by
  intro s hs
  rw [exec_bind]
  have hps := hp s hs
  rcases hexec : p.exec s with ⟨e | a, s'⟩
  · rw [hexec] at hps
    exact hps
  · rw [hexec] at hps
    exact hf a s' hps

theorem Triple.ofExcept_bind {r : Except ε α} {f : α → Proc σ ε β} {S : β → σ → Prop}
    (hf : ∀ a, r = .ok a → Triple P (f a) S R) (hR : ∀ e, r = .error e → ∀ s, P s → R e s) :
    Triple P (Proc.ofExcept r >>= f) S R := by
  intro s hs
  rw [exec_bind, exec_ofExcept]
  cases r with
  | ok a => exact hf a rfl s hs
  | error e => exact hR e rfl s hs

/-- A failure is handled where it leaves the state. -/
theorem Triple.tryCatch {R' : ε → σ → Prop} {handle : ε → Proc σ ε α} (hp : Triple P p Q R')
    (hhandle : ∀ e, Triple (R' e) (handle e) Q R) : Triple P (tryCatch p handle) Q R := by
  intro s hs
  rw [exec_tryCatch]
  have hps := hp s hs
  rcases hexec : p.exec s with ⟨e | a, s'⟩
  · rw [hexec] at hps
    exact hhandle e s' hps
  · rw [hexec] at hps
    exact hps

/-- What is read is a state with the precondition. -/
theorem Triple.get_bind {f : σ → Proc σ ε β} {S : β → σ → Prop} (h : ∀ s, P s → Triple P (f s) S R) :
    Triple P (get >>= f) S R := by
  intro s hs
  rw [exec_bind_ok (exec_get s)]
  exact h s hs s hs

theorem Triple.consequence {P' : σ → Prop} {Q' : α → σ → Prop} {R' : ε → σ → Prop} (h : Triple P p Q R)
    (hP : ∀ s, P' s → P s) (hQ : ∀ a s, Q a s → Q' a s) (hR : ∀ e s, R e s → R' e s) : Triple P' p Q' R' := by
  intro s hs
  have hps := h s (hP s hs)
  rcases hexec : p.exec s with ⟨e | a, s'⟩
  · rw [hexec] at hps
    exact hR e s' hps
  · rw [hexec] at hps
    exact hQ a s' hps

/-! ### Invariants -/

/-- Whatever the procedure ends in, the invariant holds as before. -/
def Preserves (I : σ → Prop) (p : Proc σ ε α) : Prop := Triple I p (fun _ => I) (fun _ => I)

variable {I : σ → Prop}

theorem Preserves.pure (a : α) : Preserves I (pure a : Proc σ ε α) := fun _ h => h

theorem Preserves.throw (e : ε) : Preserves I (throw e : Proc σ ε α) := fun _ h => h

theorem Preserves.ofExcept (r : Except ε α) : Preserves I (ofExcept r : Proc σ ε α) :=
  Triple.ofExcept (fun _ _ _ h => h) fun _ _ _ h => h

theorem Preserves.modify {f : σ → σ} (h : ∀ s, I s → I (f s)) : Preserves I (modify f : Proc σ ε PUnit) := h

theorem Preserves.bind {f : α → Proc σ ε β} (hp : Preserves I p) (hf : ∀ a, Preserves I (f a)) :
    Preserves I (p >>= f) := Triple.bind hp hf

theorem Preserves.tryCatch {handle : ε → Proc σ ε α} (hp : Preserves I p) (hhandle : ∀ e, Preserves I (handle e)) :
    Preserves I (tryCatch p handle) := Triple.tryCatch hp hhandle

theorem Preserves.get_bind {f : σ → Proc σ ε β} (h : ∀ s, I s → Preserves I (f s)) :
    Preserves I (get >>= f : Proc σ ε β) := Triple.get_bind h

theorem Preserves.ite {c : Prop} [Decidable c] {q : Proc σ ε α} (hp : Preserves I p) (hq : Preserves I q) :
    Preserves I (if c then p else q) := by
  split
  · exact hp
  · exact hq

/-- What it ends in, and a state with the invariant. -/
theorem Preserves.exec (h : Preserves I p) {s : σ} (hs : I s) : ∃ r s', p.exec s = (r, s') ∧ I s' := by
  have hps := h s hs
  rcases hexec : p.exec s with ⟨e | a, s'⟩ <;>
  · rw [hexec] at hps
    exact ⟨_, s', rfl, hps⟩

end Rules

/-! ### Simulation -/

section Simulation
variable {τ : Type} {f : σ → τ}

/-- On what is seen of a state `q` does as `p` does on the state. -/
def Simulates (f : σ → τ) (p : Proc σ ε α) (q : Proc τ ε α) : Prop :=
  ∀ s, q.exec (f s) = ((p.exec s).1, f (p.exec s).2)

theorem Simulates.pure (a : α) : Simulates f (pure a : Proc σ ε α) (pure a) := fun _ => rfl

theorem Simulates.throw (e : ε) : Simulates f (throw e : Proc σ ε α) (throw e) := fun _ => rfl

theorem Simulates.ofExcept (r : Except ε α) : Simulates f (ofExcept r : Proc σ ε α) (ofExcept r) := by
  intro s
  rw [exec_ofExcept, exec_ofExcept]

theorem Simulates.modify {g : σ → σ} {g' : τ → τ} (h : ∀ s, f (g s) = g' (f s)) :
    Simulates f (modify g : Proc σ ε PUnit) (modify g') := by
  intro s
  rw [exec_modify, exec_modify, h]

theorem Simulates.bind {p : Proc σ ε α} {q : Proc τ ε α} {k : α → Proc σ ε β} {k' : α → Proc τ ε β}
    (hp : Simulates f p q) (hk : ∀ a, Simulates f (k a) (k' a)) : Simulates f (p >>= k) (q >>= k') := by
  intro s
  rw [exec_bind, exec_bind, hp s]
  rcases p.exec s with ⟨e | a, s'⟩
  · rfl
  · exact hk a s'

/-- What is read of the one is what is seen of what is read of the other. -/
theorem Simulates.get_bind {k : σ → Proc σ ε β} {k' : τ → Proc τ ε β} (h : ∀ s, Simulates f (k s) (k' (f s))) :
    Simulates f (get >>= k) (get >>= k') := by
  intro s
  rw [exec_bind_ok (exec_get _), exec_bind_ok (exec_get _)]
  exact h s s

theorem Simulates.ite {c : Prop} [Decidable c] {p p' : Proc σ ε α} {q q' : Proc τ ε α} (hp : Simulates f p q)
    (hp' : Simulates f p' q') : Simulates f (if c then p else p') (if c then q else q') := by
  split
  · exact hp
  · exact hp'

end Simulation
end Proc

end RatsRs.Lib
