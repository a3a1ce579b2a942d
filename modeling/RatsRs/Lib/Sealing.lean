import RatsRs.Lib.Bytes

/-! Authenticated records.

A record is sealed under a key, for a direction and with a counter, and opens only there:
what opens was sealed for just this direction with just this counter. -/
namespace RatsRs.Lib

structure Sealing (Key Direction : Type) where
  seals : Key → Direction → Nat → Bytes → Bytes
  opens : Key → Direction → Nat → Bytes → Option Bytes
  opens_seals : ∀ k d n m, opens k d n (seals k d n m) = some m
  authentic : ∀ {k d n r m}, opens k d n r = some m → r = seals k d n m
  separates : ∀ {k d d' n n' m m'}, seals k d n m = seals k d' n' m' → d = d' ∧ n = n'

namespace Sealing
variable {Key Direction : Type} (S : Sealing Key Direction)

/-- A record does not open in another direction, whatever its counter. -/
theorem opens_other {k : Key} {d d' : Direction} (h : d ≠ d') (n n' : Nat) (m : Bytes) :
    S.opens k d n (S.seals k d' n' m) = none := by
  cases hopen : S.opens k d n (S.seals k d' n' m) with
  | none => rfl
  | some m' => exact absurd (S.separates (S.authentic hopen)).1.symm h

end Sealing

/-! ### A sealing that hides nothing -/

/-- Direction, counter and message in plain: the counter as that many ones and a zero. -/
def plainRecord (d : Bool) (n : Nat) (m : Bytes) : Bytes :=
  (if d then 1 else 0) :: (List.replicate n 1 ++ 0 :: m)

theorem plainRecord_inj {d d' : Bool} {n n' : Nat} {m m' : Bytes}
    (h : plainRecord d n m = plainRecord d' n' m') : d = d' ∧ n = n' ∧ m = m' := by
  obtain ⟨hd, hrest⟩ := List.cons.inj h
  have hdir : d = d' := by
    cases d <;> cases d' <;> first | rfl | exact absurd hd (by decide)
  refine ⟨hdir, ?_⟩
  clear hd hdir h
  induction n generalizing n' with
  | zero =>
    cases n' with
    | zero => exact ⟨rfl, (List.cons.inj hrest).2⟩
    | succ n' => exact absurd (List.cons.inj hrest).1 (by decide)
  | succ n ih =>
    cases n' with
    | zero => exact absurd (List.cons.inj hrest).1 (by decide)
    | succ n' =>
      obtain ⟨hn, hm⟩ := ih (List.cons.inj hrest).2
      exact ⟨by rw [hn], hm⟩

/-- The message of a record with this front. -/
def plainOpen (d : Bool) (n : Nat) (r : Bytes) : Option Bytes :=
  let front := plainRecord d n []
  if front <+: r then some (r.drop front.length) else none

theorem plainRecord_eq (d : Bool) (n : Nat) (m : Bytes) :
    plainRecord d n m = plainRecord d n [] ++ m := by
  simp [plainRecord]

/-- A sealing that keeps no secret: it obeys the laws, and it can be computed. -/
def Sealing.plain : Sealing Unit Bool where
  seals _ := plainRecord
  opens _ := plainOpen
  opens_seals := by
    intro _ d n m
    rw [plainOpen, plainRecord_eq d n m, if_pos (List.prefix_append _ _), List.drop_left]
  authentic := by
    intro _ d n r m h
    unfold plainOpen at h
    dsimp only at h
    split at h
    · rename_i hfront
      obtain ⟨tail, rfl⟩ := hfront
      rw [List.drop_left] at h
      obtain rfl := Option.some.inj h
      exact (plainRecord_eq d n tail).symm
    · cases h
  separates := by
    intro _ d d' n n' m m' h
    obtain ⟨hd, hn, -⟩ := plainRecord_inj h
    exact ⟨hd, hn⟩

end RatsRs.Lib
