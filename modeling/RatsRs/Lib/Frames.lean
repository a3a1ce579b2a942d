import RatsRs.Lib.Bytes

/-! Length-prefixed frames.

A frame is the length of its payload, in a header of fixed width with the highest byte
first, and the payload. `next` takes one frame off the front of a string and `frames`
all of them, up to the first one that is incomplete or longer than the cap.
Everything about the two follows from `next_eq_some`: what `next` takes off is exactly
the encoding of a payload within the cap. -/
namespace RatsRs.Lib

/-- Header width and the longest payload a reader takes. -/
structure Framing where
  width : Nat
  cap : Nat
  positive : 0 < width
  /-- A header can hold every length up to the cap. -/
  holds : cap < 256 ^ width

namespace Framing
variable (f : Framing)

def encode (payload : Bytes) : Bytes := beBytes f.width payload.length ++ payload

def encodeAll (payloads : List Bytes) : Bytes := payloads.flatMap f.encode

/-- The frame at the front, and what follows it. -/
def next (stream : Bytes) : Option (Bytes × Bytes) :=
  let size := beNat (stream.take f.width)
  if stream.length < f.width then none
  else if f.cap < size then none
  else if stream.length < f.width + size then none
  else some ((stream.drop f.width).take size, stream.drop (f.width + size))

def framesUpTo : Nat → Bytes → List Bytes
  | 0, _ => []
  | fuel + 1, stream =>
    match f.next stream with
    | none => []
    | some (payload, rest) => payload :: framesUpTo fuel rest

/-- The frames of a stream. Every frame takes at least a byte, so there are no more of them than bytes. -/
def frames (stream : Bytes) : List Bytes := f.framesUpTo stream.length stream

/-- The header at the front announces more than the cap. -/
def Oversized (stream : Bytes) : Prop :=
  f.width ≤ stream.length ∧ f.cap < beNat (stream.take f.width)

instance (stream : Bytes) : Decidable (f.Oversized stream) := inferInstanceAs (Decidable (_ ∧ _))

/-! ### One frame -/

@[simp] theorem length_encode (payload : Bytes) :
    (f.encode payload).length = f.width + payload.length := by
  simp [encode]

theorem encode_ne_nil (payload : Bytes) : f.encode payload ≠ [] := by
  apply List.ne_nil_of_length_pos
  rw [length_encode]
  exact Nat.add_pos_left f.positive _

@[simp] theorem encodeAll_nil : f.encodeAll [] = [] := rfl

@[simp] theorem encodeAll_cons (payload : Bytes) (payloads : List Bytes) :
    f.encodeAll (payload :: payloads) = f.encode payload ++ f.encodeAll payloads := rfl

@[simp] theorem encodeAll_append (a b : List Bytes) :
    f.encodeAll (a ++ b) = f.encodeAll a ++ f.encodeAll b := List.flatMap_append

variable {f}

theorem header_encode {payload : Bytes} (h : payload.length < 256 ^ f.width) (rest : Bytes) :
    beNat ((f.encode payload ++ rest).take f.width) = payload.length := by
  have hlen : (beBytes f.width payload.length).length = f.width := length_beBytes _ _
  have htake : (f.encode payload ++ rest).take f.width = beBytes f.width payload.length := by
    rw [encode, List.append_assoc]
    exact List.take_left' hlen
  rw [htake, beNat_beBytes _ _ h]

/-- What `next` takes off the front is the encoding of a payload within the cap, and any such
encoding is taken off. -/
theorem next_eq_some {stream payload rest : Bytes} :
    f.next stream = some (payload, rest) ↔
      payload.length ≤ f.cap ∧ stream = f.encode payload ++ rest := by
  constructor
  · intro h
    unfold next at h
    dsimp only at h
    split at h
    · cases h
    · split at h
      · cases h
      · split at h
        · cases h
        · rename_i hwidth hcap hsize
          obtain ⟨rfl, rfl⟩ : _ ∧ _ := by simpa using h
          have hlen : ((stream.drop f.width).take (beNat (stream.take f.width))).length =
              beNat (stream.take f.width) := by
            rw [List.length_take, List.length_drop]
            omega
          have hheader : beBytes f.width (beNat (stream.take f.width)) = stream.take f.width := by
            have := beBytes_beNat (stream.take f.width)
            rwa [List.length_take, Nat.min_eq_left (by omega)] at this
          refine ⟨by rw [hlen]; omega, ?_⟩
          rw [encode, hlen, hheader, ← List.drop_drop, List.append_assoc, List.take_append_drop,
            List.take_append_drop]
  · intro ⟨hcap, hstream⟩
    have hsize : beNat (stream.take f.width) = payload.length := by
      rw [hstream]
      exact header_encode (Nat.lt_of_le_of_lt hcap f.holds) rest
    have hlen : stream.length = f.width + payload.length + rest.length := by
      rw [hstream, List.length_append, length_encode]
    have hdrop : stream.drop f.width = payload ++ rest := by
      rw [hstream, encode, List.append_assoc]
      exact List.drop_left' (length_beBytes _ _)
    unfold next
    dsimp only
    rw [hsize, if_neg (by omega), if_neg (by omega), if_neg (by omega), ← List.drop_drop, hdrop,
      List.take_left, List.drop_left]

theorem next_encode {payload : Bytes} (h : payload.length ≤ f.cap) (rest : Bytes) :
    f.next (f.encode payload ++ rest) = some (payload, rest) :=
  next_eq_some.mpr ⟨h, rfl⟩

/-- The announced size is within the cap and all of it is there. -/
theorem next_complete {stream : Bytes} (hcap : beNat (stream.take f.width) ≤ f.cap)
    (h : f.width + beNat (stream.take f.width) ≤ stream.length) :
    ∃ payload rest, f.next stream = some (payload, rest) ∧
      payload.length = beNat (stream.take f.width) := by
  have hnext : f.next stream = some ((stream.drop f.width).take (beNat (stream.take f.width)),
      stream.drop (f.width + beNat (stream.take f.width))) := by
    unfold next
    dsimp only
    rw [if_neg (by omega), if_neg (by omega), if_neg (by omega)]
  refine ⟨_, _, hnext, ?_⟩
  rw [List.length_take, List.length_drop]
  omega

/-- Neither a header nor the size it announces is there. -/
theorem next_incomplete {stream : Bytes}
    (h : f.width ≤ stream.length → stream.length < f.width + beNat (stream.take f.width)) :
    f.next stream = none := by
  unfold next
  dsimp only
  by_cases hwidth : stream.length < f.width
  · rw [if_pos hwidth]
  · have := h (by omega)
    rw [if_neg hwidth, if_pos this, ite_self]

theorem Oversized.next {stream : Bytes} (h : f.Oversized stream) : f.next stream = none := by
  unfold Framing.next
  dsimp only
  rw [if_neg (Nat.not_lt.mpr h.1), if_pos h.2]

/-! ### All frames -/

/-- Fuel for every byte is fuel enough. -/
theorem framesUpTo_eq (fuel : Nat) (stream : Bytes) (h : stream.length ≤ fuel) :
    f.framesUpTo fuel stream = f.frames stream := by
  unfold frames
  generalize hm : stream.length = m at h
  induction m using Nat.strongRecOn generalizing fuel stream with
  | ind m ih =>
    cases hnext : f.next stream with
    | none => cases fuel <;> cases m <;> simp [framesUpTo, hnext]
    | some taken =>
      obtain ⟨payload, rest⟩ := taken
      obtain ⟨_, hstream⟩ := next_eq_some.mp hnext
      have hpos := f.positive
      have hlen : m = f.width + payload.length + rest.length := by
        rw [← hm, hstream, List.length_append, length_encode]
      obtain ⟨m, rfl⟩ : ∃ k, m = k + 1 := ⟨m - 1, by omega⟩
      obtain ⟨fuel, rfl⟩ : ∃ k, fuel = k + 1 := ⟨fuel - 1, by omega⟩
      simp only [framesUpTo, hnext]
      rw [ih rest.length (by omega) fuel rest rfl (by omega),
        ih rest.length (by omega) m rest rfl (by omega)]

theorem frames_of_next_none {stream : Bytes} (h : f.next stream = none) : f.frames stream = [] := by
  unfold frames
  cases stream.length <;> simp [framesUpTo, h]

theorem frames_encode {payload : Bytes} (h : payload.length ≤ f.cap) (rest : Bytes) :
    f.frames (f.encode payload ++ rest) = payload :: f.frames rest := by
  have hpos := f.positive
  have hlen : (f.encode payload ++ rest).length = f.width + payload.length - 1 + rest.length + 1 := by
    rw [List.length_append, length_encode]
    omega
  rw [frames, hlen, framesUpTo, next_encode h]
  show payload :: f.framesUpTo _ rest = _
  rw [framesUpTo_eq _ rest (by omega)]

/-- The frames in front of a stream are its first frames. -/
theorem frames_encodeAll {payloads : List Bytes} (h : ∀ p ∈ payloads, p.length ≤ f.cap)
    (rest : Bytes) : f.frames (f.encodeAll payloads ++ rest) = payloads ++ f.frames rest := by
  induction payloads with
  | nil => rfl
  | cons payload more ih =>
    rw [encodeAll_cons, List.append_assoc, frames_encode (h payload (List.mem_cons_self ..)),
      ih fun p hp => h p (List.mem_cons_of_mem payload hp), List.cons_append]

/-- Two streams of frames that begin alike have the same frames there. The lengths need only fit
their headers: no cap is asked for. -/
theorem prefix_of_encodeAll (a b : List Bytes) {rest : Bytes}
    (ha : ∀ p ∈ a, p.length < 256 ^ f.width) (hb : ∀ p ∈ b, p.length < 256 ^ f.width)
    (h : f.encodeAll a ++ rest = f.encodeAll b) :
    b = a ++ b.drop a.length ∧ rest = f.encodeAll (b.drop a.length) := by
  induction a generalizing b with
  | nil => exact ⟨rfl, h⟩
  | cons p a ih =>
    cases b with
    | nil =>
      rw [encodeAll_cons, encodeAll_nil, List.append_assoc] at h
      exact absurd (List.append_eq_nil_iff.mp h).1 (f.encode_ne_nil p)
    | cons q b =>
      rw [encodeAll_cons, encodeAll_cons, List.append_assoc] at h
      have hsize : p.length = q.length := by
        rw [← header_encode (ha p (List.mem_cons_self ..)) (f.encodeAll a ++ rest), h,
          header_encode (hb q (List.mem_cons_self ..))]
      obtain ⟨hframe, htail⟩ := List.append_inj h (by simp [hsize])
      have hpq : p = q := by
        rw [encode, encode, hsize] at hframe
        exact List.append_cancel_left hframe
      obtain ⟨hb', hrest⟩ := ih b (fun x hx => ha x (List.mem_cons_of_mem p hx))
        (fun x hx => hb x (List.mem_cons_of_mem q hx)) htail
      exact ⟨by rw [hpq, List.length_cons, List.drop_succ_cons, List.cons_append, ← hb'], hrest⟩

end Framing

end RatsRs.Lib
