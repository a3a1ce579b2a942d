import Mathlib.Data.List.Basic
import Mathlib.Tactic

/-! Byte strings as lists.

Fixed-width unsigned integers in both byte orders, the byte range a pointer and a
size name (`Span`), and overwriting in place. Everything is total: reading outside a
string yields what there is, and the callers that must not do so check `Span.Within`. -/
namespace RatsRs.Lib

abbrev Bytes := List UInt8

/-! ### Fixed-width integers -/

/-- The low `width` bytes of a number, lowest first. -/
def leBytes : Nat → Nat → Bytes
  | 0, _ => []
  | width + 1, n => UInt8.ofNat n :: leBytes width (n / 256)

def leNat : Bytes → Nat
  | [] => 0
  | b :: rest => b.toNat + 256 * leNat rest

/-- The same, highest first. -/
def beBytes (width n : Nat) : Bytes := (leBytes width n).reverse

def beNat (b : Bytes) : Nat := leNat b.reverse

@[simp] theorem length_leBytes (width n : Nat) : (leBytes width n).length = width := by
  induction width generalizing n with
  | zero => rfl
  | succ width ih => simp [leBytes, ih]

@[simp] theorem length_beBytes (width n : Nat) : (beBytes width n).length = width := by
  simp [beBytes]

theorem leNat_leBytes (width n : Nat) (h : n < 256 ^ width) : leNat (leBytes width n) = n := by
  induction width generalizing n with
  | zero =>
    have : n = 0 := by simpa using h
    simp [leBytes, leNat, this]
  | succ width ih =>
    have hq : n / 256 < 256 ^ width := by
      rw [Nat.div_lt_iff_lt_mul (by decide)]
      simpa [Nat.pow_succ] using h
    simp only [leBytes, leNat, ih _ hq, UInt8.toNat_ofNat']
    omega

theorem beNat_beBytes (width n : Nat) (h : n < 256 ^ width) : beNat (beBytes width n) = n := by
  rw [beNat, beBytes, List.reverse_reverse, leNat_leBytes width n h]

/-- A string is the encoding of the number it denotes. -/
theorem leBytes_leNat (b : Bytes) : leBytes b.length (leNat b) = b := by
  induction b with
  | nil => rfl
  | cons x rest ih =>
    have hx : x.toNat < 256 := x.toNat_lt
    have hq : (x.toNat + 256 * leNat rest) / 256 = leNat rest := by omega
    have hr : UInt8.ofNat (x.toNat + 256 * leNat rest) = x := by
      apply UInt8.toNat.inj
      rw [UInt8.toNat_ofNat']
      omega
    simp only [List.length_cons, leNat, leBytes, hq, hr, ih]

theorem leNat_lt (b : Bytes) : leNat b < 256 ^ b.length := by
  induction b with
  | nil => decide
  | cons x rest ih =>
    have hx : x.toNat < 256 := x.toNat_lt
    rw [leNat, List.length_cons, Nat.pow_succ]
    omega

theorem beNat_lt (b : Bytes) : beNat b < 256 ^ b.length := by
  rw [beNat, ← List.length_reverse]
  exact leNat_lt _

/-- The encoding of the number a string denotes is the string. -/
theorem beBytes_beNat (b : Bytes) : beBytes b.length (beNat b) = b := by
  rw [beBytes, beNat, ← List.length_reverse, leBytes_leNat, List.reverse_reverse]

/-! ### Ranges -/

/-- What a pointer into a string and a size name. -/
structure Span where
  offset : Nat
  size : Nat
  deriving DecidableEq, Repr

namespace Span

/-- The range lies inside `b`. -/
def Within (s : Span) (b : Bytes) : Prop := s.offset + s.size ≤ b.length

instance (s : Span) (b : Bytes) : Decidable (s.Within b) :=
  inferInstanceAs (Decidable (_ ≤ _))

def read (s : Span) (b : Bytes) : Bytes := (b.drop s.offset).take s.size

/-- No byte belongs to both ranges. -/
def Disjoint (s t : Span) : Prop := s.offset + s.size ≤ t.offset ∨ t.offset + t.size ≤ s.offset

theorem Disjoint.symm {s t : Span} (h : s.Disjoint t) : t.Disjoint s := Or.symm h

end Span

/-! ### Overwriting in place -/

/-- `b` with the bytes from `offset` on replaced by `new`; the length stays. -/
def splice (b : Bytes) (offset : Nat) (new : Bytes) : Bytes :=
  (b.take offset ++ new ++ b.drop (offset + new.length)).take b.length

@[simp] theorem length_splice (b : Bytes) (offset : Nat) (new : Bytes) :
    (splice b offset new).length = b.length := by
  simp only [splice, List.length_take, List.length_append, List.length_drop]
  omega

/-- Writing behind a prefix extends the prefix by what was written. -/
theorem take_splice {b : Bytes} {offset : Nat} {new : Bytes} (h : offset + new.length ≤ b.length) :
    (splice b offset new).take (offset + new.length) = b.take offset ++ new := by
  have hlen : (b.take offset).length = offset := by rw [List.length_take]; omega
  have hall : (b.take offset ++ new).length = offset + new.length := by
    rw [List.length_append, hlen]
  rw [splice, List.take_take, Nat.min_eq_left h, List.take_append_of_le_length (Nat.le_of_eq hall.symm),
    List.take_of_length_le (Nat.le_of_eq hall)]

theorem take_splice_zero {b new : Bytes} (h : new.length ≤ b.length) :
    (splice b 0 new).take new.length = new := by
  have hfront : (splice b 0 new).take (0 + new.length) = b.take 0 ++ new := take_splice (by omega)
  simpa using hfront

/-- Written at the front, the rest stays. -/
theorem splice_zero {b new : Bytes} (h : new.length ≤ b.length) :
    splice b 0 new = new ++ b.drop new.length := by
  have hlen : (new ++ b.drop new.length).length = b.length := by
    rw [List.length_append, List.length_drop]
    omega
  rw [splice, List.take_zero, List.nil_append, Nat.zero_add, ← hlen, List.take_length]

/-! ### Text -/

/-- Lower-case hexadecimal, zero-padded to `width` digits. -/
def hex (width n : Nat) : String :=
  let digits := Nat.toDigits 16 n
  String.ofList (List.replicate (width - digits.length) '0' ++ digits)

/-- The bytes as a list of two-digit hexadecimal numbers. -/
def hexList (b : Bytes) : String :=
  "[" ++ String.intercalate ", " (b.map fun x => hex 2 x.toNat) ++ "]"

/-- The UTF-8 bytes of a text. -/
def utf8 (s : String) : Bytes := s.toByteArray.data.toList

/-- The text a byte string encodes, if it is valid UTF-8. -/
def ofUtf8? (b : Bytes) : Option String := String.fromUTF8? ⟨b.toArray⟩

@[simp] theorem ofUtf8?_utf8 (s : String) : ofUtf8? (utf8 s) = some s := by
  simp [ofUtf8?, utf8, String.fromUTF8?, s.isValidUTF8, String.fromUTF8]

theorem utf8_of_ofUtf8? {b : Bytes} {s : String} (h : ofUtf8? b = some s) : utf8 s = b := by
  unfold ofUtf8? String.fromUTF8? at h
  split at h
  · obtain rfl := Option.some.inj h
    simp [utf8, String.fromUTF8]
  · cases h

end RatsRs.Lib
