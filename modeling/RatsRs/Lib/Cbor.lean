import RatsRs.Lib.Bytes

/-! CBOR with definite lengths.

A data item starts with a head: a major type and an argument, which is in the first
byte or in the 1, 2, 4 or 8 bytes behind it. `encode` writes the shortest head;
`decode` reads any head, one item, and hands back what follows it. Reading is
bounded in depth, as decoders are: `decode depth` fails on items nested deeper. -/
namespace RatsRs.Lib.Cbor

inductive Value where
  | unsigned (n : Nat)
  /-- The integer `-1 - n`. -/
  | negative (n : Nat)
  | bytes (b : Bytes)
  | text (s : String)
  | array (items : List Value)
  | map (entries : List (Value × Value))
  | tag (t : Nat) (content : Value)
  /-- `false`, `true`, `null` are 20, 21, 22. -/
  | simple (n : Nat)
  /-- The bytes of a half, single or double. -/
  | float (bits : Bytes)

/-! ### Heads -/

structure Head where
  major : Nat
  /-- The low five bits of the first byte. -/
  info : Nat
  arg : Nat
  deriving DecidableEq, Repr

/-- The low five bits of the first byte of the shortest head for an argument. -/
def infoOf (n : Nat) : Nat :=
  if n < 24 then n else if n < 2 ^ 8 then 24 else if n < 2 ^ 16 then 25 else if n < 2 ^ 32 then 26 else 27

def encodeHead (major n : Nat) : Bytes :=
  UInt8.ofNat (32 * major + infoOf n) ::
    if infoOf n < 24 then [] else beBytes (2 ^ (infoOf n - 24)) n

def decodeHead : Bytes → Option (Head × Bytes)
  | [] => none
  | b :: rest =>
    let major := b.toNat / 32
    let info := b.toNat % 32
    let width := 2 ^ (info - 24)
    if info < 24 then some (⟨major, info, info⟩, rest)
    else if info < 28 ∧ width ≤ rest.length then
      some (⟨major, info, beNat (rest.take width)⟩, rest.drop width)
    else none

theorem infoOf_lt (n : Nat) : infoOf n < 28 := by
  unfold infoOf
  split
  · omega
  · split
    · omega
    · split
      · omega
      · split <;> omega

theorem infoOf_of_lt {n : Nat} (h : infoOf n < 24) : infoOf n = n := by
  unfold infoOf at h ⊢
  split
  · rfl
  · rename_i hn
    rw [if_neg hn] at h
    split at h
    · omega
    · split at h
      · omega
      · split at h <;> omega

/-- The argument fits the width its head announces. -/
theorem lt_of_infoOf {n : Nat} (hn : n < 2 ^ 64) (h : ¬ infoOf n < 24) :
    n < 256 ^ 2 ^ (infoOf n - 24) := by
  unfold infoOf at h ⊢
  by_cases h24 : n < 24
  · rw [if_pos h24] at h
    omega
  · rw [if_neg h24]
    by_cases h8 : n < 2 ^ 8
    · rw [if_pos h8]
      simpa using h8
    · rw [if_neg h8]
      by_cases h16 : n < 2 ^ 16
      · rw [if_pos h16]
        simpa using h16
      · rw [if_neg h16]
        by_cases h32 : n < 2 ^ 32
        · rw [if_pos h32]
          simpa using h32
        · rw [if_neg h32]
          simpa using hn

/-- A head reads back, whatever follows it. -/
theorem decodeHead_encodeHead {major n : Nat} (hm : major < 8) (hn : n < 2 ^ 64) (rest : Bytes) :
    decodeHead (encodeHead major n ++ rest) = some (⟨major, infoOf n, n⟩, rest) := by
  have hi := infoOf_lt n
  have hbyte : (UInt8.ofNat (32 * major + infoOf n)).toNat = 32 * major + infoOf n := by
    rw [UInt8.toNat_ofNat']
    omega
  have hmajor : (32 * major + infoOf n) / 32 = major := by omega
  have hinfo : (32 * major + infoOf n) % 32 = infoOf n := by omega
  simp only [encodeHead, List.cons_append, decodeHead, hbyte, hmajor, hinfo]
  by_cases h : infoOf n < 24
  · rw [if_pos h, if_pos h, infoOf_of_lt h, List.nil_append]
  · have hlen : (beBytes (2 ^ (infoOf n - 24)) n).length = 2 ^ (infoOf n - 24) := length_beBytes _ _
    have hfits : 2 ^ (infoOf n - 24) ≤ (beBytes (2 ^ (infoOf n - 24)) n ++ rest).length := by
      rw [List.length_append, hlen]
      omega
    rw [if_neg h, if_neg h, if_pos ⟨hi, hfits⟩, List.take_left' hlen, List.drop_left' hlen,
      beNat_beBytes _ _ (lt_of_infoOf hn h)]

/-! ### Items -/

mutual

def encode : Value → Bytes
  | .unsigned n => encodeHead 0 n
  | .negative n => encodeHead 1 n
  | .bytes b => encodeHead 2 b.length ++ b
  | .text s => encodeHead 3 (utf8 s).length ++ utf8 s
  | .array items => encodeHead 4 items.length ++ encodeItems items
  | .map entries => encodeHead 5 entries.length ++ encodeEntries entries
  | .tag t content => encodeHead 6 t ++ encode content
  | .simple n => encodeHead 7 n
  | .float bits => UInt8.ofNat (if bits.length = 2 then 0xf9 else if bits.length = 4 then 0xfa else 0xfb) :: bits

def encodeItems : List Value → Bytes
  | [] => []
  | v :: rest => encode v ++ encodeItems rest

def encodeEntries : List (Value × Value) → Bytes
  | [] => []
  | (k, v) :: rest => encode k ++ (encode v ++ encodeEntries rest)

end

/-- `n` items, one after the other. -/
def decodeMany {α : Type} (item : Bytes → Option (α × Bytes)) : Nat → Bytes → Option (List α × Bytes)
  | 0, b => some ([], b)
  | n + 1, b => do
    let (v, b) ← item b
    let (rest, b) ← decodeMany item n b
    pure (v :: rest, b)

/-- A key and its value. -/
def decodeEntry (item : Bytes → Option (Value × Bytes)) (b : Bytes) : Option ((Value × Value) × Bytes) := do
  let (k, b) ← item b
  let (v, b) ← item b
  pure ((k, v), b)

def takeBytes (n : Nat) (b : Bytes) : Option (Bytes × Bytes) :=
  if n ≤ b.length then some (b.take n, b.drop n) else none

/-- The first item of a string and what follows it. -/
def decode : Nat → Bytes → Option (Value × Bytes)
  | 0, _ => none
  | depth + 1, b => do
    let (head, b) ← decodeHead b
    match head.major with
    | 0 => pure (.unsigned head.arg, b)
    | 1 => pure (.negative head.arg, b)
    | 2 =>
      let (content, b) ← takeBytes head.arg b
      pure (.bytes content, b)
    | 3 =>
      let (content, b) ← takeBytes head.arg b
      let s ← ofUtf8? content
      pure (.text s, b)
    | 4 =>
      let (items, b) ← decodeMany (decode depth) head.arg b
      pure (.array items, b)
    | 5 =>
      let (entries, b) ← decodeMany (decodeEntry (decode depth)) head.arg b
      pure (.map entries, b)
    | 6 =>
      let (content, b) ← decode depth b
      pure (.tag head.arg content, b)
    | _ =>
      if head.info ≤ 24 then pure (.simple head.arg, b)
      else pure (.float (beBytes (2 ^ (head.info - 24)) head.arg), b)

/-! ### Reading back what was written -/

mutual

/-- Every length and number fits a head. -/
def Value.fits : Value → Bool
  | .unsigned n | .negative n => decide (n < 2 ^ 64)
  | .bytes b => decide (b.length < 2 ^ 64)
  | .text s => decide ((utf8 s).length < 2 ^ 64)
  | .array items => decide (items.length < 2 ^ 64) && fitsItems items
  | .map entries => decide (entries.length < 2 ^ 64) && fitsEntries entries
  | .tag t content => decide (t < 2 ^ 64) && content.fits
  | .simple n => decide (n < 256)
  | .float bits => decide (bits.length = 2 ∨ bits.length = 4 ∨ bits.length = 8)

def fitsItems : List Value → Bool
  | [] => true
  | v :: rest => v.fits && fitsItems rest

def fitsEntries : List (Value × Value) → Bool
  | [] => true
  | (k, v) :: rest => k.fits && v.fits && fitsEntries rest

end

mutual

/-- Levels of nesting. -/
def Value.depth : Value → Nat
  | .array items => depthItems items + 1
  | .map entries => depthEntries entries + 1
  | .tag _ content => content.depth + 1
  | _ => 1

def depthItems : List Value → Nat
  | [] => 0
  | v :: rest => max v.depth (depthItems rest)

def depthEntries : List (Value × Value) → Nat
  | [] => 0
  | (k, v) :: rest => max (max k.depth v.depth) (depthEntries rest)

end

theorem takeBytes_append (b rest : Bytes) : takeBytes b.length (b ++ rest) = some (b, rest) := by
  rw [takeBytes, if_pos (by simp), List.take_left' rfl, List.drop_left' rfl]

/-- Decoding a head decides how the rest of the item is read. -/
theorem decode_head {depth major n : Nat} {rest : Bytes} (hm : major < 8) (hn : n < 2 ^ 64) :
    decode (depth + 1) (encodeHead major n ++ rest) = (match major with
      | 0 => pure (.unsigned n, rest)
      | 1 => pure (.negative n, rest)
      | 2 => (takeBytes n rest).bind fun p => pure (.bytes p.1, p.2)
      | 3 => (takeBytes n rest).bind fun p => (ofUtf8? p.1).bind fun s => pure (.text s, p.2)
      | 4 => (decodeMany (decode depth) n rest).bind fun p => pure (.array p.1, p.2)
      | 5 => (decodeMany (decodeEntry (decode depth)) n rest).bind fun p => pure (.map p.1, p.2)
      | 6 => (decode depth rest).bind fun p => pure (.tag n p.1, p.2)
      | _ => if infoOf n ≤ 24 then pure (.simple n, rest)
        else pure (.float (beBytes (2 ^ (infoOf n - 24)) n), rest)) := by
  rw [decode, decodeHead_encodeHead hm hn]
  rfl

theorem infoOf_le {n : Nat} (h : n < 256) : infoOf n ≤ 24 := by
  unfold infoOf
  split
  · omega
  · rw [if_pos (by simpa using h)]

/-- A float's head says how many bytes it has. -/
theorem decode_float (depth : Nat) {bits : Bytes} (h : bits.length = 2 ∨ bits.length = 4 ∨ bits.length = 8)
    (rest : Bytes) : decode (depth + 1) (encode (.float bits) ++ rest) = some (.float bits, rest) := by
  have hback : beBytes bits.length (beNat bits) = bits := beBytes_beNat bits
  have htake : (bits ++ rest).take bits.length = bits := List.take_left' rfl
  have hdrop : (bits ++ rest).drop bits.length = rest := List.drop_left' rfl
  rcases h with h | h | h <;>
  · rw [h] at hback htake hdrop
    simp [encode, decode, decodeHead, h, htake, hdrop, hback]

mutual

/-- **Round trip.** An item is read back, and what follows it is left. -/
theorem decode_encode : ∀ (v : Value) (depth : Nat) (rest : Bytes), v.fits = true → v.depth ≤ depth →
    decode depth (encode v ++ rest) = some (v, rest)
  | v, 0, _, _, hd => by
    have : 1 ≤ v.depth := by cases v <;> simp [Value.depth]
    omega
  | .unsigned n, depth + 1, rest, hf, _ => by
    rw [encode, decode_head (by decide) (by simpa [Value.fits] using hf)]
    rfl
  | .negative n, depth + 1, rest, hf, _ => by
    rw [encode, decode_head (by decide) (by simpa [Value.fits] using hf)]
    rfl
  | .bytes b, depth + 1, rest, hf, _ => by
    rw [encode, List.append_assoc, decode_head (by decide) (by simpa [Value.fits] using hf)]
    simp only [takeBytes_append, Option.bind_some, Option.pure_def]
  | .text s, depth + 1, rest, hf, _ => by
    rw [encode, List.append_assoc, decode_head (by decide) (by simpa [Value.fits] using hf)]
    simp only [takeBytes_append, Option.bind_some, ofUtf8?_utf8, Option.pure_def]
  | .array items, depth + 1, rest, hf, hd => by
    simp only [Value.fits, Bool.and_eq_true, decide_eq_true_eq] at hf
    rw [encode, List.append_assoc, decode_head (by decide) hf.1]
    simp only [Value.depth] at hd
    simp only [decodeMany_items items depth rest hf.2 (by omega), Option.bind_some, Option.pure_def]
  | .map entries, depth + 1, rest, hf, hd => by
    simp only [Value.fits, Bool.and_eq_true, decide_eq_true_eq] at hf
    rw [encode, List.append_assoc, decode_head (by decide) hf.1]
    simp only [Value.depth] at hd
    simp only [decodeMany_entries entries depth rest hf.2 (by omega), Option.bind_some, Option.pure_def]
  | .tag t content, depth + 1, rest, hf, hd => by
    simp only [Value.fits, Bool.and_eq_true, decide_eq_true_eq] at hf
    rw [encode, List.append_assoc, decode_head (by decide) hf.1]
    simp only [Value.depth] at hd
    simp only [decode_encode content depth rest hf.2 (by omega), Option.bind_some, Option.pure_def]
  | .simple n, depth + 1, rest, hf, _ => by
    have hn : n < 256 := by simpa [Value.fits] using hf
    rw [encode, decode_head (by decide) (by omega)]
    simp only [infoOf_le hn, if_true, Option.pure_def]
  | .float bits, depth + 1, rest, hf, _ => decode_float depth (by simpa [Value.fits] using hf) rest

theorem decodeMany_items : ∀ (items : List Value) (depth : Nat) (rest : Bytes), fitsItems items = true →
    depthItems items ≤ depth →
    decodeMany (decode depth) items.length (encodeItems items ++ rest) = some (items, rest)
  | [], _, _, _, _ => rfl
  | v :: items, depth, rest, hf, hd => by
    simp only [fitsItems, Bool.and_eq_true] at hf
    simp only [depthItems] at hd
    rw [encodeItems, List.append_assoc, List.length_cons, decodeMany,
      decode_encode v depth _ hf.1 (by omega), Option.bind_eq_bind, Option.bind_some]
    simp only [decodeMany_items items depth rest hf.2 (by omega), Option.bind_eq_bind, Option.bind_some,
      Option.pure_def]

theorem decodeMany_entries : ∀ (entries : List (Value × Value)) (depth : Nat) (rest : Bytes),
    fitsEntries entries = true → depthEntries entries ≤ depth →
    decodeMany (decodeEntry (decode depth)) entries.length (encodeEntries entries ++ rest) =
      some (entries, rest)
  | [], _, _, _, _ => rfl
  | (k, v) :: entries, depth, rest, hf, hd => by
    simp only [fitsEntries, Bool.and_eq_true] at hf
    simp only [depthEntries] at hd
    have hentry : decodeEntry (decode depth) (encode k ++ (encode v ++ (encodeEntries entries ++ rest))) =
        some ((k, v), encodeEntries entries ++ rest) := by
      simp only [decodeEntry, decode_encode k depth _ hf.1.1 (by omega),
        decode_encode v depth _ hf.1.2 (by omega), Option.bind_eq_bind, Option.bind_some, Option.pure_def]
    rw [encodeEntries, List.append_assoc, List.append_assoc, List.length_cons, decodeMany, hentry]
    simp only [decodeMany_entries entries depth rest hf.2 (by omega), Option.bind_eq_bind,
      Option.bind_some, Option.pure_def]

end

end RatsRs.Lib.Cbor
