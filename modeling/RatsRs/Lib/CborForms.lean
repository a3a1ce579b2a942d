import RatsRs.Lib.Cbor

/-! Every form of a CBOR item.

`encode` writes one form of an item; a reader of CBOR takes others. A head may be wider than its
argument needs, strings, arrays and maps may have no length and end in a break, and an integer may be
a tagged byte string. `Encodes` is the relation between items and their forms; what `decode`
reads is one of them (`decode_sound`). -/
namespace RatsRs.Lib.Cbor

/-! ### Heads and strings -/

/-- A head, in the first byte or in the 1, 2, 4 or 8 bytes behind it. -/
inductive IsHead (major arg : Nat) : Bytes → Prop
  | short (h : arg < 24) : IsHead major arg [UInt8.ofNat (32 * major + arg)]
  | wide (k : Nat) (hk : k < 4) (h : arg < 256 ^ 2 ^ k) :
      IsHead major arg (UInt8.ofNat (32 * major + (24 + k)) :: beBytes (2 ^ k) arg)

/-- The first byte of an item of this major type that has no length. -/
def openByte (major : Nat) : UInt8 := UInt8.ofNat (32 * major + 31)

def breakByte : UInt8 := 0xff

/-- Strings one after the other, and what they are together. -/
inductive Segments (major : Nat) : Bytes → Bytes → Prop
  | nil : Segments major [] []
  | definite {content more head s : Bytes} (h : IsHead major content.length head)
      (rest : Segments major more s) : Segments major (content ++ more) (head ++ (content ++ s))
  | indefinite {content more s t : Bytes} (inner : Segments major content s)
      (rest : Segments major more t) :
      Segments major (content ++ more) (openByte major :: (s ++ breakByte :: t))

/-- A string, with a length or in segments. -/
inductive IsString (major : Nat) : Bytes → Bytes → Prop
  | definite {content head : Bytes} (h : IsHead major content.length head) :
      IsString major content (head ++ content)
  | indefinite {content s : Bytes} (h : Segments major content s) :
      IsString major content (openByte major :: (s ++ [breakByte]))

/-! ### Items -/

mutual

inductive Encodes : Value → Bytes → Prop
  | unsigned {n : Nat} {head : Bytes} (h : IsHead 0 n head) : Encodes (.unsigned n) head
  | negative {n : Nat} {head : Bytes} (h : IsHead 1 n head) : Encodes (.negative n) head
  /-- Tag 2, on the digits of the number. -/
  | bigUnsigned {digits head s : Bytes} (h : IsHead 6 2 head) (content : IsString 2 digits s) :
      Encodes (.unsigned (beNat digits)) (head ++ s)
  | bigNegative {digits head s : Bytes} (h : IsHead 6 3 head) (content : IsString 2 digits s) :
      Encodes (.negative (beNat digits)) (head ++ s)
  | bytes {b s : Bytes} (h : IsString 2 b s) : Encodes (.bytes b) s
  | text {t : String} {s : Bytes} (h : IsString 3 (utf8 t) s) : Encodes (.text t) s
  | array {items : List Value} {head s : Bytes} (h : IsHead 4 items.length head)
      (content : EncodesItems items s) : Encodes (.array items) (head ++ s)
  | openArray {items : List Value} {s : Bytes} (content : EncodesItems items s) :
      Encodes (.array items) (openByte 4 :: (s ++ [breakByte]))
  | map {entries : List (Value × Value)} {head s : Bytes} (h : IsHead 5 entries.length head)
      (content : EncodesEntries entries s) : Encodes (.map entries) (head ++ s)
  | openMap {entries : List (Value × Value)} {s : Bytes} (content : EncodesEntries entries s) :
      Encodes (.map entries) (openByte 5 :: (s ++ [breakByte]))
  | tag {t : Nat} {v : Value} {head s : Bytes} (h : IsHead 6 t head) (content : Encodes v s) :
      Encodes (.tag t v) (head ++ s)
  | simple {n : Nat} {head : Bytes} (h : IsHead 7 n head) (hlen : head.length ≤ 2) : Encodes (.simple n) head
  | float {bits : Bytes} (k : Nat) (hk : k < 4) (hlen : bits.length = 2 ^ k) :
      Encodes (.float bits) (UInt8.ofNat (32 * 7 + (24 + k)) :: bits)

inductive EncodesItems : List Value → Bytes → Prop
  | nil : EncodesItems [] []
  | cons {v : Value} {items : List Value} {s t : Bytes} (first : Encodes v s)
      (rest : EncodesItems items t) : EncodesItems (v :: items) (s ++ t)

inductive EncodesEntries : List (Value × Value) → Bytes → Prop
  | nil : EncodesEntries [] []
  | cons {k v : Value} {entries : List (Value × Value)} {s t u : Bytes} (key : Encodes k s)
      (value : Encodes v t) (rest : EncodesEntries entries u) :
      EncodesEntries ((k, v) :: entries) (s ++ (t ++ u))

end

/-- An item without the tags around it, or without some of them. -/
inductive Untagged : Value → Value → Prop
  | self (v : Value) : Untagged v v
  | tag (t : Nat) {v w : Value} (h : Untagged v w) : Untagged (.tag t v) w

mutual

/-- Integers, strings, arrays, maps and tags: what has one reading. Numbers in floating point, simple
values and the tags of big integers are out. -/
def Value.plain : Value → Bool
  | .unsigned _ | .negative _ | .bytes _ | .text _ => true
  | .array items => plainItems items
  | .map entries => plainEntries entries
  | .tag t content => decide (t ≠ 2 ∧ t ≠ 3) && content.plain
  | .simple _ | .float _ => false

def plainItems : List Value → Bool
  | [] => true
  | v :: rest => v.plain && plainItems rest

def plainEntries : List (Value × Value) → Bool
  | [] => true
  | (k, v) :: rest => k.plain && v.plain && plainEntries rest

end

/-! ### Nothing is longer than its form -/

theorem IsHead.arg_lt {major arg : Nat} {s : Bytes} (h : IsHead major arg s) : arg < 2 ^ 64 := by
  cases h with
  | short h => omega
  | wide k hk h =>
    have hpow : 256 ^ 2 ^ k ≤ 256 ^ 2 ^ 3 :=
      Nat.pow_le_pow_right (by decide) (Nat.pow_le_pow_right (by decide) (by omega))
    omega

theorem IsHead.length_pos {major arg : Nat} {s : Bytes} (h : IsHead major arg s) : 0 < s.length := by
  cases h <;> simp

theorem Segments.length_le {major : Nat} {content s : Bytes} (h : Segments major content s) :
    content.length ≤ s.length := by
  induction h with
  | nil => exact Nat.le_refl _
  | definite h rest ih =>
    simp only [List.length_append]
    omega
  | indefinite inner rest ihinner ihrest =>
    simp only [List.length_append, List.length_cons]
    omega

theorem IsString.length_le {major : Nat} {content s : Bytes} (h : IsString major content s) :
    content.length ≤ s.length := by
  cases h with
  | definite h => simp
  | indefinite h =>
    have := h.length_le
    simp only [List.length_append, List.length_cons]
    omega

theorem IsString.length_pos {major : Nat} {content s : Bytes} (h : IsString major content s) :
    0 < s.length := by
  cases h with
  | definite h =>
    have := h.length_pos
    rw [List.length_append]
    omega
  | indefinite h => simp

theorem Encodes.length_pos {v : Value} {s : Bytes} (h : Encodes v s) : 0 < s.length := by
  cases h with
  | unsigned h => exact h.length_pos
  | negative h => exact h.length_pos
  | bytes h => exact h.length_pos
  | text h => exact h.length_pos
  | simple h hlen => exact h.length_pos
  | openArray content => simp
  | openMap content => simp
  | float k hk hlen => simp
  | bigUnsigned h content | bigNegative h content | array h content | map h content | tag h content =>
    have := h.length_pos
    rw [List.length_append]
    omega

theorem EncodesItems.length_le {items : List Value} {s : Bytes} (h : EncodesItems items s) :
    items.length ≤ s.length := by
  induction items generalizing s with
  | nil => exact Nat.zero_le _
  | cons v items ih =>
    cases h with
    | cons first rest =>
      have := first.length_pos
      have := ih rest
      rw [List.length_append, List.length_cons]
      omega

theorem EncodesEntries.length_le {entries : List (Value × Value)} {s : Bytes} (h : EncodesEntries entries s) :
    entries.length ≤ s.length := by
  induction entries generalizing s with
  | nil => exact Nat.zero_le _
  | cons e entries ih =>
    cases h with
    | cons key value rest =>
      have := key.length_pos
      have := ih rest
      simp only [List.length_append, List.length_cons]
      omega

theorem EncodesEntries.of_mem {entries : List (Value × Value)} {s : Bytes} (h : EncodesEntries entries s)
    {e : Value × Value} (he : e ∈ entries) :
    ∃ k v, Encodes e.1 k ∧ Encodes e.2 v ∧ k.length ≤ s.length ∧ v.length ≤ s.length := by
  induction entries generalizing s with
  | nil => cases he
  | cons first entries ih =>
    cases h with
    | @cons k v _ ks vs ts key value rest =>
      cases List.mem_cons.mp he with
      | inl hfirst =>
        subst hfirst
        refine ⟨ks, vs, key, value, ?_, ?_⟩ <;> simp only [List.length_append] <;> omega
      | inr hrest =>
        obtain ⟨k', v', hk, hv, hkl, hvl⟩ := ih rest hrest
        refine ⟨k', v', hk, hv, ?_, ?_⟩ <;> simp only [List.length_append] <;> omega

theorem Encodes.untagged {v w : Value} {s : Bytes} (h : Encodes v s) (hw : Untagged v w) :
    ∃ t, Encodes w t ∧ t.length ≤ s.length := by
  induction hw generalizing s with
  | self v => exact ⟨s, h, Nat.le_refl _⟩
  | tag t hw ih =>
    cases h with
    | tag hhead content =>
      obtain ⟨u, hu, hle⟩ := ih content
      refine ⟨u, hu, ?_⟩
      rw [List.length_append]
      omega

/-- A map is at least as long as it has entries, and as each of them is. -/
theorem Encodes.map_inv {entries : List (Value × Value)} {s : Bytes} (h : Encodes (.map entries) s) :
    ∃ t, EncodesEntries entries t ∧ t.length ≤ s.length := by
  cases h with
  | map hhead content => exact ⟨_, content, by rw [List.length_append]; omega⟩
  | openMap content =>
    refine ⟨_, content, ?_⟩
    simp only [List.length_cons, List.length_append]
    omega

theorem Encodes.array_inv {items : List Value} {s : Bytes} (h : Encodes (.array items) s) :
    ∃ t, EncodesItems items t ∧ t.length ≤ s.length := by
  cases h with
  | array hhead content => exact ⟨_, content, by rw [List.length_append]; omega⟩
  | openArray content =>
    refine ⟨_, content, ?_⟩
    simp only [List.length_cons, List.length_append]
    omega

theorem Encodes.bytes_length {b s : Bytes} (h : Encodes (.bytes b) s) : b.length ≤ s.length := by
  cases h with
  | bytes h => exact h.length_le

theorem Encodes.text_length {t : String} {s : Bytes} (h : Encodes (.text t) s) :
    (utf8 t).length ≤ s.length := by
  cases h with
  | text h => exact h.length_le

/-! ### What is decoded is a form of what it is decoded to -/

/-- A decoded head, by how wide it is. -/
inductive DecodedHead : Head → Bytes → Prop
  | short {major info : Nat} (hm : major < 8) (h : info < 24) :
      DecodedHead ⟨major, info, info⟩ [UInt8.ofNat (32 * major + info)]
  | wide {major : Nat} (k : Nat) {x : Bytes} (hm : major < 8) (hk : k < 4) (hlen : x.length = 2 ^ k) :
      DecodedHead ⟨major, 24 + k, beNat x⟩ (UInt8.ofNat (32 * major + (24 + k)) :: x)

theorem decodeHead_sound {b rest : Bytes} {head : Head} (h : decodeHead b = some (head, rest)) :
    ∃ s, b = s ++ rest ∧ DecodedHead head s := by
  cases b with
  | nil => cases h
  | cons x b =>
    have hbyte : ∀ info, x.toNat % 32 = info → x = UInt8.ofNat (32 * (x.toNat / 32) + info) := by
      intro info hinfo
      rw [← hinfo, Nat.div_add_mod]
      exact (UInt8.ofNat_toNat).symm
    have hmajor : x.toNat / 32 < 8 := by
      have := x.toNat_lt
      omega
    simp only [decodeHead] at h
    split at h
    · rename_i hinfo
      obtain ⟨rfl, rfl⟩ := Prod.mk.inj (Option.some.inj h)
      refine ⟨[x], rfl, ?_⟩
      have hshort := DecodedHead.short hmajor hinfo
      rwa [← hbyte _ rfl] at hshort
    · split at h
      · rename_i hinfo hwide
        obtain ⟨rfl, rfl⟩ := Prod.mk.inj (Option.some.inj h)
        obtain ⟨k, hk⟩ : ∃ k, x.toNat % 32 = 24 + k := ⟨x.toNat % 32 - 24, by omega⟩
        have hwidth : x.toNat % 32 - 24 = k := by omega
        rw [hwidth] at hwide ⊢
        refine ⟨x :: b.take (2 ^ k), by rw [List.cons_append, List.take_append_drop], ?_⟩
        have hfits := DecodedHead.wide k (x := b.take (2 ^ k)) hmajor (by omega)
          (by rw [List.length_take]; omega)
        rw [← hbyte _ hk] at hfits
        rwa [hk]
      · cases h

theorem DecodedHead.isHead {head : Head} {s : Bytes} (h : DecodedHead head s) :
    IsHead head.major head.arg s := by
  cases h with
  | short hm h => exact .short h
  | wide k hm hk hlen =>
    rename_i major x
    have hwide : IsHead major (beNat x) (UInt8.ofNat (32 * major + (24 + k)) :: beBytes (2 ^ k) (beNat x)) :=
      .wide k hk (by rw [← hlen]; exact beNat_lt x)
    rwa [← hlen, beBytes_beNat] at hwide

theorem DecodedHead.major_lt {head : Head} {s : Bytes} (h : DecodedHead head s) : head.major < 8 := by
  cases h with
  | short hm h => exact hm
  | wide k hm hk hlen => exact hm

theorem takeBytes_sound {n : Nat} {b c rest : Bytes} (h : takeBytes n b = some (c, rest)) :
    b = c ++ rest ∧ c.length = n := by
  unfold takeBytes at h
  split at h
  · obtain ⟨rfl, rfl⟩ := Prod.mk.inj (Option.some.inj h)
    exact ⟨(List.take_append_drop n b).symm, by rw [List.length_take]; omega⟩
  · cases h

section Many
variable {item : Bytes → Option (Value × Bytes)}
  (hitem : ∀ {b v rest}, item b = some (v, rest) → ∃ s, b = s ++ rest ∧ Encodes v s)
include hitem

theorem decodeMany_sound {n : Nat} {b rest : Bytes} {items : List Value}
    (h : decodeMany item n b = some (items, rest)) :
    items.length = n ∧ ∃ s, b = s ++ rest ∧ EncodesItems items s := by
  induction n generalizing b items with
  | zero =>
    obtain ⟨rfl, rfl⟩ := Prod.mk.inj (Option.some.inj h)
    exact ⟨rfl, [], rfl, .nil⟩
  | succ n ih =>
    simp only [decodeMany, Option.bind_eq_bind, Option.bind_eq_some_iff, Option.pure_def,
      Option.some.injEq, Prod.exists] at h
    obtain ⟨v, b', hfirst, more, b'', hmore, hcons⟩ := h
    obtain ⟨rfl, rfl⟩ := Prod.mk.inj hcons
    obtain ⟨s, rfl, hs⟩ := hitem hfirst
    obtain ⟨hlen, t, rfl, ht⟩ := ih hmore
    exact ⟨by rw [List.length_cons, hlen], s ++ t, (List.append_assoc ..).symm, .cons hs ht⟩

theorem decodeMany_entries_sound {n : Nat} {b rest : Bytes} {entries : List (Value × Value)}
    (h : decodeMany (decodeEntry item) n b = some (entries, rest)) :
    entries.length = n ∧ ∃ s, b = s ++ rest ∧ EncodesEntries entries s := by
  induction n generalizing b entries with
  | zero =>
    obtain ⟨rfl, rfl⟩ := Prod.mk.inj (Option.some.inj h)
    exact ⟨rfl, [], rfl, .nil⟩
  | succ n ih =>
    simp only [decodeMany, decodeEntry, Option.bind_eq_bind, Option.bind_eq_some_iff, Option.pure_def,
      Option.some.injEq, Prod.exists] at h
    obtain ⟨k, v, b', ⟨k', b₁, hkey, v', b₂, hvalue, hentry⟩, more, b'', hmore, hcons⟩ := h
    obtain ⟨hkv, rfl⟩ := Prod.mk.inj hentry
    obtain ⟨rfl, rfl⟩ := Prod.mk.inj hkv
    obtain ⟨rfl, rfl⟩ := Prod.mk.inj hcons
    obtain ⟨s, rfl, hs⟩ := hitem hkey
    obtain ⟨t, rfl, ht⟩ := hitem hvalue
    obtain ⟨hlen, u, rfl, hu⟩ := ih hmore
    refine ⟨by rw [List.length_cons, hlen], s ++ (t ++ u), ?_, .cons hs ht hu⟩
    rw [List.append_assoc, List.append_assoc]

end Many

/-- **Soundness of decoding.** -/
theorem decode_sound {depth : Nat} {b rest : Bytes} {v : Value} (h : decode depth b = some (v, rest)) :
    ∃ s, b = s ++ rest ∧ Encodes v s := by
  induction depth generalizing b rest v with
  | zero => cases h
  | succ depth ih =>
    simp only [decode, Option.bind_eq_bind, Option.bind_eq_some_iff, Prod.exists] at h
    obtain ⟨head, b', hhead, h⟩ := h
    obtain ⟨s, rfl, hs⟩ := decodeHead_sound hhead
    have hishead := hs.isHead
    split at h
    · rename_i hmajor
      obtain ⟨rfl, rfl⟩ := Prod.mk.inj (Option.some.inj h)
      exact ⟨s, rfl, .unsigned (hmajor ▸ hishead)⟩
    · rename_i hmajor
      obtain ⟨rfl, rfl⟩ := Prod.mk.inj (Option.some.inj h)
      exact ⟨s, rfl, .negative (hmajor ▸ hishead)⟩
    · rename_i hmajor
      simp only [Option.bind_eq_some_iff, Option.pure_def, Option.some.injEq, Prod.exists] at h
      obtain ⟨content, b'', htake, hv⟩ := h
      obtain ⟨rfl, rfl⟩ := Prod.mk.inj hv
      obtain ⟨rfl, hlen⟩ := takeBytes_sound htake
      rw [hmajor, ← hlen] at hishead
      exact ⟨s ++ content, (List.append_assoc ..).symm, .bytes (.definite hishead)⟩
    · rename_i hmajor
      simp only [Option.bind_eq_some_iff, Option.pure_def, Option.some.injEq, Prod.exists] at h
      obtain ⟨content, b'', htake, t, htext, hv⟩ := h
      obtain ⟨rfl, rfl⟩ := Prod.mk.inj hv
      obtain ⟨rfl, hlen⟩ := takeBytes_sound htake
      obtain rfl := utf8_of_ofUtf8? htext
      rw [hmajor, ← hlen] at hishead
      exact ⟨s ++ utf8 t, (List.append_assoc ..).symm, .text (.definite hishead)⟩
    · rename_i hmajor
      simp only [Option.bind_eq_some_iff, Option.pure_def, Option.some.injEq, Prod.exists] at h
      obtain ⟨items, b'', hitems, hv⟩ := h
      obtain ⟨rfl, rfl⟩ := Prod.mk.inj hv
      obtain ⟨hlen, t, rfl, ht⟩ := decodeMany_sound ih hitems
      rw [hmajor, ← hlen] at hishead
      exact ⟨s ++ t, (List.append_assoc ..).symm, .array hishead ht⟩
    · rename_i hmajor
      simp only [Option.bind_eq_some_iff, Option.pure_def, Option.some.injEq, Prod.exists] at h
      obtain ⟨entries, b'', hentries, hv⟩ := h
      obtain ⟨rfl, rfl⟩ := Prod.mk.inj hv
      obtain ⟨hlen, t, rfl, ht⟩ := decodeMany_entries_sound ih hentries
      rw [hmajor, ← hlen] at hishead
      exact ⟨s ++ t, (List.append_assoc ..).symm, .map hishead ht⟩
    · rename_i hmajor
      simp only [Option.bind_eq_some_iff, Option.pure_def, Option.some.injEq, Prod.exists] at h
      obtain ⟨content, b'', hcontent, hv⟩ := h
      obtain ⟨rfl, rfl⟩ := Prod.mk.inj hv
      obtain ⟨t, rfl, ht⟩ := ih hcontent
      rw [hmajor] at hishead
      exact ⟨s ++ t, (List.append_assoc ..).symm, .tag hishead ht⟩
    · rename_i h0 h1 h2 h3 h4 h5 h6
      -- The match leaves major type 7, as a head decoded from a byte has no larger one.
      have hmajor : head.major = 7 := by
        have := hs.major_lt
        simp only [imp_false] at h0 h1 h2 h3 h4 h5 h6
        omega
      split at h
      · rename_i hinfo
        obtain ⟨rfl, rfl⟩ := Prod.mk.inj (Option.some.inj h)
        refine ⟨s, rfl, .simple (hmajor ▸ hishead) ?_⟩
        cases hs with
        | short hm hlt => simp
        | wide k hm hk hlen =>
          obtain rfl : k = 0 := by
            simp only at hinfo
            omega
          rw [List.length_cons, hlen]
          decide
      · rename_i hinfo
        obtain ⟨rfl, rfl⟩ := Prod.mk.inj (Option.some.inj h)
        cases hs with
        | short hm hlt => exact absurd hinfo (by simp only; omega)
        | wide k hm hk hlen =>
          rename_i major x
          obtain rfl : major = 7 := hmajor
          have hbits : beBytes (2 ^ (24 + k - 24)) (beNat x) = x := by
            rw [Nat.add_sub_cancel_left, ← hlen]
            exact beBytes_beNat x
          refine ⟨_, rfl, ?_⟩
          rw [hbits]
          exact .float k hk hlen

end RatsRs.Lib.Cbor
