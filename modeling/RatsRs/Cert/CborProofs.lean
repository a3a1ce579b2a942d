import RatsRs.Cert.Cbor
import RatsRs.Lib.CborForms

/-! What the documents in a certificate are, for writer and reader.

Two things are known of `ciborium`. `Codec`: it writes a value in its shortest form and reads that
form back, at the types the crate reads; so each document is read back as it was written, whatever
its size (`codecs_roundtrip`). `Reads`: a value that was read, at any of the types, stands at the
front of the input in one of its forms; the readers of the crate are as liberal as that, and behind
the item anything may follow (`parsers_accept_forms`). -/
namespace RatsRs.Cert
open Lib Lib.Cbor Tee

/-! ### What is known of the codec -/

/-- The value of entries with text keys and byte strings. -/
def claimEntries (l : List (String × Bytes)) : Value :=
  .map (l.map fun claim => (.text claim.1, .bytes claim.2))

/-- Standard CBOR on values, byte strings for `Vec<u8>`, and a map by inserting its entries. -/
structure Ciborium.Codec (C : Ciborium) : Prop where
  write : ∀ v : Value, v.plain = true → v.fits = true → C.intoWriter v = .ok (encode v)
  read : ∀ v : Value, v.plain = true → v.fits = true → v.depth ≤ recursionLimit →
    C.fromReader (encode v) = .ok v
  readClaims : ∀ l, (claimEntries l).fits = true →
    C.fromReaderClaims (encode (claimEntries l)) = .ok (IndexMap.ofList l)
  readPubkeyHash : ∀ id (hash : Bytes), id < 256 → hash.length < 2 ^ 64 →
    C.fromReaderPubkeyHash (encode (.array [.unsigned id, .bytes hash])) = .ok (id, hash)

/-- A `Vec<u8>`: a byte string, or an array of integers below 256. -/
def ReadsBytes (v : Value) (b : Bytes) : Prop :=
  Untagged v (.bytes b) ∨ ∃ items, Untagged v (.array items) ∧
    List.Forall₂ (fun item x => Untagged item (.unsigned x.toNat)) items b

/-- A name and a value. -/
def ReadsClaim (e : Value × Value) (claim : String × Bytes) : Prop :=
  Untagged e.1 (.text claim.1) ∧ ReadsBytes e.2 claim.2

/-- The start of an array that says it has two items or does not say how many it has. -/
inductive OpensPair : Bytes → Prop
  | head {n : Nat} {s : Bytes} (hn : 2 ≤ n) (h : IsHead 4 n s) : OpensPair s
  | open : OpensPair [openByte 4]
  | tag {t : Nat} {head s : Bytes} (h : IsHead 6 t head) (inner : OpensPair s) : OpensPair (head ++ s)

/-- `from_reader` reads the first item there is, in any form. At types other than `Value` tags are
skipped, and of a tuple no more is read than its components. -/
structure Ciborium.Reads (C : Ciborium) : Prop where
  tagged : ∀ {b t items}, C.fromReader b = .ok (.tag t (.array items)) → plainItems items = true →
    ∃ s rest, b = s ++ rest ∧ Encodes (.tag t (.array items)) s
  claims : ∀ {b m}, C.fromReaderClaims b = .ok m →
    ∃ v s rest entries l, b = s ++ rest ∧ Encodes v s ∧ Untagged v (.map entries) ∧
      List.Forall₂ ReadsClaim entries l ∧ m = IndexMap.ofList l
  pubkeyHash : ∀ {b id hash}, C.fromReaderPubkeyHash b = .ok (id, hash) → id < 256 ∧
    ∃ start first second s t rest, b = start ++ (s ++ (t ++ rest)) ∧ OpensPair start ∧
      Encodes first s ∧ Untagged first (.unsigned id) ∧ Encodes second t ∧ ReadsBytes second hash

/-! ### Sizes -/

/-- As many claims, and names and values as long, as memory can hold. -/
structure ClaimsFit (claims : Claims) : Prop where
  size : claims.size < 2 ^ 64
  names : ∀ claim ∈ claims.entries, (utf8 claim.1).length < 2 ^ 64
  values : ∀ claim ∈ claims.entries, claim.2.length < 2 ^ 64

theorem fitsEntries_claims {l : List (String × Bytes)} (names : ∀ claim ∈ l, (utf8 claim.1).length < 2 ^ 64)
    (values : ∀ claim ∈ l, claim.2.length < 2 ^ 64) :
    fitsEntries (l.map fun claim => (Value.text claim.1, Value.bytes claim.2)) = true := by
  induction l with
  | nil => rfl
  | cons claim l ih =>
    rw [List.forall_mem_cons] at names values
    simp only [List.map_cons, fitsEntries, Value.fits, ih names.2 values.2, names.1, values.1,
      decide_true, Bool.and_self]

theorem plainEntries_claims (l : List (String × Bytes)) :
    plainEntries (l.map fun claim => (Value.text claim.1, Value.bytes claim.2)) = true := by
  induction l with
  | nil => rfl
  | cons claim l ih => simpa [plainEntries, Value.plain] using ih

theorem fits_claimsHelper {claims : Claims} (h : ClaimsFit claims) : (claimsHelper claims).fits = true := by
  simp only [claimsHelper, Value.fits, List.length_map, fitsEntries_claims h.names h.values, Bool.and_true,
    decide_eq_true_eq]
  exact h.size

theorem plain_claimsHelper (claims : Claims) : (claimsHelper claims).plain = true :=
  plainEntries_claims claims.entries

theorem fits_pair {id : Nat} {hash : Bytes} (hid : id < 256) (hhash : hash.length < 2 ^ 64) :
    (Value.array [.unsigned id, .bytes hash]).fits = true := by
  have hid' : id < 2 ^ 64 := Nat.lt_trans hid (by decide)
  simp only [Value.fits, fitsItems, hid', hhash, decide_true, Bool.and_self, List.length_cons,
    List.length_nil]
  rfl

section Codec
variable {C : Ciborium} (h : C.Codec)
include h

/-! ### Round trips -/

/-- An evidence buffer, for the tags that are not those of big integers. -/
theorem evidence_roundtrip {tag : Nat} {ev cb : Bytes} (htag : tag < 2 ^ 64) (h2 : tag ≠ 2) (h3 : tag ≠ 3)
    (hev : ev.length < 2 ^ 64) (hcb : cb.length < 2 ^ 64) :
    generateEvidenceBufferWithTag C tag ev cb = .ok (encode (taggedEvidence tag ev cb)) ∧
      parseEvidenceBufferWithTag C (encode (taggedEvidence tag ev cb)) = .ok (tag, ev, cb) := by
  have hplain : (taggedEvidence tag ev cb).plain = true := by
    simp [taggedEvidence, Value.plain, plainItems, h2, h3]
  have hfits : (taggedEvidence tag ev cb).fits = true := by
    simp only [taggedEvidence, Value.fits, fitsItems, htag, hev, hcb, decide_true, Bool.and_self,
      List.length_cons, List.length_nil]
    rfl
  have hdepth : (taggedEvidence tag ev cb).depth ≤ recursionLimit := by
    simp only [taggedEvidence, Value.depth, depthItems]
    decide
  constructor
  · rw [generateEvidenceBufferWithTag, h.write _ hplain hfits]
    rfl
  · rw [parseEvidenceBufferWithTag, h.read _ hplain hfits hdepth]
    rfl

/-- A claims buffer: the entries come back in the order they were in. -/
theorem claims_roundtrip {claims : Claims} (hfit : ClaimsFit claims) :
    generateClaimsBuffer C claims = .ok (encode (claimsHelper claims)) ∧
      parseClaimsBuffer C (encode (claimsHelper claims)) = .ok claims := by
  constructor
  · rw [generateClaimsBuffer, h.write _ (plain_claimsHelper claims) (fits_claimsHelper hfit)]
    rfl
  · have hread := h.readClaims claims.entries (fits_claimsHelper hfit)
    rw [IndexMap.ofList_eq] at hread
    show Res.ofForeign (C.fromReaderClaims (encode (claimEntries claims.entries))) = _
    rw [hread]
    rfl

theorem pubkeyHash_roundtrip (algo : HashAlgo) {hash : Bytes} (hhash : hash.length < 2 ^ 64) :
    generatePubkeyHashValueBuffer C algo hash = .ok (encode (pubkeyHashValue algo hash)) ∧
      parsePubkeyHashValueBuffer C (encode (pubkeyHashValue algo hash)) = .ok (algo, hash) := by
  have hid : ianaIdOfHashAlgo algo < 256 := by cases algo <;> decide
  constructor
  · rw [generatePubkeyHashValueBuffer, h.write (pubkeyHashValue algo hash) rfl (fits_pair hid hhash)]
    rfl
  · have hread := h.readPubkeyHash _ hash hid hhash
    rw [parsePubkeyHashValueBuffer, pubkeyHashValue, hread]
    simp only [Res.ofForeign, ok_bind, hashAlgoOfIanaId_ianaId]
    rfl

end Codec

/-! ### The library's codec -/

theorem libraryCiborium_codec : libraryCiborium.Codec := by
  have hread : ∀ v : Value, v.fits = true → v.depth ≤ recursionLimit →
      decode recursionLimit (encode v) = some (v, []) := by
    intro v hfits hdepth
    have hdecode := decode_encode v recursionLimit [] hfits hdepth
    rwa [List.append_nil] at hdecode
  exact {
    write := by
      intro v hplain hfits
      exact if_pos hfits
    read := by
      intro v hplain hfits hdepth
      simp only [libraryCiborium, hread v hfits hdepth]
    readClaims := by
      intro l hfits
      have hdepth : (claimEntries l).depth ≤ recursionLimit := by
        have := depthEntries_claims l
        simp only [claimEntries, Value.depth, recursionLimit]
        omega
      have hclaims : claimsOf? (claimEntries l) = some (IndexMap.ofList l) := by
        rw [claimEntries, claimsOf?, mapM_claimOf?, Option.map_some]
      simp only [libraryCiborium, hread _ hfits hdepth, Option.bind_some, hclaims]
    readPubkeyHash := by
      intro id hash hid hhash
      have hdepth : (Value.array [.unsigned id, .bytes hash]).depth ≤ recursionLimit := by
        simp only [Value.depth, depthItems]
        decide
      simp only [libraryCiborium, hread _ (fits_pair hid hhash) hdepth, Option.bind_some, pubkeyHashOf?,
        bytesOf?, hid, if_true, Option.map_some] }

/-- **Main theorem of writing.** Every document is written, and read back as it was; so is one in the
other, as they are in a certificate. -/
theorem codecs_roundtrip {C : Ciborium} (h : C.Codec) :
    (∀ tag ev cb, tag < 2 ^ 64 → tag ≠ 2 → tag ≠ 3 → ev.length < 2 ^ 64 → cb.length < 2 ^ 64 →
      ∃ b, generateEvidenceBufferWithTag C tag ev cb = .ok b ∧
        parseEvidenceBufferWithTag C b = .ok (tag, ev, cb)) ∧
    (∀ claims, ClaimsFit claims →
      ∃ b, generateClaimsBuffer C claims = .ok b ∧ parseClaimsBuffer C b = .ok claims) ∧
    (∀ algo (hash : Bytes), hash.length < 2 ^ 64 →
      ∃ b, generatePubkeyHashValueBuffer C algo hash = .ok b ∧
        parsePubkeyHashValueBuffer C b = .ok (algo, hash)) ∧
    ∀ tag quote algo (hash : Bytes) (claims : Claims) hb cb, tag < 2 ^ 64 → tag ≠ 2 → tag ≠ 3 →
      quote.length < 2 ^ 64 → hash.length < 2 ^ 64 →
      generatePubkeyHashValueBuffer C algo hash = .ok hb →
      ∀ name, ClaimsFit (claims.insert name hb) →
      generateClaimsBuffer C (claims.insert name hb) = .ok cb → cb.length < 2 ^ 64 →
      ∃ eb, generateEvidenceBufferWithTag C tag quote cb = .ok eb ∧
        parseEvidenceBufferWithTag C eb = .ok (tag, quote, cb) ∧
        parseClaimsBuffer C cb = .ok (claims.insert name hb) ∧
        (claims.insert name hb).get name = some hb ∧ parsePubkeyHashValueBuffer C hb = .ok (algo, hash) := by
  refine ⟨fun tag ev cb htag h2 h3 hev hcb => ⟨_, evidence_roundtrip h htag h2 h3 hev hcb⟩,
    fun claims hfit => ⟨_, claims_roundtrip h hfit⟩,
    fun algo hash hhash => ⟨_, pubkeyHash_roundtrip h algo hhash⟩, ?_⟩
  intro tag quote algo hash claims hb cb htag h2 h3 hquote hhash hwrite name hfit hwriteClaims hcb
  obtain ⟨hgen, hparse⟩ := pubkeyHash_roundtrip h algo hhash
  obtain ⟨hgenClaims, hparseClaims⟩ := claims_roundtrip h hfit
  obtain ⟨hgenEvidence, hparseEvidence⟩ := evidence_roundtrip h htag h2 h3 hquote hcb
  obtain rfl := Except.ok.inj (hgen.symm.trans hwrite)
  obtain rfl := Except.ok.inj (hgenClaims.symm.trans hwriteClaims)
  exact ⟨_, hgenEvidence, hparseEvidence, hparseClaims, IndexMap.get_insert_self _ _ _, hparse⟩

/-- The quote and the claims of a certificate. -/
theorem libraryCiborium_roundtrip :
    ∃ eb, generateEvidenceBufferWithTag libraryCiborium 60000 [1, 2] [0xa0] = .ok eb ∧
      parseEvidenceBufferWithTag libraryCiborium eb = .ok (60000, [1, 2], [0xa0]) :=
  (codecs_roundtrip libraryCiborium_codec).1 60000 [1, 2] [0xa0] (by decide) (by decide) (by decide)
    (by decide) (by decide)

/-! ### What is accepted -/

/-- The `match` of the reader leaves nothing but two byte strings under a tag. -/
theorem deserialize_eq_ok {C : Ciborium} {tagged : Value} {tag : Nat} {ev cb : Bytes}
    (h : TaggedEvidence.deserialize C tagged = .ok (tag, ev, cb)) : tagged = taggedEvidence tag ev cb := by
  unfold TaggedEvidence.deserialize at h
  split at h
  · split at h
    · split at h
      · dsimp only at h
        split at h
        · rw [ok_bind] at h
          split at h
          · rw [ok_bind, pure_eq_ok] at h
            cases h
            rfl
          · cases h
        · cases h
      · cases h
    · cases h
  · cases h

section Reads
variable {C : Ciborium} (hr : C.Reads) {b : Bytes}
include hr

theorem evidence_form {tag : Nat} {ev cb : Bytes} (h : parseEvidenceBufferWithTag C b = .ok (tag, ev, cb)) :
    ∃ s rest, b = s ++ rest ∧ Encodes (taggedEvidence tag ev cb) s := by
  obtain ⟨tagged, hread, hmatch⟩ := bind_eq_ok.mp (Res.ofForeign_eq_ok.mp h)
  obtain rfl := deserialize_eq_ok hmatch
  exact hr.tagged hread rfl

theorem claims_form {claims : Claims} (h : parseClaimsBuffer C b = .ok claims) :
    ∃ v s rest entries l, b = s ++ rest ∧ Encodes v s ∧ Untagged v (.map entries) ∧
      List.Forall₂ ReadsClaim entries l ∧ claims = IndexMap.ofList l :=
  hr.claims (Res.ofForeign_eq_ok.mp h)

theorem pubkeyHash_form {algo : HashAlgo} {hash : Bytes}
    (h : parsePubkeyHashValueBuffer C b = .ok (algo, hash)) :
    ∃ start first second s t rest, b = start ++ (s ++ (t ++ rest)) ∧ OpensPair start ∧ Encodes first s ∧
      Untagged first (.unsigned (ianaIdOfHashAlgo algo)) ∧ Encodes second t ∧ ReadsBytes second hash := by
  obtain ⟨read, hread, h⟩ := bind_eq_ok.mp h
  obtain ⟨algo', halgo, h⟩ := bind_eq_ok.mp h
  obtain ⟨rfl, rfl⟩ := Prod.mk.inj (pure_eq_ok.mp h)
  obtain ⟨-, hform⟩ := hr.pubkeyHash (Res.ofForeign_eq_ok.mp hread)
  rwa [hashAlgoOfIanaId_eq_ok.mp halgo] at hform

end Reads

/-! ### It fits when it is written -/

theorem ReadsBytes.length_le {v : Value} {b s : Bytes} (h : ReadsBytes v b) (hs : Encodes v s) :
    b.length ≤ s.length := by
  cases h with
  | inl hbytes =>
    obtain ⟨t, ht, hle⟩ := hs.untagged hbytes
    exact Nat.le_trans ht.bytes_length hle
  | inr harray =>
    obtain ⟨items, hitems, hall⟩ := harray
    obtain ⟨t, ht, hle⟩ := hs.untagged hitems
    obtain ⟨u, hu, hle'⟩ := ht.array_inv
    have := hu.length_le
    rw [← hall.length_eq]
    omega

theorem evidence_fits {tag : Nat} {ev cb s : Bytes} (h : Encodes (taggedEvidence tag ev cb) s) :
    tag < 2 ^ 64 ∧ ev.length ≤ s.length ∧ cb.length ≤ s.length := by
  cases h with
  | tag hhead content =>
    obtain ⟨t, ht, hle⟩ := content.array_inv
    cases ht with
    | cons first rest =>
      cases rest with
      | cons second rest =>
        have hev := first.bytes_length
        have hcb := second.bytes_length
        simp only [List.length_append] at hle ⊢
        exact ⟨hhead.arg_lt, by omega, by omega⟩

theorem claims_fit {v : Value} {s : Bytes} {entries : List (Value × Value)} {l : List (String × Bytes)}
    (hs : Encodes v s) (hmap : Untagged v (.map entries)) (hread : List.Forall₂ ReadsClaim entries l)
    (hlen : s.length < 2 ^ 64) : ClaimsFit (IndexMap.ofList l) := by
  obtain ⟨t, ht, hle⟩ := hs.untagged hmap
  obtain ⟨u, hu, hle'⟩ := ht.map_inv
  obtain ⟨hsub, hsize⟩ := IndexMap.ofList_sub l
  have hclaim : ∀ claim ∈ l, (utf8 claim.1).length ≤ s.length ∧ claim.2.length ≤ s.length := by
    intro claim hmem
    obtain ⟨e, he, hread⟩ : ∃ e ∈ entries, ReadsClaim e claim := by
      obtain ⟨i, hi, rfl⟩ := List.mem_iff_getElem.mp hmem
      exact ⟨_, List.getElem_mem (hread.length_eq ▸ hi), hread.get (hread.length_eq ▸ hi) hi⟩
    obtain ⟨k, w, hk, hw, hkl, hwl⟩ := hu.of_mem he
    obtain ⟨k', hk', hkl'⟩ := hk.untagged hread.1
    have hname := hk'.text_length
    have hvalue := hread.2.length_le hw
    omega
  have hcount := hu.length_le
  rw [hread.length_eq] at hcount
  exact {
    size := by omega
    names := by
      intro claim hmem
      have := (hclaim claim (hsub claim hmem)).1
      omega
    values := by
      intro claim hmem
      have := (hclaim claim (hsub claim hmem)).2
      omega }

/-! ### What the library's codec reads -/

theorem forall₂_of_mapM {α β : Type} {f : α → Option β} {R : α → β → Prop}
    (hf : ∀ a b, f a = some b → R a b) {l : List α} {r : List β} (h : l.mapM f = some r) :
    List.Forall₂ R l r := by
  induction l generalizing r with
  | nil =>
    obtain rfl := Option.some.inj h
    exact .nil
  | cons a l ih =>
    simp only [List.mapM_cons, Option.bind_eq_bind, Option.bind_eq_some_iff, Option.pure_def,
      Option.some.injEq] at h
    obtain ⟨b, hb, more, hmore, rfl⟩ := h
    exact .cons (hf a b hb) (ih hmore)

theorem readsBytes_of_bytesOf? {v : Value} {b : Bytes} (h : bytesOf? v = some b) : ReadsBytes v b := by
  unfold bytesOf? at h
  split at h
  · obtain rfl := Option.some.inj h
    exact .inl (.self _)
  · refine .inr ⟨_, .self _, forall₂_of_mapM ?_ h⟩
    intro item x hitem
    unfold byteOf? at hitem
    split at hitem
    · split at hitem
      · rename_i n hn
        obtain rfl := Option.some.inj hitem
        rw [UInt8.toNat_ofNat', Nat.mod_eq_of_lt hn]
        exact .self _
      · cases hitem
    · cases hitem
  · cases h

theorem readsClaim_of_claimOf? {e : Value × Value} {claim : String × Bytes} (h : claimOf? e = some claim) :
    ReadsClaim e claim := by
  unfold claimOf? at h
  split at h
  · obtain ⟨value, hvalue, rfl⟩ := Option.map_eq_some_iff.mp h
    exact ⟨.self _, readsBytes_of_bytesOf? hvalue⟩
  · cases h

/-- An array of two items, taken apart. -/
theorem pair_form {v w : Value} {s : Bytes} (h : Encodes (.array [v, w]) s) :
    ∃ start t u rest, s = start ++ (t ++ (u ++ rest)) ∧ OpensPair start ∧ Encodes v t ∧ Encodes w u := by
  cases h with
  | array hhead content =>
    cases content with
    | cons first rest =>
      cases rest with
      | cons second none =>
        cases none
        exact ⟨_, _, _, [], rfl, .head (Nat.le_refl 2) hhead, first, second⟩
  | openArray content =>
    cases content with
    | cons first rest =>
      cases rest with
      | cons second none =>
        cases none
        refine ⟨[openByte 4], _, _, [breakByte], ?_, .open, first, second⟩
        simp

theorem libraryCiborium_reads : libraryCiborium.Reads where
  tagged := by
    intro b t items h _
    simp only [libraryCiborium] at h
    split at h
    · rename_i v rest hdecode
      obtain rfl := Except.ok.inj h
      obtain ⟨s, hb, hs⟩ := decode_sound hdecode
      exact ⟨s, rest, hb, hs⟩
    · cases h
  claims := by
    intro b m h
    simp only [libraryCiborium] at h
    split at h
    · rename_i m' hm
      obtain rfl := Except.ok.inj h
      obtain ⟨read, hdecode, hclaims⟩ := Option.bind_eq_some_iff.mp hm
      obtain ⟨s, hb, hs⟩ := decode_sound hdecode
      unfold claimsOf? at hclaims
      split at hclaims
      · rename_i entries hv
        obtain ⟨l, hl, rfl⟩ := Option.map_eq_some_iff.mp hclaims
        refine ⟨_, s, _, entries, l, hb, hs, ?_, forall₂_of_mapM (fun _ _ => readsClaim_of_claimOf?) hl, rfl⟩
        rw [hv]
        exact .self _
      · cases hclaims
    · cases h
  pubkeyHash := by
    intro b id hash h
    simp only [libraryCiborium] at h
    split at h
    · rename_i read hread
      obtain rfl := Except.ok.inj h
      obtain ⟨decoded, hdecode, hpair⟩ := Option.bind_eq_some_iff.mp hread
      obtain ⟨s, hb, hs⟩ := decode_sound hdecode
      unfold pubkeyHashOf? at hpair
      split at hpair
      · rename_i n v hv
        split at hpair
        · rename_i hn
          obtain ⟨hash', hhash, heq⟩ := Option.map_eq_some_iff.mp hpair
          obtain ⟨rfl, rfl⟩ := Prod.mk.inj heq
          rw [hv] at hs
          obtain ⟨start, u, w, rest, rfl, hstart, hu, hw⟩ := pair_form hs
          refine ⟨hn, start, _, _, u, w, rest ++ decoded.2, ?_, hstart, hu, .self _, hw,
            readsBytes_of_bytesOf? hhash⟩
          rw [hb]
          simp only [List.append_assoc]
        · cases hpair
      · cases hpair
    · cases h

/-- **Main theorem of reading.** What is accepted begins with a document in one of its forms, and what
was read from it can be written, to be read again. -/
theorem parsers_accept_forms {C : Ciborium} (h : C.Codec) (hr : C.Reads) (b : Bytes)
    (hlen : b.length < 2 ^ 64) :
    (∀ tag ev cb, parseEvidenceBufferWithTag C b = .ok (tag, ev, cb) →
      (∃ s rest, b = s ++ rest ∧ Encodes (taggedEvidence tag ev cb) s) ∧
      (tag ≠ 2 → tag ≠ 3 → ∃ c, generateEvidenceBufferWithTag C tag ev cb = .ok c ∧
        parseEvidenceBufferWithTag C c = .ok (tag, ev, cb))) ∧
    (∀ claims, parseClaimsBuffer C b = .ok claims →
      (∃ v s rest entries l, b = s ++ rest ∧ Encodes v s ∧ Untagged v (.map entries) ∧
        List.Forall₂ ReadsClaim entries l ∧ claims = IndexMap.ofList l ∧
        ∀ name, claims.get name = l.reverse.lookup name) ∧
      ∃ c, generateClaimsBuffer C claims = .ok c ∧ parseClaimsBuffer C c = .ok claims) ∧
    ∀ algo hash, parsePubkeyHashValueBuffer C b = .ok (algo, hash) →
      (∃ start first second s t rest, b = start ++ (s ++ (t ++ rest)) ∧ OpensPair start ∧ Encodes first s ∧
        Untagged first (.unsigned (ianaIdOfHashAlgo algo)) ∧ Encodes second t ∧ ReadsBytes second hash) ∧
      ∃ c, generatePubkeyHashValueBuffer C algo hash = .ok c ∧
        parsePubkeyHashValueBuffer C c = .ok (algo, hash) := by
  refine ⟨?_, ?_, ?_⟩
  · intro tag ev cb hparse
    obtain ⟨s, rest, rfl, hs⟩ := evidence_form hr hparse
    obtain ⟨htag, hev, hcb⟩ := evidence_fits hs
    rw [List.length_append] at hlen
    exact ⟨⟨s, rest, rfl, hs⟩, fun h2 h3 =>
      ⟨_, evidence_roundtrip h htag h2 h3 (by omega) (by omega)⟩⟩
  · intro claims hparse
    obtain ⟨v, s, rest, entries, l, rfl, hs, hmap, hread, rfl⟩ := claims_form hr hparse
    rw [List.length_append] at hlen
    exact ⟨⟨v, s, rest, entries, l, rfl, hs, hmap, hread, rfl, IndexMap.get_ofList l⟩,
      _, claims_roundtrip h (claims_fit hs hmap hread (by omega))⟩
  · intro algo hash hparse
    obtain ⟨start, first, second, s, t, rest, rfl, hstart, hs, hfirst, ht, hsecond⟩ :=
      pubkeyHash_form hr hparse
    have hle := hsecond.length_le ht
    simp only [List.length_append] at hlen
    exact ⟨⟨start, first, second, s, t, rest, rfl, hstart, hs, hfirst, ht, hsecond⟩,
      _, pubkeyHash_roundtrip h algo (by omega)⟩

/-- Of an evidence buffer with a byte behind it. -/
theorem libraryCiborium_form :
    ∃ s rest, ([0xd9, 0xea, 0x60, 0x82, 0x41, 1, 0x41, 2, 0] : Bytes) = s ++ rest ∧
      Encodes (taggedEvidence 60000 [1] [2]) s :=
  ((parsers_accept_forms libraryCiborium_codec libraryCiborium_reads _ (by decide)).1 60000 [1] [2]
    (by decide +kernel)).1

/-- A byte behind the document, a name twice, an integer array for a value, and a byte behind the
pair: all of it is accepted, and is not what is written for what was read. -/
theorem lenient_inputs_accepted :
    (parseEvidenceBufferWithTag libraryCiborium [0xd9, 0xea, 0x60, 0x82, 0x41, 1, 0x41, 2, 0] =
        .ok (60000, [1], [2]) ∧
      generateEvidenceBufferWithTag libraryCiborium 60000 [1] [2] ≠
        .ok [0xd9, 0xea, 0x60, 0x82, 0x41, 1, 0x41, 2, 0]) ∧
    (parseClaimsBuffer libraryCiborium [0xa2, 0x61, 0x61, 0x41, 1, 0x61, 0x61, 0x41, 2] =
        .ok (.ofList [("a", [2])]) ∧
      generateClaimsBuffer libraryCiborium (.ofList [("a", [2])]) ≠
        .ok [0xa2, 0x61, 0x61, 0x41, 1, 0x61, 0x61, 0x41, 2]) ∧
    (parseClaimsBuffer libraryCiborium [0xa1, 0x61, 0x61, 0x82, 1, 2] = .ok (.ofList [("a", [1, 2])]) ∧
      generateClaimsBuffer libraryCiborium (.ofList [("a", [1, 2])]) ≠ .ok [0xa1, 0x61, 0x61, 0x82, 1, 2]) ∧
    (parsePubkeyHashValueBuffer libraryCiborium [0x82, 1, 0x41, 5, 0] = .ok (.sha256, [5]) ∧
      generatePubkeyHashValueBuffer libraryCiborium .sha256 [5] ≠ .ok [0x82, 1, 0x41, 5, 0]) := by
  refine ⟨⟨?_, ?_⟩, ⟨?_, ?_⟩, ⟨?_, ?_⟩, ⟨?_, ?_⟩⟩ <;> decide +kernel

end RatsRs.Cert
