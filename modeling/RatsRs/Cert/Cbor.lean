import RatsRs.Lib.Cbor
import RatsRs.Crypto
import RatsRs.Tee.Basic

/-! The CBOR documents in a certificate.

The evidence extension holds a tagged array of quote and claims buffer, the claims
buffer a map of claims, and the claim about the public key an algorithm and a hash.
`ciborium` is a parameter; `Standard` is what the code relies on: a document is written
as CBOR has it, and what is written so is read back. -/
namespace RatsRs.Cert
open Lib Lib.Cbor Tee

/-- `ciborium`, at the types the crate reads and writes. -/
structure Ciborium where
  intoWriter : Value → Except String Bytes
  /-- `from_reader` at `Value`. -/
  fromReader : Bytes → Except String Value
  /-- `from_reader` at `Claims`. -/
  fromReaderClaims : Bytes → Except String Claims
  /-- `from_reader` at `(u8, Vec<u8>)`. -/
  fromReaderPubkeyHash : Bytes → Except String (Nat × Bytes)
  /-- The text of `serde::de::Error::invalid_type`. -/
  invalidType : Value → String → String

/-! ### Hash algorithms -/

/-- `TryFrom<HashAlgoIanaId> for HashAlgo`. -/
def hashAlgoOfIanaId : Nat → Res HashAlgo
  | 1 => .ok .sha256
  | 7 => .ok .sha384
  | 8 => .ok .sha512
  | value => Res.fail .unsupportedHashAlgo s!"unsupported hash-alg-id: {value}"

/-- `Into<HashAlgoIanaId> for HashAlgo`. -/
def ianaIdOfHashAlgo : HashAlgo → Nat
  | .sha256 => 1
  | .sha384 => 7
  | .sha512 => 8

theorem hashAlgoOfIanaId_eq_ok {id : Nat} {algo : HashAlgo} :
    hashAlgoOfIanaId id = .ok algo ↔ id = ianaIdOfHashAlgo algo := by
  unfold hashAlgoOfIanaId
  split <;> cases algo <;> simp_all [ianaIdOfHashAlgo, Res.fail]

@[simp] theorem hashAlgoOfIanaId_ianaId (algo : HashAlgo) :
    hashAlgoOfIanaId (ianaIdOfHashAlgo algo) = .ok algo := by
  cases algo <;> rfl

/-! ### The documents -/

/-- `TaggedEvidenceBufferHelperRef`. -/
def taggedEvidence (tag : Nat) (evidence claimsBuffer : Bytes) : Value :=
  .tag tag (.array [.bytes evidence, .bytes claimsBuffer])

/-- `ClaimsHelper`. -/
def claimsHelper (claims : Claims) : Value :=
  .map (claims.entries.map fun claim => (.text claim.1, .bytes claim.2))

def pubkeyHashValue (hashAlgo : HashAlgo) (hash : Bytes) : Value :=
  .array [.unsigned (ianaIdOfHashAlgo hashAlgo), .bytes hash]

section Codec
variable (C : Ciborium)

/-- `TaggedEvidenceBufferHelperOwned::deserialize`. -/
def TaggedEvidence.deserialize (tagged : Value) : Except String (Nat × Bytes × Bytes) :=
  match tagged with
  | .tag tag any =>
    match any with
    | .array a =>
      match a with
      | [a0, a1] => do
        let evidence ← match a0 with
          | .bytes bs => .ok bs
          | _ => .error (C.invalidType a0 "bytes (raw_evidence)")
        let claimsBuffer ← match a1 with
          | .bytes bs => .ok bs
          | _ => .error (C.invalidType a1 "bytes (claims_buffer)")
        pure (tag, evidence, claimsBuffer)
      | _ => .error (C.invalidType (.array a) "an array with length 2")
    | _ => .error (C.invalidType any "array")
  | _ => .error (C.invalidType tagged "tag")

def generateEvidenceBufferWithTag (tag : Nat) (rawEvidence claimsBuffer : Bytes) : Res Bytes :=
  Res.ofForeign (C.intoWriter (taggedEvidence tag rawEvidence claimsBuffer))

def parseEvidenceBufferWithTag (evidenceBuffer : Bytes) : Res (Nat × Bytes × Bytes) :=
  Res.ofForeign do
    let tagged ← C.fromReader evidenceBuffer
    TaggedEvidence.deserialize C tagged

def generateClaimsBuffer (claims : Claims) : Res Bytes :=
  Res.ofForeign (C.intoWriter (claimsHelper claims))

def parseClaimsBuffer (claimsBuffer : Bytes) : Res Claims :=
  Res.ofForeign (C.fromReaderClaims claimsBuffer)

def generatePubkeyHashValueBuffer (hashAlgo : HashAlgo) (hash : Bytes) : Res Bytes :=
  Res.ofForeign (C.intoWriter (pubkeyHashValue hashAlgo hash))

def parsePubkeyHashValueBuffer (pubkeyHashValueBuffer : Bytes) : Res (HashAlgo × Bytes) := do
  let (hashAlgoId, hash) ← Res.ofForeign (C.fromReaderPubkeyHash pubkeyHashValueBuffer)
  let hashAlgo ← hashAlgoOfIanaId hashAlgoId
  pure (hashAlgo, hash)

/-! ### What is relied on -/

/-- Written documents are standard CBOR, and standard CBOR is read back. -/
structure Ciborium.Standard : Prop where
  writeEvidence : ∀ tag ev cb b, C.intoWriter (taggedEvidence tag ev cb) = .ok b →
    (taggedEvidence tag ev cb).fits = true ∧ b = encode (taggedEvidence tag ev cb)
  writeClaims : ∀ claims b, C.intoWriter (claimsHelper claims) = .ok b →
    (claimsHelper claims).fits = true ∧ b = encode (claimsHelper claims)
  writePubkeyHash : ∀ algo hash b, C.intoWriter (pubkeyHashValue algo hash) = .ok b →
    (pubkeyHashValue algo hash).fits = true ∧ b = encode (pubkeyHashValue algo hash)
  /-- Tags 2 and 3 are those of big integers. -/
  readEvidence : ∀ tag ev cb, (taggedEvidence tag ev cb).fits = true → tag ≠ 2 → tag ≠ 3 →
    C.fromReader (encode (taggedEvidence tag ev cb)) = .ok (taggedEvidence tag ev cb)
  readClaims : ∀ claims, (claimsHelper claims).fits = true →
    C.fromReaderClaims (encode (claimsHelper claims)) = .ok claims
  readPubkeyHash : ∀ algo hash, (pubkeyHashValue algo hash).fits = true →
    C.fromReaderPubkeyHash (encode (pubkeyHashValue algo hash)) = .ok (ianaIdOfHashAlgo algo, hash)

variable {C}

/-- **Each document is read back as it was written.** -/
theorem parseEvidence_generate (h : C.Standard) {tag : Nat} {ev cb b : Bytes} (h2 : tag ≠ 2)
    (h3 : tag ≠ 3) (hw : generateEvidenceBufferWithTag C tag ev cb = .ok b) :
    parseEvidenceBufferWithTag C b = .ok (tag, ev, cb) := by
  obtain ⟨hf, rfl⟩ := h.writeEvidence tag ev cb b (Res.ofForeign_eq_ok.mp hw)
  rw [parseEvidenceBufferWithTag, h.readEvidence tag ev cb hf h2 h3]
  rfl

theorem parseClaims_generate (h : C.Standard) {claims : Claims} {b : Bytes}
    (hw : generateClaimsBuffer C claims = .ok b) : parseClaimsBuffer C b = .ok claims := by
  obtain ⟨hf, rfl⟩ := h.writeClaims claims b (Res.ofForeign_eq_ok.mp hw)
  rw [parseClaimsBuffer, h.readClaims claims hf]
  rfl

theorem parsePubkeyHash_generate (h : C.Standard) {algo : HashAlgo} {hash b : Bytes}
    (hw : generatePubkeyHashValueBuffer C algo hash = .ok b) :
    parsePubkeyHashValueBuffer C b = .ok (algo, hash) := by
  obtain ⟨hf, rfl⟩ := h.writePubkeyHash algo hash b (Res.ofForeign_eq_ok.mp hw)
  rw [parsePubkeyHashValueBuffer, h.readPubkeyHash algo hash hf]
  simp only [Res.ofForeign, ok_bind, hashAlgoOfIanaId_ianaId]
  rfl

end Codec

/-! ### An implementation -/

def byteOf? : Value → Option UInt8
  | .unsigned n => if n < 256 then some (UInt8.ofNat n) else none
  | _ => none

/-- A byte string, or an array of integers below 256. -/
def bytesOf? : Value → Option Bytes
  | .bytes b => some b
  | .array items => items.mapM byteOf?
  | _ => none

def claimOf? : Value × Value → Option (String × Bytes)
  | (.text name, value) => (bytesOf? value).map fun value => (name, value)
  | _ => none

/-- A map of texts to byte strings; of two entries with one name the later counts. -/
def claimsOf? : Value → Option Claims
  | .map entries => (entries.mapM claimOf?).map IndexMap.ofList
  | _ => none

def pubkeyHashOf? : Value → Option (Nat × Bytes)
  | .array [.unsigned id, hash] =>
    if id < 256 then (bytesOf? hash).map fun hash => (id, hash) else none
  | _ => none

/-- Reading bounded in depth as `from_reader` is. -/
def recursionLimit : Nat := 256

/-- `ciborium` by the codec of the library. -/
def libraryCiborium : Ciborium where
  intoWriter v := if v.fits = true then .ok (encode v) else .error "value too large"
  fromReader b := match decode recursionLimit b with
    | some (v, _) => .ok v
    | none => .error "syntax"
  fromReaderClaims b := match (decode recursionLimit b).bind fun p => claimsOf? p.1 with
    | some claims => .ok claims
    | none => .error "invalid type: expected map"
  fromReaderPubkeyHash b := match (decode recursionLimit b).bind fun p => pubkeyHashOf? p.1 with
    | some p => .ok p
    | none => .error "invalid type: expected a tuple of size 2"
  invalidType _ expected := s!"invalid type: expected {expected}"

theorem mapM_claimOf? (l : List (String × Bytes)) :
    (l.map fun claim => (Value.text claim.1, Value.bytes claim.2)).mapM claimOf? = some l := by
  induction l with
  | nil => rfl
  | cons e rest ih =>
    rw [List.map_cons, List.mapM_cons, ih]
    rfl

theorem depthEntries_claims (l : List (String × Bytes)) :
    depthEntries (l.map fun claim => (Value.text claim.1, Value.bytes claim.2)) ≤ 1 := by
  induction l with
  | nil => exact Nat.zero_le 1
  | cons e rest ih => simpa [depthEntries, Value.depth] using ih

theorem claimsOf?_claimsHelper (claims : Claims) : claimsOf? (claimsHelper claims) = some claims := by
  rw [claimsHelper, claimsOf?, mapM_claimOf?, Option.map_some, IndexMap.ofList_eq]

theorem depth_claimsHelper (claims : Claims) : (claimsHelper claims).depth ≤ 2 := by
  simpa [claimsHelper, Value.depth] using depthEntries_claims claims.entries

/-- The library's codec is standard. -/
theorem libraryCiborium_standard : libraryCiborium.Standard := by
  have hwrite : ∀ v b, libraryCiborium.intoWriter v = .ok b → v.fits = true ∧ b = encode v := by
    intro v b h
    simp only [libraryCiborium] at h
    split at h
    next hf => exact ⟨hf, (Except.ok.inj h).symm⟩
    next => cases h
  have hread : ∀ v : Value, v.fits = true → v.depth ≤ 4 →
      decode recursionLimit (encode v) = some (v, []) := by
    intro v hf hd
    have := decode_encode v recursionLimit [] hf (Nat.le_trans hd (by decide))
    rwa [List.append_nil] at this
  exact {
    writeEvidence := fun _ _ _ b => hwrite _ b
    writeClaims := fun _ b => hwrite _ b
    writePubkeyHash := fun _ _ b => hwrite _ b
    readEvidence := fun tag ev cb hf _ _ => by
      simp only [libraryCiborium, hread _ hf (by simp [taggedEvidence, Value.depth, depthItems])]
    readClaims := fun claims hf => by
      simp only [libraryCiborium, hread _ hf (Nat.le_trans (depth_claimsHelper claims) (by decide)),
        Option.bind_some, claimsOf?_claimsHelper]
    readPubkeyHash := fun algo hash hf => by
      have hid : ianaIdOfHashAlgo algo < 256 := by cases algo <;> decide
      simp only [libraryCiborium, hread _ hf (by simp [pubkeyHashValue, Value.depth, depthItems]),
        Option.bind_some]
      simp only [pubkeyHashValue, pubkeyHashOf?, bytesOf?, hid, if_true, Option.map_some] }

end RatsRs.Cert
