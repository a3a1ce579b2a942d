import RatsRs.Transport.Measurement

/-! A measurement block in the form of the DMTF.

The index and the specification have a byte each and the size two; of the measurement, type and
representation share a byte, the value has two bytes for its size and then as many as that says. With the
hashes of SHA-2 this is a library as the crate relies on it. -/
namespace RatsRs.Transport.Dmtf
open Lib

def specificationByte : SpdmMeasurementSpecification → UInt8
  | .dmtf => 1
  | .other bits => bits

def specificationOf (bits : UInt8) : SpdmMeasurementSpecification := if bits = 1 then .dmtf else .other bits

def typeCode : SpdmDmtfMeasurementType → Nat
  | .spdmDmtfMeasurementManifest => 4
  | .other code => code

def typeOf (code : Nat) : SpdmDmtfMeasurementType :=
  if code = 4 then .spdmDmtfMeasurementManifest else .other code

/-- The highest bit is that of a raw bit stream. -/
def representationCode : SpdmDmtfMeasurementRepresentation → Nat
  | .spdmDmtfMeasurementDigest => 0
  | .spdmDmtfMeasurementRawBit => 0x80

def representationOf (code : Nat) : SpdmDmtfMeasurementRepresentation :=
  if code < 0x80 then .spdmDmtfMeasurementDigest else .spdmDmtfMeasurementRawBit

def blockBytes (block : SpdmMeasurementBlockStructure) : Bytes :=
  UInt8.ofNat block.index :: specificationByte block.measurementSpecification ::
    (leBytes 2 block.measurementSize ++
      UInt8.ofNat (typeCode block.measurement.type + representationCode block.measurement.representation) ::
        (leBytes 2 block.measurement.valueSize ++ block.content))

def encodeBlock (room : Nat) (block : SpdmMeasurementBlockStructure) : Except String Bytes :=
  if (blockBytes block).length ≤ room then .ok (blockBytes block) else .error "EncodeErr"

/-- Of a value that is longer than the array only as much is read. -/
def readBlock (maxValueLen : Nat) : Bytes → Option (SpdmMeasurementBlockStructure × Bytes)
  | index :: specification :: size₀ :: size₁ :: kind :: valueSize₀ :: valueSize₁ :: rest =>
    let valueSize := leNat [valueSize₀, valueSize₁]
    let value := rest.take (min valueSize maxValueLen)
    if value.length = min valueSize maxValueLen then
      some (⟨index.toNat, specificationOf specification, leNat [size₀, size₁],
        ⟨typeOf (kind.toNat % 0x80), representationOf kind.toNat, valueSize,
          value ++ List.replicate (maxValueLen - valueSize) 0⟩⟩, rest.drop value.length)
    else none
  | _ => none

/-- A digest, in an array for the longest one there is. -/
def digestStruct (digest : Bytes) : SpdmDigestStruct :=
  ⟨digest.length, digest ++ List.replicate (64 - digest.length) 0⟩

def hashAll (S : Sha2) : SpdmBaseHashAlgo → Bytes → Option SpdmDigestStruct
  | .tpmAlgSha256, bytes => some (digestStruct (S.hash .sha256 bytes))
  | .tpmAlgSha384, bytes => some (digestStruct (S.hash .sha384 bytes))
  | .tpmAlgSha512, bytes => some (digestStruct (S.hash .sha512 bytes))
  | .other _, _ => none

def lib (cfg : MeasurementConfig) (S : Sha2) : MeasurementLib where
  hashAll := hashAll S
  encode := encodeBlock
  read := readBlock cfg.maxValueLen
  showMeasurementHashAlgo algo := reprStr algo
  showBaseHashAlgo algo := reprStr algo

/-! ### It is lawful -/

theorem length_blockBytes {cfg : MeasurementConfig} {block : SpdmMeasurementBlockStructure}
    (h : block.WellFormed cfg) : (blockBytes block).length ≤ cfg.maxValueLen + 7 := by
  have hcontent := h.content
  have hsize := h.valueSize
  simp only [blockBytes, List.length_cons, List.length_append, length_leBytes]
  omega

/-- A well-formed block is read as it was written, whatever follows. -/
theorem readBlock_blockBytes {cfg : MeasurementConfig} {block : SpdmMeasurementBlockStructure}
    (h : block.WellFormed cfg) (rest : Bytes) :
    readBlock cfg.maxValueLen (blockBytes block ++ rest) = some (block, rest) := by
  obtain ⟨index, specification, size, type, representation, valueSize, value⟩ := block
  obtain ⟨hindex, hspec, hsize, htype, hvalueSize, hlen, hpadded⟩ := h
  simp only [SpdmMeasurementBlockStructure.content] at hindex hspec hsize htype hvalueSize hlen hpadded
  subst hspec htype
  have hfits := cfg.valueFits
  have hindex' : (UInt8.ofNat index).toNat = index := by
    rw [UInt8.toNat_ofNat']
    exact Nat.mod_eq_of_lt hindex
  have hsize' : leNat [UInt8.ofNat size, UInt8.ofNat (size / 256)] = size := leNat_leBytes 2 size (by omega)
  have hvalueSize' : leNat [UInt8.ofNat valueSize, UInt8.ofNat (valueSize / 256)] = valueSize :=
    leNat_leBytes 2 valueSize (by omega)
  have htake : (value.take valueSize ++ rest).take valueSize = value.take valueSize := List.take_left' hlen
  have hdrop : (value.take valueSize ++ rest).drop valueSize = rest := List.drop_left' hlen
  have hkind : representationOf
      (UInt8.ofNat (typeCode .spdmDmtfMeasurementManifest + representationCode representation)).toNat =
        representation := by cases representation <;> rfl
  have htype : typeOf
      ((UInt8.ofNat (typeCode .spdmDmtfMeasurementManifest + representationCode representation)).toNat % 0x80) =
        .spdmDmtfMeasurementManifest := by cases representation <;> rfl
  simp only [blockBytes, leBytes, List.cons_append, List.nil_append, readBlock,
    SpdmMeasurementBlockStructure.content, hvalueSize', Nat.min_eq_left hvalueSize, htake, hlen, if_true,
    hdrop, hindex', hsize', hkind, htype]
  rw [← hpadded]
  rfl

section Lawful
variable {cfg : MeasurementConfig} {S : Sha2}

theorem hashAll_size {algo : SpdmBaseHashAlgo} {bytes : Bytes} {digest : SpdmDigestStruct}
    (h : hashAll S algo bytes = some digest) :
    digest.dataSize ≤ digest.data.length ∧ digest.dataSize ≤ 64 := by
  have hstruct : ∀ hashAlgo, (digestStruct (S.hash hashAlgo bytes)).dataSize ≤
      (digestStruct (S.hash hashAlgo bytes)).data.length ∧
      (digestStruct (S.hash hashAlgo bytes)).dataSize ≤ 64 := by
    intro hashAlgo
    have hsize : hashAlgo.outputSize ≤ 64 := by cases hashAlgo <;> decide
    simp only [digestStruct, List.length_append, S.length_hash]
    exact ⟨Nat.le_add_right _ _, hsize⟩
  cases algo with
  | other bits => cases h
  | _ =>
    obtain rfl := Option.some.inj h
    exact hstruct _

theorem lawful (hroom : 64 ≤ cfg.maxValueLen) : (lib cfg S).Lawful cfg where
  digest := by
    intro algo bytes digest h
    obtain ⟨hdata, hsize⟩ := hashAll_size h
    exact ⟨hdata, Nat.le_trans hsize hroom⟩
  encode_length := by
    intro room block written hencode
    simp only [lib, encodeBlock] at hencode
    split at hencode
    next hroom =>
      obtain rfl := Except.ok.inj hencode
      exact hroom
    next => cases hencode
  read_encode := by
    intro room block written hblock hencode rest
    simp only [lib, encodeBlock] at hencode
    split at hencode
    next =>
      obtain rfl := Except.ok.inj hencode
      exact readBlock_blockBytes hblock rest
    next => cases hencode
  read_nil := rfl

/-- A record with room for a full value and the fields before it holds every block. -/
theorem encode_fits (hroom : cfg.maxValueLen + 7 ≤ cfg.maxRecordSize)
    {block : SpdmMeasurementBlockStructure} (hblock : block.WellFormed cfg) :
    ∃ written, (lib cfg S).encode cfg.maxRecordSize block = .ok written :=
  ⟨_, if_pos (Nat.le_trans (length_blockBytes hblock) hroom)⟩

end Lawful

end RatsRs.Transport.Dmtf
