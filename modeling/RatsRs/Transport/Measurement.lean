import RatsRs.Cert.Completeness
import RatsRs.Cert.Extensions
import RatsRs.Transport.FramedStreamProofs

/-! The measurements SPDM is given.

`RatsMeasurementProvider` has one block to show, with the claims of the evidence in it: as they are, or
hashed, as the measurement hash algorithm says. It is asked at two places: `measurement_collection` hands
the block over, `generate_measurement_summary_hash` the hash of it. Both build the block anew. `spdmlib`
hashes, and writes and reads blocks; it is a parameter, and `Lawful` is what it is taken to do. -/
namespace RatsRs.Transport
open Lib Tee Cert

/-! ### What `spdmlib` names -/

/-- One bit each; the crate looks for this one. -/
inductive SpdmMeasurementSpecification where
  | dmtf
  | other (bits : UInt8)
  deriving DecidableEq, Repr

inductive SpdmMeasurementHashAlgo where
  | rawBitStream
  | tpmAlgSha256
  | tpmAlgSha384
  | tpmAlgSha512
  | other (bits : UInt32)
  deriving DecidableEq, Repr

inductive SpdmBaseHashAlgo where
  | tpmAlgSha256
  | tpmAlgSha384
  | tpmAlgSha512
  | other (bits : UInt32)
  deriving DecidableEq, Repr

inductive SpdmMeasurementSummaryHashType where
  | none
  | tcb
  | all
  | other (code : UInt8)
  deriving DecidableEq, Repr

inductive SpdmDmtfMeasurementType where
  | spdmDmtfMeasurementManifest
  | other (code : Nat)
  deriving DecidableEq, Repr

inductive SpdmDmtfMeasurementRepresentation where
  | spdmDmtfMeasurementDigest
  | spdmDmtfMeasurementRawBit
  deriving DecidableEq, Repr

/-- What `GET_MEASUREMENTS` asks for, beside the index of a block. -/
def spdmMeasurementQueryTotalNumber : Nat := 0x00
def spdmMeasurementRequestAll : Nat := 0xff

/-- `value` is an array; `valueSize`, a `u16`, says how much of it counts. -/
structure SpdmDmtfMeasurementStructure where
  type : SpdmDmtfMeasurementType
  representation : SpdmDmtfMeasurementRepresentation
  valueSize : Nat
  value : Bytes
  deriving DecidableEq, Repr

structure SpdmMeasurementBlockStructure where
  index : Nat
  measurementSpecification : SpdmMeasurementSpecification
  measurementSize : Nat
  measurement : SpdmDmtfMeasurementStructure
  deriving DecidableEq, Repr

structure SpdmMeasurementRecordStructure where
  numberOfBlocks : Nat
  measurementRecordLength : Nat
  measurementRecordData : Bytes
  deriving DecidableEq, Repr

structure SpdmDigestStruct where
  dataSize : Nat
  data : Bytes
  deriving DecidableEq, Repr

/-- `spdmlib::config`: the arrays for a value and for a record. -/
structure MeasurementConfig where
  maxValueLen : Nat
  maxRecordSize : Nat
  /-- The size of a value, and of a block, is a `u16`. -/
  valueFits : maxValueLen + 3 < 2 ^ 16
  /-- The length of a record is a `u24`. -/
  recordFits : maxRecordSize < 2 ^ 24

/-- What is called of `spdmlib`. -/
structure MeasurementLib where
  hashAll : SpdmBaseHashAlgo → Bytes → Option SpdmDigestStruct
  /-- What `encode` writes with this much room; the error as it is printed. -/
  encode : Nat → SpdmMeasurementBlockStructure → Except String Bytes
  /-- The block in front, and what the reader has left. -/
  read : Bytes → Option (SpdmMeasurementBlockStructure × Bytes)
  showMeasurementHashAlgo : SpdmMeasurementHashAlgo → String
  showBaseHashAlgo : SpdmBaseHashAlgo → String

/-! ### The provider -/

def ratsMeasurementBlockIndex : Nat := 0x01

/-- `dst[..n].copy_from_slice(src)`. -/
def copyFromSlice (dst : Bytes) (n : Nat) (src : Bytes) : Except Crash Bytes :=
  if n ≤ dst.length ∧ n = src.length then .ok (splice dst 0 src) else .error .panic

structure RatsMeasurementProvider where
  claimsBuffer : Bytes
  deriving DecidableEq, Repr

namespace RatsMeasurementProvider

/-- `new_from_evidence`, which asks the evidence for its claims and for nothing else. -/
def newFromEvidence (C : Ciborium) (getClaims : Res Claims) : Res RatsMeasurementProvider := do
  let claims ← getClaims
  let claimsBuffer ← generateClaimsBuffer C claims
  .ok ⟨claimsBuffer⟩

/-- The one block, by what differs between the two representations. -/
def block (representation : SpdmDmtfMeasurementRepresentation) (valueSize : Nat) (value : Bytes) :
    SpdmMeasurementBlockStructure where
  index := ratsMeasurementBlockIndex
  measurementSpecification := .dmtf
  measurementSize := asU16 (valueSize + 3)
  measurement := ⟨.spdmDmtfMeasurementManifest, representation, valueSize, value⟩

section Provide
variable (lib : MeasurementLib) (cfg : MeasurementConfig) (self : RatsMeasurementProvider)

def createRatsMeasurementBlock (measurementHashAlgo : SpdmMeasurementHashAlgo) :
    Res SpdmMeasurementBlockStructure :=
  let value := List.replicate cfg.maxValueLen 0
  if measurementHashAlgo = .rawBitStream then
    -- this is a `todo!`
    if value.length < self.claimsBuffer.length then Res.crash .panic
    else do
      let valueSize := asU16 self.claimsBuffer.length
      let value ← Res.ofCrash (copyFromSlice value valueSize self.claimsBuffer)
      .ok (block .spdmDmtfMeasurementRawBit valueSize value)
  else do
    let hashAlgo ← match measurementHashAlgo with
      | .tpmAlgSha256 => .ok SpdmBaseHashAlgo.tpmAlgSha256
      | .tpmAlgSha384 => .ok SpdmBaseHashAlgo.tpmAlgSha384
      | .tpmAlgSha512 => .ok SpdmBaseHashAlgo.tpmAlgSha512
      | _ =>
        Res.fail .unsupportedHashAlgo
          ("Unsupported measurement hash algo " ++ lib.showMeasurementHashAlgo measurementHashAlgo)
    let digest ← match lib.hashAll hashAlgo self.claimsBuffer with
      | some digest => .ok digest
      | none =>
        Res.fail .calculateHashFailed
          ("The spdmlib failed to calculate hash with algo " ++ lib.showBaseHashAlgo hashAlgo)
    let valueSize := digest.dataSize
    let hash ← Res.ofCrash (slice digest.data 0 valueSize)
    let value ← Res.ofCrash (copyFromSlice value valueSize hash)
    .ok (block .spdmDmtfMeasurementDigest valueSize value)

/-- The array for a record, and how much of it the block takes. -/
def createRatsMeasurementBlockData (measurementHashAlgo : SpdmMeasurementHashAlgo) : Res (Bytes × Nat) := do
  let block ← (self.createRatsMeasurementBlock lib cfg measurementHashAlgo).context
    "Failed to create measurement block"
  let measurementRecordData := List.replicate cfg.maxRecordSize 0
  let written ← match lib.encode measurementRecordData.length block with
    | .ok written => .ok written
    | .error e =>
      Res.fail .spdmlibError
        ("The spdmlib failed to encode measurement block to bytes: " ++ e)
  .ok (splice measurementRecordData 0 written, written.length)

def measurementCollection (measurementSpecification : SpdmMeasurementSpecification)
    (measurementHashAlgo : SpdmMeasurementHashAlgo) (measurementIndex : Nat) :
    Except Crash (Option SpdmMeasurementRecordStructure) :=
  if measurementSpecification ≠ .dmtf then .ok none
  else if measurementIndex = spdmMeasurementQueryTotalNumber then
    .ok (some ⟨1, 0, List.replicate cfg.maxRecordSize 0⟩)
  else if measurementIndex = spdmMeasurementRequestAll ∨ measurementIndex = ratsMeasurementBlockIndex then do
    let data ← (self.createRatsMeasurementBlockData lib cfg measurementHashAlgo).getOk
    .ok (data.map fun data => ⟨1, data.2, data.1⟩)
  else .ok none

/-- The measurement specification is not looked at here. -/
def generateMeasurementSummaryHash (baseHashAlgo : SpdmBaseHashAlgo) (_ : SpdmMeasurementSpecification)
    (measurementHashAlgo : SpdmMeasurementHashAlgo)
    (measurementSummaryHashType : SpdmMeasurementSummaryHashType) :
    Except Crash (Option SpdmDigestStruct) :=
  match measurementSummaryHashType with
  | .all | .tcb => do
    let data ← (self.createRatsMeasurementBlockData lib cfg measurementHashAlgo).getOk
    match data with
    | none => .ok none
    | some (measurementRecordData, measurementRecordLength) => do
      let record ← slice measurementRecordData 0 measurementRecordLength
      .ok (lib.hashAll baseHashAlgo record)
  | .none | .other _ => .ok none

end Provide
end RatsMeasurementProvider

/-- `EmptyMeasurementProvider` has no block. -/
structure EmptyMeasurementProvider where
  deriving DecidableEq, Repr

namespace EmptyMeasurementProvider

def measurementCollection (cfg : MeasurementConfig) (_ : EmptyMeasurementProvider)
    (measurementSpecification : SpdmMeasurementSpecification) (_ : SpdmMeasurementHashAlgo)
    (measurementIndex : Nat) : Option SpdmMeasurementRecordStructure :=
  if measurementSpecification ≠ .dmtf then none
  else if measurementIndex = spdmMeasurementQueryTotalNumber then
    some ⟨0, 0, List.replicate cfg.maxRecordSize 0⟩
  else if measurementIndex = spdmMeasurementRequestAll ∨ measurementIndex = ratsMeasurementBlockIndex then
    some ⟨0, 0, List.replicate cfg.maxRecordSize 0⟩
  else none

def generateMeasurementSummaryHash (lib : MeasurementLib) (_ : EmptyMeasurementProvider)
    (baseHashAlgo : SpdmBaseHashAlgo) (_ : SpdmMeasurementSpecification) (_ : SpdmMeasurementHashAlgo)
    (measurementSummaryHashType : SpdmMeasurementSummaryHashType) : Option SpdmDigestStruct :=
  match measurementSummaryHashType with
  | .all | .tcb => lib.hashAll baseHashAlgo []
  | .none | .other _ => none

end EmptyMeasurementProvider

/-! ### Reading a record -/

/-- The bytes that count. -/
def SpdmMeasurementRecordStructure.bytes (record : SpdmMeasurementRecordStructure) : Bytes :=
  record.measurementRecordData.take record.measurementRecordLength

@[simp] theorem SpdmMeasurementRecordStructure.bytes_padded (numberOfBlocks : Nat) (written padding : Bytes) :
    bytes ⟨numberOfBlocks, written.length, written ++ padding⟩ = written := List.take_left

/-- The value of a block, without the padding. -/
def SpdmMeasurementBlockStructure.content (block : SpdmMeasurementBlockStructure) : Bytes :=
  block.measurement.value.take block.measurement.valueSize

/-- The loop with which the requester reads the blocks of a record, at most `fuel` of them. -/
def MeasurementLib.readBlocks (lib : MeasurementLib) : Nat → Bytes → List SpdmMeasurementBlockStructure
  | 0, _ => []
  | fuel + 1, reader =>
    match lib.read reader with
    | some (block, rest) => block :: lib.readBlocks fuel rest
    | none => []

/-! ### What is known of `spdmlib` -/

/-- A manifest under the DMTF specification whose numbers fit their fields and whose value is padded. -/
structure SpdmMeasurementBlockStructure.WellFormed (cfg : MeasurementConfig)
    (block : SpdmMeasurementBlockStructure) : Prop where
  index : block.index < 2 ^ 8
  specification : block.measurementSpecification = .dmtf
  size : block.measurementSize < 2 ^ 16
  type : block.measurement.type = .spdmDmtfMeasurementManifest
  valueSize : block.measurement.valueSize ≤ cfg.maxValueLen
  content : block.content.length = block.measurement.valueSize
  padded : block.measurement.value =
    block.content ++ List.replicate (cfg.maxValueLen - block.measurement.valueSize) 0

/-- Hashing and the codec of blocks. -/
structure MeasurementLib.Lawful (lib : MeasurementLib) (cfg : MeasurementConfig) : Prop where
  /-- A digest lies in its array, and the array for a value is large enough for it. -/
  digest : ∀ {algo bytes digest}, lib.hashAll algo bytes = some digest →
    digest.dataSize ≤ digest.data.length ∧ digest.dataSize ≤ cfg.maxValueLen
  encode_length : ∀ {room block written}, lib.encode room block = .ok written → written.length ≤ room
  read_encode : ∀ {room block written}, block.WellFormed cfg → lib.encode room block = .ok written →
    ∀ rest, lib.read (written ++ rest) = some (block, rest)
  read_nil : lib.read [] = none

theorem MeasurementLib.Lawful.readBlocks_nil {lib : MeasurementLib} {cfg : MeasurementConfig}
    (hlib : lib.Lawful cfg) (fuel : Nat) : lib.readBlocks fuel [] = [] := by
  cases fuel with
  | zero => rfl
  | succ fuel => rw [readBlocks, hlib.read_nil]

/-- A block and nothing behind it is read as one block. -/
theorem MeasurementLib.Lawful.readBlocks_encode {lib : MeasurementLib} {cfg : MeasurementConfig}
    (hlib : lib.Lawful cfg) {room : Nat} {block : SpdmMeasurementBlockStructure} {written : Bytes}
    (hblock : block.WellFormed cfg) (hencode : lib.encode room block = .ok written) :
    lib.read written = some (block, []) ∧ ∀ fuel, 0 < fuel → lib.readBlocks fuel written = [block] := by
  have hread := hlib.read_encode hblock hencode []
  rw [List.append_nil] at hread
  refine ⟨hread, ?_⟩
  intro fuel hfuel
  cases fuel with
  | zero => exact absurd hfuel (Nat.lt_irrefl 0)
  | succ fuel =>
    rw [readBlocks, hread]
    show block :: lib.readBlocks fuel [] = [block]
    rw [hlib.readBlocks_nil]

end RatsRs.Transport
