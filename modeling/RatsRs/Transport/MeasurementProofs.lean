import RatsRs.Transport.Dmtf

/-! What a requester is shown of the measurements.

Building the block ends in one of three ways, and both places that build it end as it does: with an
error, with a panic at claims that are too long for a block and are not to be hashed, or with a block
around the claims or their hash (`createRatsMeasurementBlockData_cases`). In the last case the record
that is handed over is that block and nothing else, and the summary is the hash of the record. -/
namespace RatsRs.Transport
open Lib Tee Cert

/-! ### Supported algorithms -/

/-- The base hash algorithm of the same hash. -/
def SpdmMeasurementHashAlgo.base : SpdmMeasurementHashAlgo → Option SpdmBaseHashAlgo
  | tpmAlgSha256 => some .tpmAlgSha256
  | tpmAlgSha384 => some .tpmAlgSha384
  | tpmAlgSha512 => some .tpmAlgSha512
  | rawBitStream | other _ => none

/-- The crate has a branch for the algorithm, and `spdmlib` the hash. -/
def MeasurementLib.Supports (lib : MeasurementLib) (measurementHashAlgo : SpdmMeasurementHashAlgo) : Prop :=
  measurementHashAlgo = .rawBitStream ∨ ∃ base, measurementHashAlgo.base = some base ∧
    ∀ bytes, ∃ digest, lib.hashAll base bytes = some digest

namespace RatsMeasurementProvider

/-! ### The block -/

/-- The block around a value. -/
def blockOf (cfg : MeasurementConfig) (representation : SpdmDmtfMeasurementRepresentation)
    (content : Bytes) : SpdmMeasurementBlockStructure :=
  block representation content.length (content ++ List.replicate (cfg.maxValueLen - content.length) 0)

section Block
variable {cfg : MeasurementConfig} {representation : SpdmDmtfMeasurementRepresentation} {content : Bytes}

@[simp] theorem blockOf_content : (blockOf cfg representation content).content = content := List.take_left

theorem blockOf_size (h : content.length ≤ cfg.maxValueLen) :
    (blockOf cfg representation content).measurementSize = content.length + 3 := by
  have hfits := cfg.valueFits
  exact asU16_eq_iff.mpr (by omega)

theorem blockOf_wellFormed (h : content.length ≤ cfg.maxValueLen) :
    (blockOf cfg representation content).WellFormed cfg where
  index := show ratsMeasurementBlockIndex < 2 ^ 8 by decide
  specification := rfl
  size := Nat.mod_lt _ (by decide)
  type := rfl
  valueSize := h
  content := by
    rw [blockOf_content]
    rfl
  padded := by
    rw [blockOf_content]
    rfl

/-- A value is copied to the front of its array. -/
theorem copyFromSlice_value (h : content.length ≤ cfg.maxValueLen) :
    copyFromSlice (List.replicate cfg.maxValueLen 0) content.length content =
      .ok (content ++ List.replicate (cfg.maxValueLen - content.length) 0) := by
  have hroom : content.length ≤ (List.replicate cfg.maxValueLen (0 : UInt8)).length := by
    rw [List.length_replicate]
    exact h
  rw [copyFromSlice, if_pos ⟨hroom, rfl⟩, splice_zero hroom, List.drop_replicate]

end Block

/-- What the block of an algorithm has for a value. -/
inductive Represents (lib : MeasurementLib) (self : RatsMeasurementProvider) :
    SpdmMeasurementHashAlgo → SpdmDmtfMeasurementRepresentation → Bytes → Prop
  | raw : Represents lib self .rawBitStream .spdmDmtfMeasurementRawBit self.claimsBuffer
  | digest {measurementHashAlgo : SpdmMeasurementHashAlgo} {base : SpdmBaseHashAlgo}
      {digest : SpdmDigestStruct} (hbase : measurementHashAlgo.base = some base)
      (hhash : lib.hashAll base self.claimsBuffer = some digest) :
      Represents lib self measurementHashAlgo .spdmDmtfMeasurementDigest
        (digest.data.take digest.dataSize)

section Outcomes
variable {lib : MeasurementLib} {cfg : MeasurementConfig} {self : RatsMeasurementProvider}
  {measurementHashAlgo : SpdmMeasurementHashAlgo} {representation : SpdmDmtfMeasurementRepresentation}
  {content : Bytes}

/-- With such a value, if it fits, the block is built. -/
theorem createRatsMeasurementBlock_ok (hlib : lib.Lawful cfg)
    (hrep : Represents lib self measurementHashAlgo representation content)
    (hfit : content.length ≤ cfg.maxValueLen) :
    self.createRatsMeasurementBlock lib cfg measurementHashAlgo = .ok (blockOf cfg representation content) := by
  cases hrep with
  | raw =>
    have hfits := cfg.valueFits
    have hsize : asU16 self.claimsBuffer.length = self.claimsBuffer.length := asU16_eq_iff.mpr (by omega)
    have hroom : ¬ (List.replicate cfg.maxValueLen (0 : UInt8)).length < self.claimsBuffer.length := by
      rw [List.length_replicate]
      omega
    simp only [createRatsMeasurementBlock, if_true, if_neg hroom, hsize, copyFromSlice_value hfit, Res.ofCrash,
      ok_bind]
    rfl
  | @digest _ base digest hbase hhash =>
    obtain ⟨hdata, hvalue⟩ := hlib.digest hhash
    have hlen : (digest.data.take digest.dataSize).length = digest.dataSize := by
      rw [List.length_take]
      exact Nat.min_eq_left hdata
    have hslice : slice digest.data 0 digest.dataSize = .ok (digest.data.take digest.dataSize) :=
      slice_ok (Nat.zero_le _) hdata
    have hcopy := copyFromSlice_value hfit
    rw [hlen] at hcopy
    have hblock : blockOf cfg .spdmDmtfMeasurementDigest (digest.data.take digest.dataSize) =
        block .spdmDmtfMeasurementDigest digest.dataSize
          (digest.data.take digest.dataSize ++ List.replicate (cfg.maxValueLen - digest.dataSize) 0) := by
      rw [blockOf, hlen]
    cases measurementHashAlgo <;> cases hbase
    all_goals
      simp only [createRatsMeasurementBlock, reduceCtorEq, if_false, ok_bind, hhash, hslice, hcopy,
        Res.ofCrash, hblock]

/-- Too long and not hashed. -/
def TooLong (cfg : MeasurementConfig) (self : RatsMeasurementProvider)
    (measurementHashAlgo : SpdmMeasurementHashAlgo) : Prop :=
  measurementHashAlgo = .rawBitStream ∧ cfg.maxValueLen < self.claimsBuffer.length

theorem createRatsMeasurementBlock_long (h : TooLong cfg self measurementHashAlgo) :
    self.createRatsMeasurementBlock lib cfg measurementHashAlgo = Res.crash .panic := by
  obtain ⟨rfl, hlong⟩ := h
  have hroom : (List.replicate cfg.maxValueLen (0 : UInt8)).length < self.claimsBuffer.length := by
    rw [List.length_replicate]
    exact hlong
  simp only [createRatsMeasurementBlock, if_true, if_pos hroom]

/-- The three ways in which building the block ends. -/
theorem createRatsMeasurementBlock_cases (hlib : lib.Lawful cfg) (self : RatsMeasurementProvider)
    (measurementHashAlgo : SpdmMeasurementHashAlgo) :
    TooLong cfg self measurementHashAlgo ∨
    (∃ e, self.createRatsMeasurementBlock lib cfg measurementHashAlgo = .error (.error e)) ∨
    ∃ representation content, Represents lib self measurementHashAlgo representation content ∧
      content.length ≤ cfg.maxValueLen := by
  by_cases hraw : measurementHashAlgo = .rawBitStream
  · subst hraw
    by_cases hfit : self.claimsBuffer.length ≤ cfg.maxValueLen
    · exact .inr (.inr ⟨_, _, .raw, hfit⟩)
    · exact .inl ⟨rfl, Nat.lt_of_not_le hfit⟩
  · cases hbase : measurementHashAlgo.base with
    | none =>
      cases measurementHashAlgo with
      | rawBitStream => exact absurd rfl hraw
      | other bits =>
        refine .inr (.inl ?_)
        simp only [createRatsMeasurementBlock, reduceCtorEq, if_false]
        exact ⟨_, rfl⟩
      | _ => cases hbase
    | some base =>
      cases hhash : lib.hashAll base self.claimsBuffer with
      | none =>
        refine .inr (.inl ?_)
        cases measurementHashAlgo <;> cases hbase
        all_goals
          simp only [createRatsMeasurementBlock, reduceCtorEq, if_false, ok_bind, hhash]
          exact ⟨_, rfl⟩
      | some digest =>
        obtain ⟨hdata, hvalue⟩ := hlib.digest hhash
        refine .inr (.inr ⟨_, _, .digest hbase hhash, ?_⟩)
        rw [List.length_take]
        omega

/-! ### The record -/

theorem createRatsMeasurementBlockData_ok (hlib : lib.Lawful cfg)
    (hrep : Represents lib self measurementHashAlgo representation content)
    (hfit : content.length ≤ cfg.maxValueLen) {written : Bytes}
    (hencode : lib.encode cfg.maxRecordSize (blockOf cfg representation content) = .ok written) :
    self.createRatsMeasurementBlockData lib cfg measurementHashAlgo =
      .ok (written ++ List.replicate (cfg.maxRecordSize - written.length) 0, written.length) := by
  have hroom : written.length ≤ (List.replicate cfg.maxRecordSize (0 : UInt8)).length := by
    rw [List.length_replicate]
    exact hlib.encode_length hencode
  rw [createRatsMeasurementBlockData, createRatsMeasurementBlock_ok hlib hrep hfit]
  simp only [Res.context, Res.mapError, ok_bind, List.length_replicate, hencode]
  rw [splice_zero hroom, List.drop_replicate]

theorem createRatsMeasurementBlockData_long (h : TooLong cfg self measurementHashAlgo) :
    (self.createRatsMeasurementBlockData lib cfg measurementHashAlgo).getOk = .error .panic := by
  rw [createRatsMeasurementBlockData, createRatsMeasurementBlock_long h]
  rfl

/-- What is handed over of the block, in the array of a record: an error leaves nothing of it. -/
theorem createRatsMeasurementBlockData_cases (hlib : lib.Lawful cfg) (self : RatsMeasurementProvider)
    (measurementHashAlgo : SpdmMeasurementHashAlgo) :
    (TooLong cfg self measurementHashAlgo ∧
      (self.createRatsMeasurementBlockData lib cfg measurementHashAlgo).getOk = .error .panic) ∨
    (¬ TooLong cfg self measurementHashAlgo ∧
      ((self.createRatsMeasurementBlockData lib cfg measurementHashAlgo).getOk = .ok none ∨
      ∃ representation content written, Represents lib self measurementHashAlgo representation content ∧
        content.length ≤ cfg.maxValueLen ∧
        lib.encode cfg.maxRecordSize (blockOf cfg representation content) = .ok written ∧
        (self.createRatsMeasurementBlockData lib cfg measurementHashAlgo).getOk =
          .ok (some (written ++ List.replicate (cfg.maxRecordSize - written.length) 0, written.length)))) := by
  by_cases hlong : TooLong cfg self measurementHashAlgo
  · exact .inl ⟨hlong, createRatsMeasurementBlockData_long hlong⟩
  · refine .inr ⟨hlong, ?_⟩
    rcases createRatsMeasurementBlock_cases hlib self measurementHashAlgo with
      h | ⟨e, he⟩ | ⟨representation, content, hrep, hfit⟩
    · exact absurd h hlong
    · refine .inl ?_
      rw [createRatsMeasurementBlockData, he]
      rfl
    · cases hencode : lib.encode cfg.maxRecordSize (blockOf cfg representation content) with
      | ok written =>
        refine .inr ⟨representation, content, written, hrep, hfit, hencode, ?_⟩
        rw [createRatsMeasurementBlockData_ok hlib hrep hfit hencode]
        rfl
      | error e =>
        refine .inl ?_
        rw [createRatsMeasurementBlockData, createRatsMeasurementBlock_ok hlib hrep hfit]
        simp only [Res.context, Res.mapError, ok_bind, List.length_replicate, hencode]
        rfl

/-! ### The two places -/

/-- A request that the block is built for. -/
def AsksForBlock (measurementSpecification : SpdmMeasurementSpecification) (measurementIndex : Nat) : Prop :=
  measurementSpecification = .dmtf ∧
    (measurementIndex = spdmMeasurementRequestAll ∨ measurementIndex = ratsMeasurementBlockIndex)

theorem measurementCollection_block {measurementSpecification : SpdmMeasurementSpecification}
    {measurementIndex : Nat} (h : AsksForBlock measurementSpecification measurementIndex) :
    self.measurementCollection lib cfg measurementSpecification measurementHashAlgo measurementIndex =
      (do
        let data ← (self.createRatsMeasurementBlockData lib cfg measurementHashAlgo).getOk
        .ok (data.map fun data => ⟨1, data.2, data.1⟩)) := by
  obtain ⟨rfl, hindex⟩ := h
  have hquery : measurementIndex ≠ spdmMeasurementQueryTotalNumber := by
    rcases hindex with rfl | rfl <;> decide
  rw [measurementCollection, if_neg (not_not_intro rfl), if_neg hquery, if_pos hindex]

/-- Any other request is answered without a block. -/
theorem measurementCollection_other {measurementSpecification : SpdmMeasurementSpecification}
    {measurementIndex : Nat} (h : ¬ AsksForBlock measurementSpecification measurementIndex) :
    ∃ answer, self.measurementCollection lib cfg measurementSpecification measurementHashAlgo
        measurementIndex = .ok answer ∧ ∀ record ∈ answer, record.bytes = [] := by
  unfold measurementCollection
  split
  · exact ⟨none, rfl, nofun⟩
  · next hspec =>
    split
    · refine ⟨_, rfl, ?_⟩
      intro record hrecord
      obtain rfl := Option.some.inj hrecord
      rfl
    · split
      · next hindex => exact absurd ⟨not_not.mp hspec, hindex⟩ h
      · exact ⟨none, rfl, nofun⟩

/-- The summary is the hash of what the record would be. -/
theorem generateMeasurementSummaryHash_data {measurementSummaryHashType : SpdmMeasurementSummaryHashType}
    (htype : measurementSummaryHashType = .all ∨ measurementSummaryHashType = .tcb)
    {measurementRecordData : Bytes} {measurementRecordLength : Nat}
    (hdata : (self.createRatsMeasurementBlockData lib cfg measurementHashAlgo).getOk =
      .ok (some (measurementRecordData, measurementRecordLength)))
    (hlen : measurementRecordLength ≤ measurementRecordData.length) (baseHashAlgo : SpdmBaseHashAlgo)
    (measurementSpecification : SpdmMeasurementSpecification) :
    self.generateMeasurementSummaryHash lib cfg baseHashAlgo measurementSpecification measurementHashAlgo
        measurementSummaryHashType =
      .ok (lib.hashAll baseHashAlgo (measurementRecordData.take measurementRecordLength)) := by
  have hslice : slice measurementRecordData 0 measurementRecordLength =
      .ok (measurementRecordData.take measurementRecordLength) := slice_ok (Nat.zero_le _) hlen
  rcases htype with rfl | rfl <;> simp only [generateMeasurementSummaryHash, hdata, ok_bind, hslice]

/-- A type that names no measurements has no summary. -/
theorem generateMeasurementSummaryHash_other {measurementSummaryHashType : SpdmMeasurementSummaryHashType}
    (htype : ¬ (measurementSummaryHashType = .all ∨ measurementSummaryHashType = .tcb))
    (baseHashAlgo : SpdmBaseHashAlgo) (measurementSpecification : SpdmMeasurementSpecification) :
    self.generateMeasurementSummaryHash lib cfg baseHashAlgo measurementSpecification measurementHashAlgo
      measurementSummaryHashType = .ok none := by
  cases measurementSummaryHashType with
  | none => rfl
  | other code => rfl
  | all => exact absurd (.inl rfl) htype
  | tcb => exact absurd (.inr rfl) htype

end Outcomes

/-! ### One block at both places -/

/-- `record` and `summary` are of the same `block`, and this is the claims of the evidence. -/
structure Agrees (lib : MeasurementLib) (cfg : MeasurementConfig) (C : Ciborium) (getClaims : Res Claims)
    (provider : RatsMeasurementProvider) (measurementHashAlgo : SpdmMeasurementHashAlgo)
    (record : SpdmMeasurementRecordStructure) (block : SpdmMeasurementBlockStructure) : Prop where
  collection : ∀ measurementIndex,
    measurementIndex = spdmMeasurementRequestAll ∨ measurementIndex = ratsMeasurementBlockIndex →
    provider.measurementCollection lib cfg .dmtf measurementHashAlgo measurementIndex = .ok (some record)
  number : record.numberOfBlocks = [block].length
  /-- The block is read and nothing is left; so the requester's loop has read all there is. -/
  decodes : lib.read record.bytes = some (block, []) ∧
    ∀ fuel, record.numberOfBlocks ≤ fuel → lib.readBlocks fuel record.bytes = [block]
  size : block.measurementSize = block.measurement.valueSize + 3
  buffer : ∃ claims, getClaims = .ok claims ∧ generateClaimsBuffer C claims = .ok provider.claimsBuffer
  raw : measurementHashAlgo = .rawBitStream → parseClaimsBuffer C block.content = getClaims
  hashed : measurementHashAlgo ≠ .rawBitStream → ∃ base digest, measurementHashAlgo.base = some base ∧
    lib.hashAll base provider.claimsBuffer = some digest ∧ block.content = digest.data.take digest.dataSize
  summary : ∀ baseHashAlgo measurementSpecification measurementSummaryHashType,
    measurementSummaryHashType = .all ∨ measurementSummaryHashType = .tcb →
    provider.generateMeasurementSummaryHash lib cfg baseHashAlgo measurementSpecification measurementHashAlgo
      measurementSummaryHashType = .ok (lib.hashAll baseHashAlgo record.bytes)

theorem newFromEvidence_eq_ok {C : Ciborium} {getClaims : Res Claims} {self : RatsMeasurementProvider} :
    newFromEvidence C getClaims = .ok self ↔
      ∃ claims, getClaims = .ok claims ∧ generateClaimsBuffer C claims = .ok self.claimsBuffer := by
  constructor
  · intro h
    obtain ⟨claims, hclaims, h⟩ := bind_eq_ok.mp h
    obtain ⟨claimsBuffer, hbuffer, h⟩ := bind_eq_ok.mp h
    obtain rfl := Except.ok.inj h
    exact ⟨claims, hclaims, hbuffer⟩
  · intro h
    obtain ⟨claims, hclaims, hbuffer⟩ := h
    rw [newFromEvidence, hclaims, ok_bind, hbuffer]
    rfl

/-- A supported algorithm has a value for the block, and a hash fits always. -/
theorem represents_of_supports {lib : MeasurementLib} {cfg : MeasurementConfig} (hlib : lib.Lawful cfg)
    {self : RatsMeasurementProvider} {measurementHashAlgo : SpdmMeasurementHashAlgo}
    (hsupports : lib.Supports measurementHashAlgo) (hfit : self.claimsBuffer.length ≤ cfg.maxValueLen) :
    ∃ representation content, Represents lib self measurementHashAlgo representation content ∧
      content.length ≤ cfg.maxValueLen := by
  rcases hsupports with rfl | ⟨base, hbase, hhash⟩
  · exact ⟨_, _, .raw, hfit⟩
  · obtain ⟨digest, hdigest⟩ := hhash self.claimsBuffer
    obtain ⟨hdata, hvalue⟩ := hlib.digest hdigest
    refine ⟨_, _, .digest hbase hdigest, ?_⟩
    rw [List.length_take]
    omega

/-! ### No crash -/

/-- One request at each place is answered, and a block in the answer has the claims buffer for a value or
a hash of it, whole. -/
structure Robust (lib : MeasurementLib) (cfg : MeasurementConfig) (provider : RatsMeasurementProvider)
    (measurementSpecification : SpdmMeasurementSpecification)
    (measurementHashAlgo : SpdmMeasurementHashAlgo) (measurementIndex : Nat)
    (baseHashAlgo : SpdmBaseHashAlgo) (measurementSummaryHashType : SpdmMeasurementSummaryHashType) :
    Prop where
  collection : ∃ answer, provider.measurementCollection lib cfg measurementSpecification measurementHashAlgo
    measurementIndex = .ok answer
  summary : ∃ answer, provider.generateMeasurementSummaryHash lib cfg baseHashAlgo measurementSpecification
    measurementHashAlgo measurementSummaryHashType = .ok answer
  whole : ∀ record, provider.measurementCollection lib cfg measurementSpecification measurementHashAlgo
      measurementIndex = .ok (some record) →
    ∀ fuel, ∀ block ∈ lib.readBlocks fuel record.bytes,
      Represents lib provider measurementHashAlgo block.measurement.representation block.content

section Robust
variable {lib : MeasurementLib} {cfg : MeasurementConfig} {self : RatsMeasurementProvider}
  {measurementSpecification : SpdmMeasurementSpecification}
  {measurementHashAlgo : SpdmMeasurementHashAlgo} {measurementIndex : Nat} {baseHashAlgo : SpdmBaseHashAlgo}
  {measurementSummaryHashType : SpdmMeasurementSummaryHashType}

theorem measurementCollection_answers (hlib : lib.Lawful cfg) :
    (∃ answer, self.measurementCollection lib cfg measurementSpecification measurementHashAlgo
        measurementIndex = .ok answer) ↔
      ¬ (TooLong cfg self measurementHashAlgo ∧ AsksForBlock measurementSpecification measurementIndex) := by
  by_cases hasks : AsksForBlock measurementSpecification measurementIndex
  · rw [measurementCollection_block hasks]
    rcases createRatsMeasurementBlockData_cases hlib self measurementHashAlgo with
      ⟨hlong, hdata⟩ | ⟨hshort, hdata | ⟨_, _, _, _, _, _, hdata⟩⟩
    all_goals rw [hdata]
    · exact ⟨nofun, fun h => absurd ⟨hlong, hasks⟩ h⟩
    · exact ⟨fun _ h => hshort h.1, fun _ => ⟨_, rfl⟩⟩
    · exact ⟨fun _ h => hshort h.1, fun _ => ⟨_, rfl⟩⟩
  · obtain ⟨answer, hanswer, -⟩ := measurementCollection_other hasks
    exact ⟨fun _ h => hasks h.2, fun _ => ⟨answer, hanswer⟩⟩

theorem generateMeasurementSummaryHash_answers (hlib : lib.Lawful cfg) :
    (∃ answer, self.generateMeasurementSummaryHash lib cfg baseHashAlgo measurementSpecification
        measurementHashAlgo measurementSummaryHashType = .ok answer) ↔
      ¬ (TooLong cfg self measurementHashAlgo ∧
        (measurementSummaryHashType = .all ∨ measurementSummaryHashType = .tcb)) := by
  by_cases htype : measurementSummaryHashType = .all ∨ measurementSummaryHashType = .tcb
  · rcases createRatsMeasurementBlockData_cases hlib self measurementHashAlgo with
      ⟨hlong, hdata⟩ | ⟨hshort, hdata | ⟨_, _, written, _, _, _, hdata⟩⟩
    · have hpanic : self.generateMeasurementSummaryHash lib cfg baseHashAlgo measurementSpecification
          measurementHashAlgo measurementSummaryHashType = .error .panic := by
        rcases htype with rfl | rfl <;> simp only [generateMeasurementSummaryHash, hdata, error_bind]
      rw [hpanic]
      exact ⟨nofun, fun h => absurd ⟨hlong, htype⟩ h⟩
    · have hnone : self.generateMeasurementSummaryHash lib cfg baseHashAlgo measurementSpecification
          measurementHashAlgo measurementSummaryHashType = .ok none := by
        rcases htype with rfl | rfl <;> simp only [generateMeasurementSummaryHash, hdata, ok_bind]
      exact ⟨fun _ h => hshort h.1, fun _ => ⟨_, hnone⟩⟩
    · have hsummary := generateMeasurementSummaryHash_data htype hdata (by simp) baseHashAlgo
        measurementSpecification
      exact ⟨fun _ h => hshort h.1, fun _ => ⟨_, hsummary⟩⟩
  · exact ⟨fun _ h => htype h.2, fun _ => ⟨_, generateMeasurementSummaryHash_other htype _ _⟩⟩

/-- A record holds no block or the one that was built. -/
theorem measurementCollection_whole (hlib : lib.Lawful cfg) {record : SpdmMeasurementRecordStructure}
    (h : self.measurementCollection lib cfg measurementSpecification measurementHashAlgo measurementIndex =
      .ok (some record)) (fuel : Nat) :
    ∀ block ∈ lib.readBlocks fuel record.bytes,
      Represents lib self measurementHashAlgo block.measurement.representation block.content := by
  by_cases hasks : AsksForBlock measurementSpecification measurementIndex
  · rw [measurementCollection_block hasks] at h
    rcases createRatsMeasurementBlockData_cases hlib self measurementHashAlgo with
      ⟨-, hdata⟩ | ⟨-, hdata | ⟨representation, content, written, hrep, hfit, hencode, hdata⟩⟩
    all_goals rw [hdata] at h
    · cases h
    · cases h
    · obtain rfl := Option.some.inj (Except.ok.inj h)
      intro block hblock
      simp only [SpdmMeasurementRecordStructure.bytes_padded] at hblock
      cases fuel with
      | zero => cases hblock
      | succ fuel =>
        obtain ⟨-, hblocks⟩ := hlib.readBlocks_encode (blockOf_wellFormed hfit) hencode
        rw [hblocks _ (Nat.succ_pos fuel)] at hblock
        obtain rfl := List.mem_singleton.mp hblock
        rw [blockOf_content]
        exact hrep
  · obtain ⟨answer, hanswer, hempty⟩ := measurementCollection_other hasks
    rw [h] at hanswer
    rw [hempty record (Option.mem_def.mpr (Except.ok.inj hanswer).symm), hlib.readBlocks_nil]
    nofun

end Robust

end RatsMeasurementProvider

/-- Without evidence there is no block to show, and the summary is the hash of that. -/
theorem EmptyMeasurementProvider.agrees {lib : MeasurementLib} {cfg : MeasurementConfig}
    (hlib : lib.Lawful cfg) (provider : EmptyMeasurementProvider)
    (measurementHashAlgo : SpdmMeasurementHashAlgo) :
    ∃ record,
      (∀ measurementIndex,
        measurementIndex = spdmMeasurementRequestAll ∨ measurementIndex = ratsMeasurementBlockIndex →
        provider.measurementCollection cfg .dmtf measurementHashAlgo measurementIndex = some record) ∧
      record.numberOfBlocks = 0 ∧ (∀ fuel, lib.readBlocks fuel record.bytes = []) ∧
      ∀ baseHashAlgo measurementSpecification measurementSummaryHashType,
        measurementSummaryHashType = .all ∨ measurementSummaryHashType = .tcb →
        provider.generateMeasurementSummaryHash lib baseHashAlgo measurementSpecification measurementHashAlgo
          measurementSummaryHashType = lib.hashAll baseHashAlgo record.bytes := by
  refine ⟨⟨0, 0, List.replicate cfg.maxRecordSize 0⟩, ?_, rfl, hlib.readBlocks_nil, ?_⟩
  · intro measurementIndex hindex
    rcases hindex with rfl | rfl <;> rfl
  · intro baseHashAlgo measurementSpecification measurementSummaryHashType htype
    rcases htype with rfl | rfl <;> rfl

open RatsMeasurementProvider

/-- **Main theorem.** For evidence whose claims fit a block, under every supported algorithm, what is handed
over is one block with these claims, and the summary is the hash of what is handed over. -/
theorem measurements_agree {lib : MeasurementLib} {cfg : MeasurementConfig} {C : Ciborium}
    (hlib : lib.Lawful cfg)
    (hroom : ∀ block : SpdmMeasurementBlockStructure, block.WellFormed cfg →
      ∃ written, lib.encode cfg.maxRecordSize block = .ok written)
    (hC : C.Standard) {getClaims : Res Claims} {self : RatsMeasurementProvider}
    (hself : newFromEvidence C getClaims = .ok self) (hfit : self.claimsBuffer.length ≤ cfg.maxValueLen)
    {measurementHashAlgo : SpdmMeasurementHashAlgo} (hsupports : lib.Supports measurementHashAlgo) :
    ∃ record block, Agrees lib cfg C getClaims self measurementHashAlgo record block := by
  obtain ⟨representation, content, hrep, hcontent⟩ := represents_of_supports hlib hsupports hfit
  have hblock : (blockOf cfg representation content).WellFormed cfg := blockOf_wellFormed hcontent
  obtain ⟨written, hencode⟩ := hroom _ hblock
  have hdata := createRatsMeasurementBlockData_ok hlib hrep hcontent hencode
  obtain ⟨hread, hblocks⟩ := hlib.readBlocks_encode hblock hencode
  obtain ⟨claims, hclaims, hbuffer⟩ := newFromEvidence_eq_ok.mp hself
  refine ⟨⟨1, written.length, written ++ List.replicate (cfg.maxRecordSize - written.length) 0⟩,
    blockOf cfg representation content, ?_⟩
  exact {
    collection := by
      intro measurementIndex hindex
      rw [measurementCollection_block ⟨rfl, hindex⟩, hdata]
      rfl
    number := rfl
    decodes := by
      rw [SpdmMeasurementRecordStructure.bytes_padded]
      exact ⟨hread, hblocks⟩
    size := blockOf_size hcontent
    buffer := ⟨claims, hclaims, hbuffer⟩
    raw := by
      intro hraw
      subst hraw
      cases hrep with
      | raw => rw [blockOf_content, parseClaims_generate hC hbuffer, hclaims]
      | digest hbase _ => cases hbase
    hashed := by
      intro hraw
      cases hrep with
      | raw => exact absurd rfl hraw
      | digest hbase hhash => exact ⟨_, _, hbase, hhash, blockOf_content⟩
    summary := by
      intro baseHashAlgo measurementSpecification measurementSummaryHashType htype
      have hlen : written.length ≤
          (written ++ List.replicate (cfg.maxRecordSize - written.length) (0 : UInt8)).length := by
        rw [List.length_append]
        exact Nat.le_add_right _ _
      exact generateMeasurementSummaryHash_data htype (by rw [hdata]; rfl) hlen _ _ }

/-! ### The sample's measurements

Its evidence, with the sizes of `spdmlib`'s default configuration, under no hash and under the one that the
responder offers; the digests are real. -/
namespace Sample
open Lib.Cbor Cert.Sample

def measurementConfig : MeasurementConfig := ⟨1024, 4096, by decide, by decide⟩

def builtinClaimsBuffer : Bytes := encode (claimsHelper (QuoteKind.sgx.format.claims quote))

def sha384OfBuiltinClaims : Nat :=
  0xc96d9971138fea7e9d92732e08e80d0b1dbdfc79280cd2fd3c7cdf7b35a5187ea6a63aa3b4a7ac7c52ba936b77b4fc5d

def rawRecord : Bytes :=
  Dmtf.blockBytes (blockOf measurementConfig .spdmDmtfMeasurementRawBit builtinClaimsBuffer)

def hashedRecord : Bytes :=
  Dmtf.blockBytes (blockOf measurementConfig .spdmDmtfMeasurementDigest (beBytes 48 sha384OfBuiltinClaims))

def measurementSha2 : Sha2 where
  digest algo b := beBytes algo.outputSize <|
    match algo with
    | .sha256 =>
      if b = rawRecord then 0x0d75c2f870855f77e838b825774934eb2576ba7122c9c285fecada693df7e0ee
      else if b = hashedRecord then 0x56af8b0d689a8876f8e88470fc361f58a8f755f4649b992ccd69a0dc45d3e9ba
      else 0
    | .sha384 =>
      if b = builtinClaimsBuffer then sha384OfBuiltinClaims
      else if b = rawRecord then
        0xd9eeef0a22451b4de4e84986d9006337bb8ebde9e473a77745dfeec2f31758808c101268ebd6bc38aac85bc47d0331e1
      else if b = hashedRecord then
        0x641940c36572240c5e1d639ea08a01860a2f49d82650f7ea48861fab73756ef8fcce95b67b4890a9b70981e6b69de9c6
      else 0
    | .sha512 =>
      if b = rawRecord then
        0xafd0be5711620043ec1007e5f3ef3791f37575f91e7f654ca9aa61af310f70f7 * 2 ^ 256 +
          0xe7036df133f7eea9391a8f2b8ac68f4ead3f8989acb323a4ff490c33a79e575e
      else if b = hashedRecord then
        0x903c3642208c936dffaf7839455e70f58a3da20937100306768a78bf4dd70b7e * 2 ^ 256 +
          0x68775fc8e7fa26a92eb2378d9b8147956334d8f3fc327f7f8d2731f53ef0d40a
      else 0
  length_digest _ _ := length_beBytes _ _

def measurementLib : MeasurementLib := Dmtf.lib measurementConfig measurementSha2

theorem measurementLib_lawful : measurementLib.Lawful measurementConfig := Dmtf.lawful (by decide)

def measurementProvider : RatsMeasurementProvider := ⟨builtinClaimsBuffer⟩

theorem measurementProvider_eq :
    newFromEvidence libraryCiborium (QuoteKind.sgx.evidence quote).getClaims = .ok measurementProvider := by
  rw [QuoteKind.getClaims_eq quote_accepted, newFromEvidence, ok_bind]
  decide +kernel

/-- A TDX quote of version 4 with nothing behind the report; its claims take more than a block. -/
def tdxQuote : Bytes :=
  leBytes 2 4 ++ leBytes 2 2 ++ leBytes 4 0x81 ++ List.replicate 628 0

end Sample

theorem measurements_agree_sample :
    (∃ record block, Agrees Sample.measurementLib Sample.measurementConfig libraryCiborium
      (QuoteKind.sgx.evidence Cert.Sample.quote).getClaims Sample.measurementProvider .rawBitStream
      record block) ∧
    ∃ record block, Agrees Sample.measurementLib Sample.measurementConfig libraryCiborium
      (QuoteKind.sgx.evidence Cert.Sample.quote).getClaims Sample.measurementProvider .tpmAlgSha384
      record block := by
  have hfit : Sample.measurementProvider.claimsBuffer.length ≤ Sample.measurementConfig.maxValueLen := by
    decide +kernel
  constructor
  · exact measurements_agree Sample.measurementLib_lawful (fun _ => Dmtf.encode_fits (by decide))
      libraryCiborium_standard Sample.measurementProvider_eq hfit (.inl rfl)
  · exact measurements_agree Sample.measurementLib_lawful (fun _ => Dmtf.encode_fits (by decide))
      libraryCiborium_standard Sample.measurementProvider_eq hfit (.inr ⟨_, rfl, fun _ => ⟨_, rfl⟩⟩)

/-- **Main theorem.** The provider crashes exactly where a block is built around claims that are too long for
one and are not to be hashed. -/
theorem measurements_robust_iff {lib : MeasurementLib} {cfg : MeasurementConfig} (hlib : lib.Lawful cfg)
    (self : RatsMeasurementProvider) (measurementSpecification : SpdmMeasurementSpecification)
    (measurementHashAlgo : SpdmMeasurementHashAlgo) (measurementIndex : Nat)
    (baseHashAlgo : SpdmBaseHashAlgo) (measurementSummaryHashType : SpdmMeasurementSummaryHashType) :
    Robust lib cfg self measurementSpecification measurementHashAlgo measurementIndex baseHashAlgo
        measurementSummaryHashType ↔
      ¬ (TooLong cfg self measurementHashAlgo ∧
        (AsksForBlock measurementSpecification measurementIndex ∨ measurementSummaryHashType = .all ∨
          measurementSummaryHashType = .tcb)) := by
  constructor
  · intro h hcrash
    obtain ⟨hlong, hasks | htype⟩ := hcrash
    · exact (measurementCollection_answers hlib).mp h.collection ⟨hlong, hasks⟩
    · exact (generateMeasurementSummaryHash_answers hlib).mp h.summary ⟨hlong, htype⟩
  · intro h
    exact {
      collection := (measurementCollection_answers hlib).mpr fun hcrash => h ⟨hcrash.1, .inl hcrash.2⟩
      summary := (generateMeasurementSummaryHash_answers hlib).mpr fun hcrash => h ⟨hcrash.1, .inr hcrash.2⟩
      whole := fun _ hrecord => measurementCollection_whole hlib hrecord }

theorem measurements_robust_sample :
    Robust Sample.measurementLib Sample.measurementConfig Sample.measurementProvider .dmtf .rawBitStream
        spdmMeasurementRequestAll .tpmAlgSha384 .all ↔
      ¬ (TooLong Sample.measurementConfig Sample.measurementProvider .rawBitStream ∧
        (AsksForBlock .dmtf spdmMeasurementRequestAll ∨ SpdmMeasurementSummaryHashType.all = .all ∨
          SpdmMeasurementSummaryHashType.all = .tcb)) :=
  measurements_robust_iff Sample.measurementLib_lawful _ _ _ _ _ _

/-- All the claims of a TDX quote are too much for a block, and asking for them as they are is a crash. -/
theorem tdx_claims_crash : TdxEvidence.newFromUnchecked Sample.tdxQuote = .ok ⟨Sample.tdxQuote⟩ ∧
    ∃ provider, newFromEvidence libraryCiborium (AutoEvidence.tdx ⟨Sample.tdxQuote⟩).getClaims = .ok provider ∧
    provider.measurementCollection Sample.measurementLib Sample.measurementConfig .dmtf .rawBitStream
      spdmMeasurementRequestAll = .error .panic ∧
    provider.generateMeasurementSummaryHash Sample.measurementLib Sample.measurementConfig .tpmAlgSha384 .dmtf
      .rawBitStream .all = .error .panic ∧
    ¬ Robust Sample.measurementLib Sample.measurementConfig provider .dmtf .rawBitStream
      spdmMeasurementRequestAll .tpmAlgSha384 .all := by
  refine ⟨by decide +kernel, ?_⟩
  have hlong : (match newFromEvidence libraryCiborium (AutoEvidence.tdx ⟨Sample.tdxQuote⟩).getClaims with
      | .ok provider => decide (1024 < provider.claimsBuffer.length)
      | .error _ => false) = true := by decide +kernel
  generalize newFromEvidence libraryCiborium (AutoEvidence.tdx ⟨Sample.tdxQuote⟩).getClaims = r at hlong
  cases r with
  | error e => cases hlong
  | ok provider =>
    have hcrash : TooLong Sample.measurementConfig provider .rawBitStream := ⟨rfl, of_decide_eq_true hlong⟩
    have hdata : (provider.createRatsMeasurementBlockData Sample.measurementLib Sample.measurementConfig
        .rawBitStream).getOk = .error .panic := createRatsMeasurementBlockData_long hcrash
    have hcollection : provider.measurementCollection Sample.measurementLib Sample.measurementConfig .dmtf
        .rawBitStream spdmMeasurementRequestAll = .error .panic := by
      rw [measurementCollection_block ⟨rfl, .inl rfl⟩, hdata]
      rfl
    refine ⟨provider, rfl, hcollection, ?_, ?_⟩
    · simp only [generateMeasurementSummaryHash, hdata, error_bind]
    · intro h
      obtain ⟨answer, hanswer⟩ := h.collection
      rw [hcollection] at hanswer
      cases hanswer

end RatsRs.Transport
