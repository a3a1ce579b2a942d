import RatsRs.Transport.MeasurementProofs
import RatsRs.Transport.Requester

/-! What a requester knows of the responder.

With `VERIFY_PEER` no call of `negotiate` sets up a session unless the strategy has accepted the chain of
the responder (`requester_authenticates`). The measurements it asks for next decide nothing: they are
printed, and a record that cannot be printed ends the call in a panic (`measurements_unchecked`). -/
namespace RatsRs.Transport
open Lib Tee Cert

/-! ### The responder's chain -/

/-- A call of `spdmlib` leaves a part of the context as it is. -/
def Leaves {C α β : Type} (part : C → β) (call : C → FramedStream → Called C α) : Prop :=
  ∀ common deviceIo, part (call common deviceIo).common = part common

/-- What is assumed of `spdmlib`: a context keeps its strategy; `send_receive_spdm_certificate` passes the
chain of the responder to the strategy, if that is ours, fails unless it is accepted, and keeps it; and that
chain, under whose key the responder signs from then on, stays to the end of the handshake. -/
structure PeerChecked {C E M : Type} (lib : RequesterLib C E M) (X : Externals) (D : Dcap) where
  strategy : C → CertValidationStrategy
  peerCertChain : C → Option Bytes
  newContext : ∀ capabilities s material, strategy (lib.newContext capabilities s material) = s
  connection : ∀ event, Leaves strategy (lib.initConnection event)
  digest : ∀ sessionId event, Leaves strategy (lib.sendReceiveSpdmDigest sessionId event)
  certificate : ∀ sessionId slotId event, Leaves strategy (lib.sendReceiveSpdmCertificate sessionId slotId event)
  challenge : ∀ slotId type event,
    Leaves (fun common => (strategy common, peerCertChain common)) (lib.sendReceiveSpdmChallenge slotId type event)
  measurement : ∀ sessionId slotId attributes operation event,
    Leaves (fun common => (strategy common, peerCertChain common))
      (lib.sendReceiveSpdmMeasurement sessionId slotId attributes operation event)
  session : ∀ usePsk slotId type event,
    Leaves (fun common => (strategy common, peerCertChain common)) (lib.startSession usePsk slotId type event)
  accepts : ∀ sessionId slotId event common deviceIo, strategy common = .rats →
    (lib.sendReceiveSpdmCertificate sessionId slotId event common deviceIo).outcome = .ok (.ok ()) →
      ∃ chain ∈ (lib.sendReceiveSpdmCertificate sessionId slotId event common deviceIo).asked,
        RatsCertValidationStrategy.verifyCertChain X D chain = .ok (.ok ()) ∧
        peerCertChain (lib.sendReceiveSpdmCertificate sessionId slotId event common deviceIo).common = some chain

section Peer
variable {C E M : Type} {lib : RequesterLib C E M} {X : Externals} {D : Dcap} (checked : PeerChecked lib X D)

/-- Before the responder's chain is there: our strategy, and the session id of an earlier call. -/
def Requesting.Unchecked (old : Option Nat) (state : Requesting C) : Prop :=
  checked.strategy state.requester.common = .rats ∧ state.requester.sessionId = old

/-- And after: the chain in the context is one that the strategy was asked about and accepted. -/
def Requesting.Checked (old : Option Nat) (state : Requesting C) : Prop :=
  state.Unchecked checked old ∧ ∃ chain ∈ state.asked,
    RatsCertValidationStrategy.verifyCertChain X D chain = .ok (.ok ()) ∧
    checked.peerCertChain state.requester.common = some chain

variable {checked} {α : Type} {old : Option Nat} {r : Request} {call : C → FramedStream → Called C α}

theorem Requesting.Unchecked.after {state : Requesting C} (h : state.Unchecked checked old)
    (hcall : Leaves checked.strategy call) :
    (state.after (call state.requester.common state.requester.deviceIo)).Unchecked checked old :=
  ⟨(hcall _ _).trans h.1, h.2⟩

theorem Requesting.Checked.after {state : Requesting C} (h : state.Checked checked old)
    (hcall : Leaves (fun common => (checked.strategy common, checked.peerCertChain common)) call) :
    (state.after (call state.requester.common state.requester.deviceIo)).Checked checked old := by
  obtain ⟨hunchecked, chain, hasked, haccepts, hchain⟩ := h
  obtain ⟨hstrategy, hpeer⟩ := Prod.mk.inj (hcall state.requester.common state.requester.deviceIo)
  exact ⟨⟨hstrategy.trans hunchecked.1, hunchecked.2⟩, chain, List.mem_append_left _ hasked, haccepts,
    hpeer.trans hchain⟩

theorem request_unchecked (hcall : Leaves checked.strategy call) :
    Proc.Triple (Requesting.Unchecked checked old) (request lib r call)
      (fun _ => Requesting.Unchecked checked old) (fun _ => Requesting.Unchecked checked old) :=
  request_triple (fun _ hstate _ _ => hstate.after hcall) (fun _ hstate _ => hstate.after hcall)

theorem request_checked
    (hcall : Leaves (fun common => (checked.strategy common, checked.peerCertChain common)) call) :
    Proc.Triple (Requesting.Checked checked old) (request lib r call)
      (fun _ => Requesting.Checked checked old) (fun _ => Requesting.Unchecked checked old) :=
  request_triple (fun _ hstate _ _ => hstate.after hcall) (fun _ hstate _ => (hstate.after hcall).1)

/-- The request that has the chain checked. -/
theorem request_certificate (event : E) :
    Proc.Triple (Requesting.Unchecked checked old)
      (request lib .certificate (lib.sendReceiveSpdmCertificate none 0 event))
      (fun _ => Requesting.Checked checked old) (fun _ => Requesting.Unchecked checked old) := by
  refine request_triple ?_ (fun _ hstate _ => hstate.after (checked.certificate none 0 event))
  intro state hstate _ hok
  obtain ⟨chain, hasked, haccepts, hchain⟩ := checked.accepts none 0 event _ _ hstate.1 hok
  exact ⟨hstate.after (checked.certificate none 0 event), chain, List.mem_append_right _ hasked, haccepts,
    hchain⟩

variable (summaryHashType : SpdmMeasurementSummaryHashType) (events : Request → E)

theorem measure_checked :
    Proc.Triple (Requesting.Unchecked checked old) (SpdmRequester.measure lib summaryHashType events)
      (fun _ => Requesting.Checked checked old) (fun _ => Requesting.Unchecked checked old) := by
  unfold SpdmRequester.measure
  refine (request_unchecked (checked.connection _)).bind fun _ => ?_
  refine (request_unchecked (checked.digest none _)).bind fun _ => ?_
  refine (request_certificate _).bind fun _ => ?_
  refine (request_checked (checked.challenge 0 _ _)).bind fun _ => ?_
  refine (request_checked (checked.measurement none 0 _ _ _)).bind fun measurements => ?_
  refine Proc.Triple.bind (Proc.Triple.ofExcept (fun _ _ _ hstate => hstate) fun _ _ _ hstate => hstate.1) fun _ => ?_
  exact Proc.Triple.pure fun _ hstate => hstate

/-- The session id is the one that `start_session` has returned. -/
theorem establish_checked :
    Proc.Triple (Requesting.Checked checked old) (SpdmRequester.establish lib summaryHashType events)
      (fun _ state => ∃ sessionId, state.Checked checked (some sessionId) ∧ ∃ common deviceIo,
        (lib.startSession false 0 summaryHashType (events .session) common deviceIo).outcome = .ok (.ok sessionId))
      (fun _ => Requesting.Unchecked checked old) := by
  have hrequest : Proc.Triple (Requesting.Checked checked old)
      (request lib .session (lib.startSession false 0 summaryHashType (events .session)))
      (fun sessionId state => state.Checked checked old ∧ ∃ common deviceIo,
        (lib.startSession false 0 summaryHashType (events .session) common deviceIo).outcome = .ok (.ok sessionId))
      (fun _ => Requesting.Unchecked checked old) :=
    request_triple
      (fun _ hstate _ hok => ⟨hstate.after (checked.session false 0 _ _), _, _, hok⟩)
      (fun _ hstate _ => (hstate.after (checked.session false 0 _ _)).1)
  refine hrequest.bind fun sessionId => Proc.Triple.modify ?_
  intro state hstate
  obtain ⟨⟨⟨hstrategy, -⟩, hchain⟩, hstarted⟩ := hstate
  exact ⟨sessionId, ⟨⟨hstrategy, rfl⟩, hchain⟩, hstarted⟩

variable (checked old) in
/-- What a call of `negotiate` leaves: a session with the holder of an accepted chain, or the session id
there was. -/
theorem negotiate_checked :
    Proc.Triple (Requesting.Unchecked checked old) (SpdmRequester.negotiate lib summaryHashType events)
      (fun _ state => ∃ sessionId, state.Checked checked (some sessionId) ∧ ∃ common deviceIo,
        (lib.startSession false 0 summaryHashType (events .session) common deviceIo).outcome = .ok (.ok sessionId))
      (fun _ => Requesting.Unchecked checked old) := by
  refine (measure_checked summaryHashType events).bind fun measurementRecord => ?_
  refine Proc.Triple.bind (Proc.Triple.ofExcept (fun _ _ _ hstate => hstate) fun _ _ _ hstate => hstate.1) fun _ => ?_
  exact establish_checked summaryHashType events

end Peer

/-! ### Calls -/

/-- A call of `negotiate` that has returned. -/
structure RequesterCall (C E : Type) where
  before : SpdmRequester C
  events : Request → E
  result : Except Error Unit
  after : SpdmRequester C
  asked : List Bytes

section Calls
variable {C E M : Type} (lib : RequesterLib C E M) (summaryHashType : SpdmMeasurementSummaryHashType)

/-- Calls on one requester, one after the other: none has panicked. -/
inductive RequesterCalls (start : SpdmRequester C) : List (RequesterCall C E) → SpdmRequester C → Prop
  | fresh : RequesterCalls start [] start
  | call {calls : List (RequesterCall C E)} {now : SpdmRequester C} {events : Request → E}
      {result : Except Error Unit} {state : Requesting C} (earlier : RequesterCalls start calls now)
      (returned : (SpdmRequester.negotiate lib summaryHashType events).exec ⟨now, []⟩ =
        (result.mapError Fault.error, state)) :
      RequesterCalls start (calls ++ [⟨now, events, result, state.requester, state.asked⟩]) state.requester

variable {lib} {X : Externals} {D : Dcap} (checked : PeerChecked lib X D)

/-- The call has set up the session with the holder of a certificate whose evidence is valid. -/
structure RequesterCall.Authenticates (call : RequesterCall C E) (sessionId : Nat) : Prop where
  ok : call.result = .ok ()
  started : ∃ common deviceIo, (lib.startSession false 0 summaryHashType (call.events .session) common
    deviceIo).outcome = .ok (.ok sessionId)
  chain : ∃ chain ∈ call.asked, checked.peerCertChain call.after.common = some chain ∧
    ∃ c : Chain, c.Valid X D chain

/-- A session id comes from the last call that succeeded. -/
def FromLastCall (calls : List (RequesterCall C E)) : Option Nat → Prop
  | none => ∀ call ∈ calls, call.result ≠ .ok ()
  | some sessionId => ∃ earlier call later, calls = earlier ++ call :: later ∧
      call.Authenticates summaryHashType checked sessionId ∧ ∀ c ∈ later, c.result ≠ .ok ()

variable {checked summaryHashType}

theorem FromLastCall.failed {calls : List (RequesterCall C E)} {sessionId : Option Nat}
    (h : FromLastCall summaryHashType checked calls sessionId) {call : RequesterCall C E}
    (hcall : call.result ≠ .ok ()) : FromLastCall summaryHashType checked (calls ++ [call]) sessionId := by
  cases sessionId with
  | none =>
    intro c hc
    rcases List.mem_append.mp hc with hc | hc
    · exact h c hc
    · obtain rfl := List.mem_singleton.mp hc
      exact hcall
  | some sessionId =>
    obtain ⟨earlier, last, later, rfl, hlast, hlater⟩ := h
    refine ⟨earlier, last, later ++ [call], by rw [List.append_assoc, List.cons_append], hlast, ?_⟩
    intro c hc
    rcases List.mem_append.mp hc with hc | hc
    · exact hlater c hc
    · obtain rfl := List.mem_singleton.mp hc
      exact hcall

theorem FromLastCall.succeeded {calls : List (RequesterCall C E)} {sessionId : Nat} {call : RequesterCall C E}
    (h : call.Authenticates summaryHashType checked sessionId) :
    FromLastCall summaryHashType checked (calls ++ [call]) (some sessionId) :=
  ⟨calls, call, [], rfl, h, fun c hc => (by cases hc)⟩

variable (checked) in
/-- In every run of calls the strategy stays, and the session id is that of the last one that succeeded. -/
theorem RequesterCalls.fromLastCall {start now : SpdmRequester C} {calls : List (RequesterCall C E)}
    (h : RequesterCalls lib summaryHashType start calls now) (hstrategy : checked.strategy start.common = .rats)
    (hnone : start.sessionId = none) :
    checked.strategy now.common = .rats ∧ FromLastCall summaryHashType checked calls now.sessionId := by
  induction h with
  | fresh =>
    refine ⟨hstrategy, ?_⟩
    rw [hnone]
    intro call hcall
    cases hcall
  | @call calls now events result state _ returned ih =>
    obtain ⟨hnow, hlast⟩ := ih
    have hspec := negotiate_checked checked now.sessionId summaryHashType events
    cases result with
    | ok u =>
      obtain ⟨sessionId, ⟨⟨hstate, hid⟩, chain, hasked, haccepts, hchain⟩, hstarted⟩ :=
        hspec.ok ⟨hnow, rfl⟩ returned
      refine ⟨hstate, ?_⟩
      obtain ⟨claims, hclaims⟩ := verifyCertChain_accepts.mp haccepts
      obtain ⟨c, hvalid, -⟩ := verifyCertDer_eq_ok.mp hclaims
      rw [hid]
      exact .succeeded ⟨rfl, hstarted, chain, hasked, hchain, c, hvalid⟩
    | error e =>
      obtain ⟨hstate, hid⟩ := hspec.error ⟨hnow, rfl⟩ returned
      refine ⟨hstate, ?_⟩
      rw [hid]
      exact hlast.failed fun hok => (by cases hok)

/-- With `VERIFY_PEER` the strategy is ours, and there is no session id. -/
theorem SpdmRequesterBuilder.buildWithTcpStream_ok {cfg : Config} {build : Build} {builder : SpdmRequesterBuilder}
    {attested : Res M} {empty : M} {requester : SpdmRequester C}
    (hmode : builder.verifyMode.contains .verifyPeer = true)
    (h : builder.buildWithTcpStream lib cfg build attested empty = .ok requester) :
    ∃ material, requester = SpdmRequester.new lib cfg build .rats material := by
  unfold SpdmRequesterBuilder.buildWithTcpStream at h
  obtain ⟨material, -, hnew⟩ := bind_eq_ok.mp h
  rw [if_pos hmode] at hnew
  exact ⟨material, (Except.ok.inj hnew).symm⟩

theorem SpdmRequester.intoSplit_ok {cfg : Config} {requester : SpdmRequester C} {readHalf : ReadHalf}
    {writeHalf : WriteHalf} {common : C} (h : requester.intoSplit cfg = .ok (readHalf, writeHalf, common)) :
    requester.sessionId = some readHalf.sessionId ∧ writeHalf.sessionId = readHalf.sessionId := by
  unfold SpdmRequester.intoSplit splitHalves at h
  cases hid : requester.sessionId with
  | none => rw [hid] at h; cases h
  | some sessionId =>
    rw [hid] at h
    obtain ⟨rfl, rfl, -⟩ := ok_triple_inj h
    exact ⟨rfl, rfl⟩

/-- **Main theorem.** A requester made by a builder with `VERIFY_PEER`, however often and with whatever
outcome `negotiate` is called on it: there are halves if and only if a call has succeeded; they are of the
session that the last such call has set up, and in that call the strategy accepted the chain that the
responder's signatures were then checked with, so it carries valid evidence. -/
theorem requester_authenticates (checked : PeerChecked lib X D) (cfg : Config) (build : Build)
    (builder : SpdmRequesterBuilder) (hmode : builder.verifyMode.contains .verifyPeer = true)
    (attested : Res M) (empty : M) (requester : SpdmRequester C)
    (hbuild : builder.buildWithTcpStream lib cfg build attested empty = .ok requester)
    (summaryHashType : SpdmMeasurementSummaryHashType) (calls : List (RequesterCall C E))
    (now : SpdmRequester C) (hcalls : RequesterCalls lib summaryHashType requester calls now) :
    ((∃ halves, now.intoSplit cfg = .ok halves) ↔ ∃ call ∈ calls, call.result = .ok ()) ∧
    ∀ readHalf writeHalf common, now.intoSplit cfg = .ok (readHalf, writeHalf, common) →
      writeHalf.sessionId = readHalf.sessionId ∧
      ∃ earlier call later, calls = earlier ++ call :: later ∧
        call.Authenticates summaryHashType checked readHalf.sessionId ∧ ∀ c ∈ later, c.result ≠ .ok () := by
  obtain ⟨material, rfl⟩ := SpdmRequesterBuilder.buildWithTcpStream_ok hmode hbuild
  obtain ⟨-, hlast⟩ := hcalls.fromLastCall checked (checked.newContext _ _ _) rfl
  refine ⟨⟨?_, ?_⟩, ?_⟩
  · rintro ⟨⟨readHalf, writeHalf, common⟩, hsplit⟩
    rw [(SpdmRequester.intoSplit_ok hsplit).1] at hlast
    obtain ⟨earlier, call, later, rfl, hcall, -⟩ := hlast
    exact ⟨call, List.mem_append_right _ (List.mem_cons_self ..), hcall.ok⟩
  · rintro ⟨call, hcall, hok⟩
    cases hid : now.sessionId with
    | none =>
      rw [hid] at hlast
      exact absurd hok (hlast call hcall)
    | some sessionId =>
      unfold SpdmRequester.intoSplit splitHalves
      rw [hid]
      exact ⟨_, rfl⟩
  · intro readHalf writeHalf common hsplit
    obtain ⟨hid, hwrite⟩ := SpdmRequester.intoSplit_ok hsplit
    rw [hid] at hlast
    exact ⟨hwrite, hlast⟩

end Calls

/-! ### The measurements -/

section Measurements
variable {C E M : Type} (lib : RequesterLib C E M)

/-- Reading a block takes it from what is read. -/
def RequesterLib.Consumes : Prop :=
  ∀ reader block rest, lib.readBlock reader = some (block, rest) → rest.length < reader.length

/-- The record lies in its array, and the value of each of its blocks in its own. -/
structure Printable (measurementRecord : SpdmMeasurementRecordStructure) : Prop where
  record : measurementRecord.measurementRecordLength ≤ measurementRecord.measurementRecordData.length
  values : ∀ blocks, readMeasurementBlocks lib.readBlock (measurementRecord.bytes.length + 1)
    measurementRecord.bytes = .ok blocks → ∀ block ∈ blocks, block.measurement.valueSize ≤ block.measurement.value.length

/-- `spdmlib` with other measurements. -/
def RequesterLib.withMeasurements
    (rewrite : SpdmMeasurementRecordStructure → SpdmMeasurementRecordStructure) : RequesterLib C E M :=
  { lib with
    sendReceiveSpdmMeasurement := fun sessionId slotId attributes operation event common deviceIo =>
      let called := lib.sendReceiveSpdmMeasurement sessionId slotId attributes operation event common deviceIo
      { called with
        outcome := called.outcome.map fun outcome => outcome.map fun measurements =>
          { measurements with measurementRecord := rewrite measurements.measurementRecord } } }

variable {lib}

theorem readMeasurementBlocks_ok (hlib : lib.Consumes) {fuel : Nat} {reader : Bytes} (h : reader.length < fuel) :
    ∃ blocks, readMeasurementBlocks lib.readBlock fuel reader = .ok blocks := by
  induction fuel generalizing reader with
  | zero => exact absurd h (Nat.not_lt_zero _)
  | succ fuel ih =>
    rw [readMeasurementBlocks]
    split
    · rename_i block rest hread
      have hrest := hlib reader block rest hread
      obtain ⟨blocks, hblocks⟩ := ih (show rest.length < fuel by omega)
      rw [hblocks]
      exact ⟨block :: blocks, rfl⟩
    · exact ⟨[], rfl⟩

/-- The values of blocks are printed if each of them lies in its array, and else that panics. -/
theorem mapM_values (blocks : List SpdmMeasurementBlockStructure) :
    (∃ values, (blocks.mapM fun block => slice block.measurement.value 0 block.measurement.valueSize) =
      .ok values ∧ ∀ block ∈ blocks, block.measurement.valueSize ≤ block.measurement.value.length) ∨
    ((blocks.mapM fun block => slice block.measurement.value 0 block.measurement.valueSize) = .error .panic ∧
      ∃ block ∈ blocks, block.measurement.value.length < block.measurement.valueSize) := by
  induction blocks with
  | nil => exact .inl ⟨[], rfl, fun block hblock => (by cases hblock)⟩
  | cons block blocks ih =>
    rw [List.mapM_cons]
    by_cases hfits : block.measurement.valueSize ≤ block.measurement.value.length
    · rw [slice_ok (Nat.zero_le _) hfits, ok_bind]
      rcases ih with ⟨values, hvalues, hall⟩ | ⟨hpanic, bad, hbad, hlong⟩
      · rw [hvalues]
        exact .inl ⟨_, rfl, List.forall_mem_cons.mpr ⟨hfits, hall⟩⟩
      · rw [hpanic]
        exact .inr ⟨rfl, bad, List.mem_cons_of_mem _ hbad, hlong⟩
    · have hpanic : slice block.measurement.value 0 block.measurement.valueSize = .error .panic := by
        rw [slice, if_neg (fun h => hfits h.2)]
      rw [hpanic]
      exact .inr ⟨rfl, block, List.mem_cons_self .., Nat.lt_of_not_le hfits⟩

theorem measurementValues_cases (hlib : lib.Consumes) (measurementRecord : SpdmMeasurementRecordStructure) :
    ((∃ values, measurementValues lib measurementRecord = .ok values) ∧ Printable lib measurementRecord) ∨
    (measurementValues lib measurementRecord = .error .panic ∧ ¬ Printable lib measurementRecord) := by
  unfold measurementValues
  by_cases hrecord :
      measurementRecord.measurementRecordLength ≤ measurementRecord.measurementRecordData.length
  · have hslice : slice measurementRecord.measurementRecordData 0 measurementRecord.measurementRecordLength =
        .ok measurementRecord.bytes := slice_ok (Nat.zero_le _) hrecord
    obtain ⟨blocks, hblocks⟩ := readMeasurementBlocks_ok hlib (Nat.lt_succ_self measurementRecord.bytes.length)
    rw [hslice, ok_bind, hblocks, ok_bind]
    rcases mapM_values blocks with ⟨values, hvalues, hall⟩ | ⟨hpanic, block, hblock, hlong⟩
    · refine .inl ⟨⟨values, hvalues⟩, hrecord, ?_⟩
      intro read hread
      rw [hblocks] at hread
      obtain rfl := Except.ok.inj hread
      exact hall
    · exact .inr ⟨hpanic, fun h => absurd (h.values blocks hblocks block hblock) (Nat.not_le.mpr hlong)⟩
  · have hpanic : slice measurementRecord.measurementRecordData 0 measurementRecord.measurementRecordLength =
        .error .panic := by
      rw [slice, if_neg (fun h => hrecord h.2)]
    rw [hpanic]
    exact .inr ⟨rfl, fun h => hrecord h.record⟩

variable (summaryHashType : SpdmMeasurementSummaryHashType) (events : Request → E)

/-- Other measurements change the record that comes of asking for them, and no more. -/
theorem measure_withMeasurements (rewrite : SpdmMeasurementRecordStructure → SpdmMeasurementRecordStructure) :
    SpdmRequester.measure (lib.withMeasurements rewrite) summaryHashType events =
      rewrite <$> SpdmRequester.measure lib summaryHashType events := by
  have hmeasurement : request (lib.withMeasurements rewrite) .measurement
      ((lib.withMeasurements rewrite).sendReceiveSpdmMeasurement none 0
        [.signatureRequested, .rawBitStreamRequested] spdmMeasurementRequestAll (events .measurement)) =
      (fun measurements : Measurements =>
          { measurements with measurementRecord := rewrite measurements.measurementRecord }) <$>
        request lib .measurement (lib.sendReceiveSpdmMeasurement none 0
          [.signatureRequested, .rawBitStreamRequested] spdmMeasurementRequestAll (events .measurement)) := by
    apply Proc.ext
    intro state
    rw [Proc.exec_map, exec_request, exec_request]
    refine Prod.ext ?_ rfl
    simp only [Called.result, RequesterLib.withMeasurements]
    rcases (lib.sendReceiveSpdmMeasurement none 0 [.signatureRequested, .rawBitStreamRequested]
      spdmMeasurementRequestAll (events .measurement) state.requester.common state.requester.deviceIo).outcome with
      c | status | measurements <;> rfl
  unfold SpdmRequester.measure
  simp only [map_bind, map_pure, hmeasurement, bind_map_left]
  rfl

/-- What the printing of the record leads to. -/
theorem exec_print (hlib : lib.Consumes) {α : Type} (measurementRecord : SpdmMeasurementRecordStructure)
    (rest : Proc (Requesting C) Fault α) (state : Requesting C) :
    (Printable lib measurementRecord ∧
      (Proc.ofExcept (Res.ofCrash (measurementValues lib measurementRecord)) >>= fun _ => rest).exec state =
        rest.exec state) ∨
    (¬ Printable lib measurementRecord ∧
      (Proc.ofExcept (Res.ofCrash (measurementValues lib measurementRecord)) >>= fun _ => rest).exec state =
        (.error (.crash .panic), state)) := by
  rw [Proc.exec_bind, Proc.exec_ofExcept]
  rcases measurementValues_cases hlib measurementRecord with ⟨⟨values, hvalues⟩, hprintable⟩ | ⟨hpanic, hnot⟩
  · rw [hvalues]
    exact .inl ⟨hprintable, rfl⟩
  · rw [hpanic]
    exact .inr ⟨hnot, rfl⟩

theorem printable_withMeasurements {rewrite : SpdmMeasurementRecordStructure → SpdmMeasurementRecordStructure}
    {measurementRecord : SpdmMeasurementRecordStructure} :
    Printable (lib.withMeasurements rewrite) measurementRecord ↔ Printable lib measurementRecord :=
  ⟨fun h => ⟨h.record, h.values⟩, fun h => ⟨h.record, h.values⟩⟩

theorem negotiate_unmeasured {state after : Requesting C} {e : Fault}
    (h : (SpdmRequester.measure lib summaryHashType events).exec state = (.error e, after)) :
    (SpdmRequester.negotiate lib summaryHashType events).exec state = (.error e, after) := by
  unfold SpdmRequester.negotiate
  rw [Proc.exec_bind, h]

/-- What is left of `negotiate` once the measurements are there. -/
theorem negotiate_measured (hlib : lib.Consumes) {state after : Requesting C}
    {measurementRecord : SpdmMeasurementRecordStructure}
    (h : (SpdmRequester.measure lib summaryHashType events).exec state = (.ok measurementRecord, after)) :
    (Printable lib measurementRecord ∧
      (SpdmRequester.negotiate lib summaryHashType events).exec state =
        (SpdmRequester.establish lib summaryHashType events).exec after) ∨
    (¬ Printable lib measurementRecord ∧
      (SpdmRequester.negotiate lib summaryHashType events).exec state = (.error (.crash .panic), after)) := by
  unfold SpdmRequester.negotiate
  rw [Proc.exec_bind, h]
  exact exec_print hlib measurementRecord _ after

/-- No call of `spdmlib` panics. -/
structure RequesterLib.Returns (lib : RequesterLib C E M) : Prop where
  connection : ∀ event common deviceIo, ∃ r, (lib.initConnection event common deviceIo).outcome = .ok r
  digest : ∀ sessionId event common deviceIo,
    ∃ r, (lib.sendReceiveSpdmDigest sessionId event common deviceIo).outcome = .ok r
  certificate : ∀ sessionId slotId event common deviceIo,
    ∃ r, (lib.sendReceiveSpdmCertificate sessionId slotId event common deviceIo).outcome = .ok r
  challenge : ∀ slotId type event common deviceIo,
    ∃ r, (lib.sendReceiveSpdmChallenge slotId type event common deviceIo).outcome = .ok r
  measurement : ∀ sessionId slotId attributes operation event common deviceIo,
    ∃ r, (lib.sendReceiveSpdmMeasurement sessionId slotId attributes operation event common deviceIo).outcome = .ok r
  session : ∀ usePsk slotId type event common deviceIo,
    ∃ r, (lib.startSession usePsk slotId type event common deviceIo).outcome = .ok r

/-- A procedure does not panic. -/
def Calm {σ α : Type} (p : Proc σ Fault α) : Prop :=
  Proc.Triple (fun _ => True) p (fun _ _ => True) (fun e _ => ∀ c, e ≠ .crash c)

theorem Calm.bind {σ α β : Type} {p : Proc σ Fault α} {f : α → Proc σ Fault β} (hp : Calm p)
    (hf : ∀ a, Calm (f a)) : Calm (p >>= f) :=
  Proc.Triple.bind hp hf

theorem Calm.request {α : Type} {r : Request} {call : C → FramedStream → Called C α}
    (h : ∀ common deviceIo, ∃ outcome, (call common deviceIo).outcome = .ok outcome) :
    Calm (request lib r call) := by
  intro state _
  rw [exec_request]
  obtain ⟨outcome, houtcome⟩ := h state.requester.common state.requester.deviceIo
  rcases hresult : (call state.requester.common state.requester.deviceIo).result lib r with e | a
  · intro c hc
    subst hc
    rw [Called.result, houtcome] at hresult
    cases outcome with
    | ok a => cases hresult
    | error status => cases hresult
  · trivial

theorem Calm.measure (hlib : lib.Returns) : Calm (SpdmRequester.measure lib summaryHashType events) := by
  unfold SpdmRequester.measure
  refine (Calm.request (hlib.connection _)).bind fun _ => ?_
  refine (Calm.request (hlib.digest _ _)).bind fun _ => ?_
  refine (Calm.request (hlib.certificate _ _ _)).bind fun _ => ?_
  refine (Calm.request (hlib.challenge _ _ _)).bind fun _ => ?_
  refine (Calm.request (hlib.measurement _ _ _ _ _)).bind fun measurements => ?_
  refine Calm.bind ?_ fun _ => Proc.Triple.pure fun _ h => h
  intro state _
  rw [Proc.exec_ofExcept]
  split
  · trivial
  · rename_i e _ h
    intro c hc
    subst hc
    exact Res.safe_ensure c (Prod.mk.inj h).1

theorem Calm.establish (hlib : lib.Returns) : Calm (SpdmRequester.establish lib summaryHashType events) := by
  unfold SpdmRequester.establish
  exact (Calm.request (hlib.session _ _ _ _)).bind fun _ => Proc.Triple.modify fun _ h => h

/-- **Main theorem.** No call of `negotiate` looks at the measurements of the responder but to print them:
with any others that can be printed exactly when they can it ends the same, and it panics exactly if the
requests succeed as far as the measurements and these cannot be printed. -/
theorem measurements_unchecked (hlib : lib.Consumes) (summaryHashType : SpdmMeasurementSummaryHashType)
    (events : Request → E) (state : Requesting C) :
    (∀ rewrite : SpdmMeasurementRecordStructure → SpdmMeasurementRecordStructure,
      (∀ measurementRecord, Printable lib (rewrite measurementRecord) ↔ Printable lib measurementRecord) →
      (SpdmRequester.negotiate (lib.withMeasurements rewrite) summaryHashType events).exec state =
        (SpdmRequester.negotiate lib summaryHashType events).exec state) ∧
    (lib.Returns → ∀ c,
      ((SpdmRequester.negotiate lib summaryHashType events).exec state).1 = .error (.crash c) ↔
        c = .panic ∧ ∃ measurementRecord,
          ((SpdmRequester.measure lib summaryHashType events).exec state).1 = .ok measurementRecord ∧
          ¬ Printable lib measurementRecord) := by
  constructor
  · intro rewrite hrewrite
    have hconsumes : (lib.withMeasurements rewrite).Consumes := hlib
    have hother : (SpdmRequester.measure (lib.withMeasurements rewrite) summaryHashType events).exec state =
        (rewrite <$> SpdmRequester.measure lib summaryHashType events).exec state := by
      rw [measure_withMeasurements]
    rw [Proc.exec_map] at hother
    rcases hmeasure : (SpdmRequester.measure lib summaryHashType events).exec state with
      ⟨e | measurementRecord, after⟩
    · rw [hmeasure] at hother
      rw [negotiate_unmeasured summaryHashType events hmeasure]
      exact negotiate_unmeasured summaryHashType events hother
    · rw [hmeasure] at hother
      have hsame := hrewrite measurementRecord
      -- `establish` makes the same requests of both libraries
      rcases negotiate_measured summaryHashType events hconsumes hother with
        ⟨hnew, h⟩ | ⟨hnew, h⟩ <;>
      rcases negotiate_measured summaryHashType events hlib hmeasure with ⟨hold, h'⟩ | ⟨hold, h'⟩
      · rw [h, h']
        rfl
      · exact absurd (hsame.mp (printable_withMeasurements.mp hnew)) hold
      · exact absurd (printable_withMeasurements.mpr (hsame.mpr hold)) hnew
      · rw [h, h']
  · intro hreturns c
    rcases hmeasure : (SpdmRequester.measure lib summaryHashType events).exec state with
      ⟨e | measurementRecord, after⟩
    · have hcalm := Calm.measure summaryHashType events hreturns state trivial
      rw [hmeasure] at hcalm
      rw [negotiate_unmeasured summaryHashType events hmeasure]
      constructor
      · intro h
        exact absurd (Except.error.inj h) (hcalm c)
      · rintro ⟨-, measurementRecord, h, -⟩
        cases h
    · have hestablish := Calm.establish summaryHashType events hreturns after trivial
      rcases negotiate_measured summaryHashType events hlib hmeasure with ⟨hprintable, h⟩ | ⟨hnot, h⟩
      · rw [h]
        constructor
        · intro hcrash
          rcases hexec : (SpdmRequester.establish lib summaryHashType events).exec after with ⟨e | u, last⟩
          · rw [hexec] at hcrash hestablish
            exact absurd (Except.error.inj hcrash) (hestablish c)
          · rw [hexec] at hcrash
            cases hcrash
        · rintro ⟨-, read, hread, hnot⟩
          obtain rfl := Except.ok.inj hread
          exact absurd hprintable hnot
      · rw [h]
        constructor
        · intro hcrash
          cases hcrash
          exact ⟨rfl, measurementRecord, rfl, hnot⟩
        · rintro ⟨rfl, -⟩
          rfl

end Measurements

/-! ### A handshake

A library that obeys `PeerChecked`: the responder answers each request, with a chain, with measurements and
with a session, or refuses it. Blocks have the form of the DMTF. -/

inductive Answer where
  | done
  | certificate (chain : Bytes)
  | measurements (measurementRecord : SpdmMeasurementRecordStructure)
  | session (sessionId : Nat)
  | refused

structure RequesterContext where
  strategy : CertValidationStrategy
  peerCertChain : Option Bytes

namespace RequesterContext
variable {α : Type}

/-- An answer of the kind that is expected, or an error. -/
def expect (answer : Option α) (context : RequesterContext) (deviceIo : FramedStream) :
    Called RequesterContext α :=
  match answer with
  | some a => ⟨.ok (.ok a), context, deviceIo, []⟩
  | none => ⟨.ok (.error (.other 1)), context, deviceIo, []⟩

@[simp] theorem expect_common (answer : Option α) (context : RequesterContext) (deviceIo : FramedStream) :
    (context.expect answer deviceIo).common = context := by
  cases answer <;> rfl

end RequesterContext

namespace Answer

def isDone : Answer → Option Unit
  | done => some ()
  | _ => none

def isMeasurements : Answer → Option Measurements
  | measurements measurementRecord => some ⟨measurementRecord, some []⟩
  | _ => none

def isSession : Answer → Option Nat
  | session sessionId => some sessionId
  | _ => none

end Answer

/-- The strategy's verdict is `verify`'s. -/
def RequesterLib.answered (verify : CertValidationStrategy → Bytes → Bool) (cfg : MeasurementConfig) :
    RequesterLib RequesterContext Answer Unit where
  rspDataTransferSizeSel _ := 0
  encodeSecuredMessage context _ _ buffer _ _ := (.error (.other 5), buffer, context)
  decodeSecuredMessage context _ _ buffer _ := (.error (.other 5), buffer, context)
  debug status := reprStr status
  newContext _ strategy _ := ⟨strategy, none⟩
  initConnection answer context := context.expect answer.isDone
  sendReceiveSpdmDigest _ answer context := context.expect answer.isDone
  sendReceiveSpdmCertificate _ _ answer context deviceIo :=
    match answer with
    | .certificate chain =>
      if verify context.strategy chain = true then
        ⟨.ok (.ok ()), { context with peerCertChain := some chain }, deviceIo, [chain]⟩
      else ⟨.ok (.error (.other 2)), context, deviceIo, [chain]⟩
    | _ => ⟨.ok (.error (.other 1)), context, deviceIo, []⟩
  sendReceiveSpdmChallenge _ _ answer context := context.expect answer.isDone
  sendReceiveSpdmMeasurement _ _ _ _ answer context := context.expect answer.isMeasurements
  startSession _ _ _ answer context := context.expect answer.isSession
  readBlock := Dmtf.readBlock cfg.maxValueLen

def RequesterContext.both (context : RequesterContext) : CertValidationStrategy × Option Bytes :=
  (context.strategy, context.peerCertChain)

def answeredChecked (X : Externals) (D : Dcap) (verify : CertValidationStrategy → Bytes → Bool)
    (cfg : MeasurementConfig)
    (hverify : ∀ chain, verify .rats chain = true →
      RatsCertValidationStrategy.verifyCertChain X D chain = .ok (.ok ())) :
    PeerChecked (RequesterLib.answered verify cfg) X D where
  strategy := RequesterContext.strategy
  peerCertChain := RequesterContext.peerCertChain
  newContext := fun _ _ _ => rfl
  connection := fun _ _ _ => congrArg _ (RequesterContext.expect_common _ _ _)
  digest := fun _ _ _ _ => congrArg _ (RequesterContext.expect_common _ _ _)
  certificate := by
    intro sessionId slotId answer context deviceIo
    cases answer with
    | certificate chain =>
      dsimp only [RequesterLib.answered]
      split <;> rfl
    | _ => rfl
  challenge := fun _ _ answer context deviceIo => congrArg RequesterContext.both
    (RequesterContext.expect_common answer.isDone context deviceIo)
  measurement := fun _ _ _ _ answer context deviceIo => congrArg RequesterContext.both
    (RequesterContext.expect_common answer.isMeasurements context deviceIo)
  session := fun _ _ _ answer context deviceIo => congrArg RequesterContext.both
    (RequesterContext.expect_common answer.isSession context deviceIo)
  accepts := by
    intro sessionId slotId answer context deviceIo hstrategy hok
    cases answer with
    | certificate chain =>
      dsimp only [RequesterLib.answered] at hok ⊢
      split at hok
      · rename_i haccepted
        rw [hstrategy] at haccepted
        rw [if_pos (hstrategy ▸ haccepted)]
        exact ⟨chain, List.mem_singleton_self _, hverify chain haccepted, rfl⟩
      · cases hok
    | _ => cases hok

theorem RequesterLib.answered_consumes (verify : CertValidationStrategy → Bytes → Bool) (cfg : MeasurementConfig) :
    (RequesterLib.answered verify cfg).Consumes := by
  intro reader block rest hread
  dsimp only [RequesterLib.answered] at hread
  unfold Dmtf.readBlock at hread
  split at hread
  · dsimp only at hread
    split at hread
    · obtain ⟨-, rfl⟩ := Prod.mk.inj (Option.some.inj hread)
      simp only [List.length_drop, List.length_cons]
      omega
    · cases hread
  · cases hread

theorem RequesterContext.expect_returns {α : Type} (answer : Option α) (context : RequesterContext)
    (deviceIo : FramedStream) : ∃ r, (context.expect answer deviceIo).outcome = .ok r := by
  cases answer <;> exact ⟨_, rfl⟩

theorem RequesterLib.answered_returns (verify : CertValidationStrategy → Bytes → Bool) (cfg : MeasurementConfig) :
    (RequesterLib.answered verify cfg).Returns where
  connection := fun _ _ _ => RequesterContext.expect_returns _ _ _
  digest := fun _ _ _ _ => RequesterContext.expect_returns _ _ _
  certificate := by
    intro sessionId slotId answer context deviceIo
    cases answer with
    | certificate chain =>
      dsimp only [RequesterLib.answered]
      split <;> exact ⟨_, rfl⟩
    | _ => exact ⟨_, rfl⟩
  challenge := fun _ _ _ _ _ => RequesterContext.expect_returns _ _ _
  measurement := fun _ _ _ _ _ _ _ => RequesterContext.expect_returns _ _ _
  session := fun _ _ _ _ _ _ => RequesterContext.expect_returns _ _ _

/-- The sample's verdict. -/
def sampleVerify (strategy : CertValidationStrategy) (chain : Bytes) : Bool :=
  match strategy, RatsCertValidationStrategy.verifyCertChain Sample.externals Sample.dcap chain with
  | .rats, .ok (.ok ()) => true
  | _, _ => false

theorem sampleVerify_sound (chain : Bytes) (h : sampleVerify .rats chain = true) :
    RatsCertValidationStrategy.verifyCertChain Sample.externals Sample.dcap chain = .ok (.ok ()) := by
  unfold sampleVerify at h
  split at h
  · assumption
  · cases h

theorem sampleVerify_firstDer : sampleVerify .rats Sample.firstDer = true := by
  have haccepts := (verifyCertChain_accepts (X := Sample.externals) (D := Sample.dcap)).mpr
    ⟨_, Sample.verify_firstDer⟩
  unfold sampleVerify
  rw [haccepts]

section Run
variable {verify : CertValidationStrategy → Bytes → Bool} {cfg : MeasurementConfig} {chain : Bytes}
  {measurementRecord : SpdmMeasurementRecordStructure} {sessionId : Nat} {deviceIo : FramedStream}

/-- A responder with this certificate and these measurements. -/
def answers (chain : Bytes) (measurementRecord : SpdmMeasurementRecordStructure) (sessionId : Nat) :
    Request → Answer
  | .connection | .digest | .challenge => .done
  | .certificate => .certificate chain
  | .measurement => .measurements measurementRecord
  | .session => .session sessionId

theorem answered_measure (h : verify .rats chain = true) :
    (SpdmRequester.measure (.answered verify cfg) .all (answers chain measurementRecord sessionId)).exec
        ⟨⟨⟨.rats, none⟩, deviceIo, none⟩, []⟩ =
      (.ok measurementRecord, ⟨⟨⟨.rats, some chain⟩, deviceIo, none⟩, [chain]⟩) := by
  have hcertificate : (request (.answered verify cfg) .certificate
      ((RequesterLib.answered verify cfg).sendReceiveSpdmCertificate none 0 (.certificate chain))).exec
        ⟨⟨⟨.rats, none⟩, deviceIo, none⟩, []⟩ =
      (.ok (), ⟨⟨⟨.rats, some chain⟩, deviceIo, none⟩, [chain]⟩) := by
    have hcall : (RequesterLib.answered verify cfg).sendReceiveSpdmCertificate none 0 (.certificate chain)
        ⟨.rats, none⟩ deviceIo = ⟨.ok (.ok ()), ⟨.rats, some chain⟩, deviceIo, [chain]⟩ := if_pos h
    rw [exec_request]
    dsimp only
    rw [hcall]
    rfl
  unfold SpdmRequester.measure
  rw [Proc.exec_bind_ok (exec_request _ _ _), Proc.exec_bind_ok (exec_request _ _ _)]
  exact (Proc.exec_bind_ok hcertificate).trans rfl

theorem answered_negotiate (h : verify .rats chain = true)
    (hprintable : Printable (RequesterLib.answered verify cfg) measurementRecord) :
    (SpdmRequester.negotiate (.answered verify cfg) .all (answers chain measurementRecord sessionId)).exec
        ⟨⟨⟨.rats, none⟩, deviceIo, none⟩, []⟩ =
      (.ok (), ⟨⟨⟨.rats, some chain⟩, deviceIo, some sessionId⟩, [chain]⟩) := by
  unfold SpdmRequester.negotiate
  rw [Proc.exec_bind_ok (answered_measure h)]
  rcases exec_print (RequesterLib.answered_consumes verify cfg) measurementRecord
    (SpdmRequester.establish (.answered verify cfg) .all (answers chain measurementRecord sessionId))
    ⟨⟨⟨.rats, some chain⟩, deviceIo, none⟩, [chain]⟩ with ⟨-, h⟩ | ⟨hnot, -⟩
  · rw [h]
    rfl
  · exact absurd hprintable hnot

end Run

def sampleLib : RequesterLib RequesterContext Answer Unit := .answered sampleVerify Sample.measurementConfig

/-- A record without blocks. -/
def emptyRecord : SpdmMeasurementRecordStructure := ⟨0, 0, []⟩

/-- One with a block that says its value is 4096 bytes long. -/
def longRecord : SpdmMeasurementRecordStructure :=
  ⟨1, 1031, beBytes 7 0x01010000840010 ++ List.replicate 1024 0⟩

theorem emptyRecord_printable : Printable sampleLib emptyRecord where
  record := Nat.le_refl 0
  values := by
    intro blocks hblocks
    obtain rfl := Except.ok.inj hblocks
    intro block hblock
    cases hblock

theorem longRecord_not_printable : ¬ Printable sampleLib longRecord := by
  intro h
  have hread : (match readMeasurementBlocks sampleLib.readBlock (longRecord.bytes.length + 1) longRecord.bytes with
      | .ok blocks =>
        blocks.any fun block => decide (block.measurement.value.length < block.measurement.valueSize)
      | .error _ => false) = true := by decide +kernel
  have hvalues := h.values
  generalize readMeasurementBlocks sampleLib.readBlock (longRecord.bytes.length + 1) longRecord.bytes = r
    at hread hvalues
  cases r with
  | error c => cases hread
  | ok blocks =>
    obtain ⟨block, hblock, hlong⟩ := List.any_eq_true.mp hread
    exact absurd (hvalues blocks rfl block hblock) (Nat.not_le.mpr (of_decide_eq_true hlong))

def sampleRequester : SpdmRequester RequesterContext := .new sampleLib plainConfig spdmBuild .rats ()

/-- And after a handshake. -/
def sampleNow : SpdmRequester RequesterContext :=
  ⟨⟨.rats, some Sample.firstDer⟩, FramedStream.new plainConfig, some 7⟩

def sampleCall : RequesterCall RequesterContext Answer :=
  ⟨sampleRequester, answers Sample.firstDer emptyRecord 7, .ok (), sampleNow, [Sample.firstDer]⟩

theorem sample_calls : RequesterCalls sampleLib .all sampleRequester [sampleCall] sampleNow := by
  have hnegotiate : (SpdmRequester.negotiate sampleLib .all sampleCall.events).exec ⟨sampleRequester, []⟩ =
      (sampleCall.result.mapError Fault.error, ⟨sampleNow, [Sample.firstDer]⟩) :=
    answered_negotiate sampleVerify_firstDer emptyRecord_printable
  exact RequesterCalls.call .fresh hnegotiate

/-- The default builder's requester and a responder with the sample's certificate: one call, and a session
with a responder whose evidence is valid. -/
theorem sample_authenticates :
    ∃ call ∈ [sampleCall], ∃ chain ∈ call.asked, ∃ c : Chain, c.Valid Sample.externals Sample.dcap chain := by
  obtain ⟨-, hsession⟩ := requester_authenticates (answeredChecked Sample.externals Sample.dcap sampleVerify
    Sample.measurementConfig sampleVerify_sound) plainConfig spdmBuild .new (by decide) (.ok ()) () sampleRequester
    rfl .all [sampleCall] sampleNow sample_calls
  obtain ⟨-, earlier, call, later, hcalls, hcall, -⟩ := hsession _ _ _ rfl
  obtain ⟨chain, hasked, -, hvalid⟩ := hcall.chain
  exact ⟨call, by rw [hcalls]; exact List.mem_append_right _ (List.mem_cons_self ..), chain, hasked, hvalid⟩

/-- And one with the same certificate whose measurements cannot be printed. -/
theorem sample_measurements_panic :
    ((SpdmRequester.negotiate sampleLib .all (answers Sample.firstDer longRecord 7)).exec
      ⟨⟨⟨.rats, none⟩, FramedStream.new plainConfig, none⟩, []⟩).1 = .error (.crash .panic) := by
  refine ((measurements_unchecked (RequesterLib.answered_consumes sampleVerify Sample.measurementConfig) .all
    (answers Sample.firstDer longRecord 7) ⟨⟨⟨.rats, none⟩, FramedStream.new plainConfig, none⟩, []⟩).2
    (RequesterLib.answered_returns sampleVerify Sample.measurementConfig) .panic).mpr ⟨rfl, longRecord, ?_,
      longRecord_not_printable⟩
  rw [answered_measure sampleVerify_firstDer]

end RatsRs.Transport
