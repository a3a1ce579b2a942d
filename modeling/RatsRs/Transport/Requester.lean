import RatsRs.Lib.Procedure
import RatsRs.Transport.Measurement
import RatsRs.Transport.MutualAuth

/-! The requester up to `into_split`.

`SpdmRequesterBuilder` chooses what the requester verifies the responder with, and `negotiate` has
`spdmlib` run the requests of a handshake in their order: each `?` ends it, and the session id is stored
at the end only. What the responder and the network do is an event for each request. -/
namespace RatsRs.Transport
open Lib

/-! ### What `spdmlib` does -/

/-- The flags of `SpdmRequestCapabilityFlags` that are used. -/
inductive RequestCapability where
  | cert
  | chal
  | encrypt
  | mac
  | keyEx
  | encap
  | mutAuth
  deriving DecidableEq, Repr

/-- The flags of `SpdmMeasurementAttributes` that are used. -/
inductive MeasurementAttribute where
  | signatureRequested
  | rawBitStreamRequested
  deriving DecidableEq, Repr

/-- What a call returns and what it leaves. -/
structure Called (C α : Type) where
  outcome : Except Crash (Except SpdmStatus α)
  common : C
  deviceIo : FramedStream
  /-- The chains it has passed to `verify_cert_chain` of the context's strategy. -/
  asked : List Bytes

/-- What `send_receive_spdm_measurement` writes to its arguments, as far as it is used. -/
structure Measurements where
  measurementRecord : SpdmMeasurementRecordStructure
  transcriptMeas : Option Bytes

/-- What the requester uses of `spdmlib`. `M` is what else a context is made of, and `E` what the responder
and the network do during a call. -/
structure RequesterLib (C E M : Type) extends Spdmlib C where
  newContext : List RequestCapability → CertValidationStrategy → M → C
  initConnection : E → C → FramedStream → Called C Unit
  sendReceiveSpdmDigest : (sessionId : Option Nat) → E → C → FramedStream → Called C Unit
  sendReceiveSpdmCertificate : (sessionId : Option Nat) → (slotId : Nat) → E → C → FramedStream → Called C Unit
  sendReceiveSpdmChallenge : (slotId : Nat) → SpdmMeasurementSummaryHashType → E → C → FramedStream →
    Called C Unit
  sendReceiveSpdmMeasurement : (sessionId : Option Nat) → (slotId : Nat) → List MeasurementAttribute →
    (operation : Nat) → E → C → FramedStream → Called C Measurements
  startSession : (usePsk : Bool) → (slotId : Nat) → SpdmMeasurementSummaryHashType → E → C → FramedStream →
    Called C Nat
  /-- The block in front, and what the reader has left. -/
  readBlock : Bytes → Option (SpdmMeasurementBlockStructure × Bytes)

/-! ### The builder -/

structure SpdmRequesterBuilder where
  verifyMode : VerifyMode
  attestSelf : Bool
  deriving DecidableEq

section Build
variable {C E M : Type} (lib : RequesterLib C E M) (cfg : Config) (build : Build)

def reqCapabilities : List RequestCapability :=
  let reqCapabilities := [.cert, .chal, .encrypt, .mac, .keyEx, .encap]
  if build.cfg "mut-auth" then reqCapabilities ++ [.mutAuth] else reqCapabilities

def SpdmRequester.new (strategy : CertValidationStrategy) (material : M) : SpdmRequester C where
  common := lib.newContext (reqCapabilities build) strategy material
  deviceIo := FramedStream.new cfg
  sessionId := none

namespace SpdmRequesterBuilder

def new : SpdmRequesterBuilder := ⟨.verifyPeer, false⟩

def withVerifyMode (self : SpdmRequesterBuilder) (verifyMode : VerifyMode) : SpdmRequesterBuilder :=
  { self with verifyMode := verifyMode }

def withAttestSelf (self : SpdmRequesterBuilder) (attestSelf : Bool) : SpdmRequesterBuilder :=
  { self with attestSelf := attestSelf }

/-- `attested` is what comes of making a certificate for the requester, and `empty` the providers that
stand in for it. -/
def buildWithTcpStream (self : SpdmRequesterBuilder) (attested : Res M) (empty : M) :
    Res (SpdmRequester C) := do
  let material ← (if build.cfg "mut-auth" && self.attestSelf then attested else .ok empty : Res M)
  let strategy : CertValidationStrategy :=
    if self.verifyMode.contains .verifyPeer then .rats else .default
  .ok (SpdmRequester.new lib cfg build strategy material)

end SpdmRequesterBuilder
end Build

/-! ### `negotiate` -/

/-- The requests of a handshake. -/
inductive Request where
  | connection
  | digest
  | certificate
  | challenge
  | measurement
  | session
  deriving DecidableEq, Repr

/-- What is said of the one that fails. -/
def Request.context : Request → String
  | connection => "init_connection failed"
  | digest => "send_receive_spdm_digest failed"
  | certificate => "send_receive_spdm_certificate failed"
  | challenge => "send_receive_spdm_challenge failed"
  | measurement => "send_receive_spdm_measurement failed"
  | session => "failed to setup session"

/-- The requester during a call, and the chains that were passed to its strategy so far. -/
structure Requesting (C : Type) where
  requester : SpdmRequester C
  asked : List Bytes

section Negotiate
variable {C E M : Type} (lib : RequesterLib C E M)

namespace Requesting
variable {α : Type}

/-- After a call of `spdmlib`. -/
def after (state : Requesting C) (called : Called C α) : Requesting C where
  requester := { state.requester with common := called.common, deviceIo := called.deviceIo }
  asked := state.asked ++ called.asked

@[simp] theorem after_sessionId (state : Requesting C) (called : Called C α) :
    (state.after called).requester.sessionId = state.requester.sessionId := rfl

end Requesting

/-- What the requester makes of an outcome. -/
def Called.result {α : Type} (called : Called C α) (request : Request) : Res α := do
  let outcome ← Res.ofCrash called.outcome
  ((lib.ofStatus outcome).kind .spdmNegotiate).context request.context

/-- One request, with its `?`. -/
def request {α : Type} (request : Request) (call : C → FramedStream → Called C α) :
    Proc (Requesting C) Fault α := do
  let state ← get
  let called := call state.requester.common state.requester.deviceIo
  set (state.after called)
  Proc.ofExcept (called.result lib request)

/-- The loop that reads blocks until there is none, at most `fuel` of them. -/
def readMeasurementBlocks (readBlock : Bytes → Option (SpdmMeasurementBlockStructure × Bytes)) :
    Nat → Bytes → Except Crash (List SpdmMeasurementBlockStructure)
  | 0, _ => .error .diverged
  | fuel + 1, reader =>
    match readBlock reader with
    | some (block, rest) => do
      let blocks ← readMeasurementBlocks readBlock fuel rest
      .ok (block :: blocks)
    | none => .ok []

/-- The values that are printed of a record. -/
def measurementValues (measurementRecord : SpdmMeasurementRecordStructure) : Except Crash (List Bytes) := do
  let measurementRecordData ← slice measurementRecord.measurementRecordData 0
    measurementRecord.measurementRecordLength
  let blocks ← readMeasurementBlocks lib.readBlock (measurementRecordData.length + 1) measurementRecordData
  blocks.mapM fun block => slice block.measurement.value 0 block.measurement.valueSize

namespace SpdmRequester
variable (summaryHashType : SpdmMeasurementSummaryHashType) (events : Request → E)

/-- `negotiate` as far as the measurements. -/
def measure : Proc (Requesting C) Fault SpdmMeasurementRecordStructure := do
  request lib .connection (lib.initConnection (events .connection))
  request lib .digest (lib.sendReceiveSpdmDigest none (events .digest))
  request lib .certificate (lib.sendReceiveSpdmCertificate none 0 (events .certificate))
  request lib .challenge (lib.sendReceiveSpdmChallenge 0 summaryHashType (events .challenge))
  let measurements ← request lib .measurement
    (lib.sendReceiveSpdmMeasurement none 0 [.signatureRequested, .rawBitStreamRequested]
      spdmMeasurementRequestAll (events .measurement))
  Proc.ofExcept (Res.ensure (measurements.transcriptMeas ≠ none) .spdmNegotiate
    "get message_m from send_receive_spdm_measurement failed")
  pure measurements.measurementRecord

/-- And from there on. -/
def establish : Proc (Requesting C) Fault Unit := do
  let sessionId ← request lib .session (lib.startSession false 0 summaryHashType (events .session))
  modify fun state => { state with requester := { state.requester with sessionId := some sessionId } }

/-- `negotiate`. The measurements are printed and nothing else. -/
def negotiate : Proc (Requesting C) Fault Unit := do
  let measurementRecord ← measure lib summaryHashType events
  let _ ← Proc.ofExcept (Res.ofCrash (measurementValues lib measurementRecord))
  establish lib summaryHashType events

end SpdmRequester
end Negotiate

/-! ### One request -/

section Request
variable {C E M α : Type} {lib : RequesterLib C E M}

theorem exec_request (r : Request) (call : C → FramedStream → Called C α) (state : Requesting C) :
    (request lib r call).exec state =
      ((call state.requester.common state.requester.deviceIo).result lib r,
        state.after (call state.requester.common state.requester.deviceIo)) := by
  simp only [request, Proc.exec_bind, Proc.exec_get, Proc.exec_set, Proc.exec_ofExcept]

theorem Called.result_eq_ok {called : Called C α} {r : Request} {a : α} :
    called.result lib r = .ok a ↔ called.outcome = .ok (.ok a) := by
  simp [Called.result, bind_eq_ok]

/-- A request does what the call does, and fails if that does. -/
theorem request_triple {r : Request} {call : C → FramedStream → Called C α} {P : Requesting C → Prop}
    {Q : α → Requesting C → Prop} {R : Fault → Requesting C → Prop}
    (hok : ∀ state, P state → ∀ a,
      (call state.requester.common state.requester.deviceIo).outcome = .ok (.ok a) →
        Q a (state.after (call state.requester.common state.requester.deviceIo)))
    (hfails : ∀ state, P state → ∀ e, R e (state.after (call state.requester.common state.requester.deviceIo))) :
    Proc.Triple P (request lib r call) Q R := by
  intro state hstate
  rw [exec_request]
  rcases hresult : (call state.requester.common state.requester.deviceIo).result lib r with e | a
  · exact hfails state hstate e
  · exact hok state hstate a (Called.result_eq_ok.mp hresult)

end Request

end RatsRs.Transport
