import RatsRs.Transport.Encap

/-! The two halves of a session.

`into_split` gives the session's context to both halves, so it is passed to their calls and
returned by them; so is the socket. The read half keeps the `FramedStream` of the
negotiation, which may hold bytes already, and the write half gets a new one. Both calls
are cut where they let go of the context or the device, which is where a call of the other
half can come in between. -/
namespace RatsRs.Transport
open Lib

/-- What the halves use of `spdmlib`: the negotiated transfer size, and a context that seals and
opens messages. Each of the two writes its output into the buffer it is given. -/
structure Spdmlib (C : Type) where
  rspDataTransferSizeSel : C → Nat
  encodeSecuredMessage : (context : C) → (sessionId : Nat) → (sendBuffer transportBuffer : Bytes) →
    (isRequester isAppMessage : Bool) → Except SpdmStatus Nat × Bytes × C
  decodeSecuredMessage : (context : C) → (sessionId : Nat) → (packet receiveBuffer : Bytes) →
    (isRequester : Bool) → Except SpdmStatus (Nat × Bool) × Bytes × C
  /-- How a status is printed. -/
  debug : SpdmStatus → String

/-- The `Error` a status is converted to. -/
def Spdmlib.ofStatus {C α : Type} (lib : Spdmlib C) : Except SpdmStatus α → Res α
  | .ok a => .ok a
  | .error status => .error (.error (.kindWithMsg .unknown (lib.debug status)))

@[simp] theorem Spdmlib.ofStatus_eq_ok {C α : Type} {lib : Spdmlib C} {r : Except SpdmStatus α} {a : α} :
    lib.ofStatus r = .ok a ↔ r = .ok a := by
  cases r <;> simp [ofStatus]

/-! ### Sending -/

structure WriteHalf where
  isRequester : Bool
  sessionId : Nat
  deviceIo : FramedStream
  deriving DecidableEq

namespace WriteHalf
variable {C τ : Type} (lib : Spdmlib C) (cfg : Config)

/-- `send` as long as it holds the context: the packet. -/
def encode (self : WriteHalf) (common : C) (bytes : Bytes) : Res Bytes × C :=
  let limit := lib.rspDataTransferSizeSel common
  if limit ≠ 0 ∧ limit < bytes.length then
    (Res.fail .spdmSend s!"The buffer cannot be longer than {limit}", common)
  else
    let (used, transportBuffer, common) := lib.encodeSecuredMessage common self.sessionId bytes
      (List.replicate cfg.senderBufferSize 0) self.isRequester true
    let packet := do
      let used ← ((lib.ofStatus used).kind .spdmSend).context "Failed to encode as secured message"
      Res.ofCrash (slice transportBuffer 0 used)
    (packet, common)

/-- And with the device. -/
def transmit (W : Write τ) (sink : τ) (packet : Bytes) : Res Unit × τ :=
  match FramedStream.send cfg W sink packet with
  | .error c => (.error (.crash c), sink)
  | .ok (status, sink) =>
    (((lib.ofStatus status).kind .spdmSend).context "Failed to send message to device_io", sink)

def send (W : Write τ) (self : WriteHalf) (common : C) (sink : τ) (bytes : Bytes) : Res Unit × C × τ :=
  match self.encode lib cfg common bytes with
  | (.error e, common) => (.error e, common, sink)
  | (.ok packet, common) =>
    let (result, sink) := transmit lib cfg W sink packet
    (result, common, sink)

/-- `shutdown`: what the socket answers, if the device is a `FramedStream` over a `TcpStream`. Over
anything else it does nothing but warn. -/
def shutdown (socket : Option (Except String Unit)) : Res Unit :=
  match socket with
  | some answer => ((Res.ofForeign answer).kind .spdmShutdown).context "Failed to end session"
  | none => .ok ()

end WriteHalf

/-! ### Receiving -/

structure ReadHalf where
  isRequester : Bool
  sessionId : Nat
  deviceIo : FramedStream
  deriving DecidableEq

namespace ReadHalf
variable {C σ : Type} (lib : Spdmlib C) (cfg : Config)

/-- A packet into the caller's buffer. -/
def decode (self : ReadHalf) (common : C) (packet buf : Bytes) : Res Nat × Bytes × C :=
  let (decoded, buf, common) := lib.decodeSecuredMessage common self.sessionId packet buf (!self.isRequester)
  let used := do
    let (used, isAppMessage) ← ((lib.ofStatus decoded).kind .spdmReceive).context
      "Failed to decode as secured message"
    Res.ensure (isAppMessage = true) .spdmReceive "App message is expected"
    .ok used
  (used, buf, common)

/-- What follows the device: what it received is decoded. -/
def deliver (self : ReadHalf) (common : C) (received : Received) (buf : Bytes) : Res Nat × Bytes × C :=
  match received.result with
  | .error e =>
    (((Res.ofForeign (.error (toString e))).kind .spdmReceive).context
      "Failed to receive message from device_io", buf, common)
  | .ok used =>
    match slice received.readBuffer 0 used with
    | .error c => (.error (.crash c), buf, common)
    | .ok packet => self.decode lib common packet buf

/-- The buffer a call gives to the device. -/
def transportBuffer : Bytes := List.replicate cfg.receiverBufferSize 0

/-- `receive`. The timeout it takes from the context is of no use to `FramedStream`. -/
def receive (R : Read σ) (self : ReadHalf) (common : C) (stream : σ) (buf : Bytes) :
    Res Nat × Bytes × ReadHalf × C × σ :=
  match self.deviceIo.receive R stream (transportBuffer cfg) with
  | .error c => (.error (.crash c), buf, self, common, stream)
  | .ok (received, stream) =>
    let self := { self with deviceIo := received.framed }
    let (result, buf, common) := self.deliver lib common received buf
    (result, buf, self, common, stream)

end ReadHalf

/-! ### `into_split` -/

/-- `into_split` of a requester or a responder. -/
def splitHalves {C : Type} (cfg : Config) (isRequester : Bool) (common : C) (deviceIo : FramedStream)
    (sessionId : Option Nat) : Res (ReadHalf × WriteHalf × C) :=
  match sessionId with
  | none => Res.fail .spdmSessionNotReady "session not ready, unknown session_id"
  | some sessionId =>
    .ok (⟨isRequester, sessionId, deviceIo⟩, ⟨isRequester, sessionId, FramedStream.new cfg⟩, common)

structure SpdmRequester (C : Type) where
  common : C
  deviceIo : FramedStream
  sessionId : Option Nat

def SpdmRequester.intoSplit {C : Type} (cfg : Config) (self : SpdmRequester C) :
    Res (ReadHalf × WriteHalf × C) :=
  splitHalves cfg true self.common self.deviceIo self.sessionId

structure SpdmResponder (C : Type) where
  common : C
  deviceIo : FramedStream
  sessionId : Option Nat

def SpdmResponder.intoSplit {C : Type} (cfg : Config) (self : SpdmResponder C) :
    Res (ReadHalf × WriteHalf × C) :=
  splitHalves cfg false self.common self.deviceIo self.sessionId

end RatsRs.Transport
