import RatsRs.Errors
import RatsRs.Lib.Frames
import RatsRs.Lib.ByteStream

/-! `FramedStream`: packets over a byte stream.

The stream itself is not part of the record. Two `FramedStream`s share one socket after
`into_split`, so each call is handed the stream and returns what it leaves of it.
The loop of `receive` is cut at its reads: `Progress` holds the loop's variables,
`check` is an iteration up to its read and `absorb` what follows the read. -/
namespace RatsRs.Transport
open Lib

/-- The statuses of the device and the encapsulation; those of the library behind them have a code. -/
inductive SpdmStatus where
  | sendFail
  | encapFail
  | decapFail
  | encapAppFail
  | decapAppFail
  | other (code : Nat)
  deriving DecidableEq, Repr

/-- `spdmlib::config`. -/
structure Config where
  senderBufferSize : Nat
  receiverBufferSize : Nat
  /-- The size of a message fits the `u32` of its header. -/
  senderFits : senderBufferSize < 2 ^ 32
  receiverFits : receiverBufferSize < 2 ^ 32

/-- `&buf[lo..hi]`, with the panic of a range that is not one or that ends behind the buffer. -/
def slice (buf : Bytes) (lo hi : Nat) : Except Crash Bytes :=
  if lo ≤ hi ∧ hi ≤ buf.length then .ok ((buf.drop lo).take (hi - lo)) else .error .panic

/-! ### The header -/

def frameHeaderSize : Nat := 4

/-- `payload_size` is a `u32`, the low byte first when it is encoded or read. -/
structure FrameHeader where
  payloadSize : Nat
  deriving DecidableEq, Repr

namespace FrameHeader

def encode (h : FrameHeader) : Bytes := leBytes 4 h.payloadSize

def read (bytes : Bytes) : Option FrameHeader :=
  if bytes.length < 4 then none else some ⟨leNat (bytes.take 4)⟩

end FrameHeader

/-- `u32::to_be` where the low byte of a number comes first. -/
def toBe (n : Nat) : Nat := beNat (leBytes 4 n)

/-- `payload_size as u32`. -/
def asU32 (n : Nat) : Nat := n % 2 ^ 32

/-! ### Receiving -/

structure FramedStream where
  readBuffer : Bytes
  readRemain : Nat
  deriving DecidableEq, Repr

def FramedStream.new (cfg : Config) : FramedStream :=
  ⟨List.replicate (frameHeaderSize + cfg.receiverBufferSize) 0, 0⟩

/-- The variables of the loop, and the buffer it fills. -/
structure Progress where
  readBuffer : Bytes
  bufferSize : Nat
  expectedSize : Nat
  deriving DecidableEq, Repr

/-- How an iteration goes on: the two ways out of the loop before a read, or a read into
the `space` behind the bytes there are. -/
inductive Verdict where
  | enough
  | full
  | wants (space : Nat)
  deriving DecidableEq, Repr

namespace Progress

def start (fs : FramedStream) : Progress := ⟨fs.readBuffer, fs.readRemain, 0⟩

/-- The size the header announces, read once in a call. -/
def expect (p : Progress) : Except Crash Progress :=
  if p.expectedSize = 0 ∧ frameHeaderSize ≤ p.bufferSize then do
    let header ← slice p.readBuffer 0 frameHeaderSize
    match FrameHeader.read header with
    | some socketHeader => .ok { p with expectedSize := toBe socketHeader.payloadSize + frameHeaderSize }
    | none => .error .panic
  else .ok p

def check (p : Progress) : Except Crash (Progress × Verdict) := do
  let p ← p.expect
  if p.expectedSize ≠ 0 ∧ p.expectedSize ≤ p.bufferSize then .ok (p, .enough)
  else if p.readBuffer.length ≤ p.bufferSize then .ok (p, .full)
  else .ok (p, .wants (p.readBuffer.length - p.bufferSize))

/-- What the answer to the read does, and whether the loop goes on. -/
def absorb (p : Progress) : Answer → Progress × Bool
  | .error _ => (p, false)
  | .ok bytes =>
    ({ p with readBuffer := splice p.readBuffer p.bufferSize bytes
              bufferSize := p.bufferSize + bytes.length },
      bytes.length != 0)

end Progress

/-- The loop, with whether there was enough. Every read but the last fills some of the buffer,
so a turn for every free byte and one more are enough. -/
def receiveLoop {σ : Type} (R : Read σ) : Nat → Progress → σ → Except Crash (Progress × Bool × σ)
  | 0, _, _ => .error .diverged
  | fuel + 1, p, stream => do
    let (p, verdict) ← p.check
    match verdict with
    | .enough => .ok (p, true, stream)
    | .full => .ok (p, false, stream)
    | .wants space =>
      let (answer, stream) := R.read stream space
      let (p, more) := p.absorb answer
      if more then receiveLoop R fuel p stream else .ok (p, false, stream)

/-- What a call leaves: its result, the caller's buffer and the `FramedStream`. -/
structure Received where
  result : Except Nat Nat
  readBuffer : Bytes
  framed : FramedStream

/-- The bytes in front of the caller's buffer that the call says it put there. -/
def Received.payload (r : Received) : Except Nat Bytes := r.result.map (r.readBuffer.take ·)

/-- What follows the loop. The two slices before the branch are the ones that are traced. -/
def Progress.finish (p : Progress) (enough : Bool) (readBuffer : Bytes) : Except Crash Received := do
  let readSize := min p.bufferSize p.expectedSize
  let _ ← slice p.readBuffer 0 (min readSize frameHeaderSize)
  let _ ← slice p.readBuffer (min readSize frameHeaderSize) readSize
  if enough then do
    let payload ← slice p.readBuffer frameHeaderSize p.expectedSize
    let used := p.expectedSize - frameHeaderSize
    let _ ← slice readBuffer 0 used
    let remain ← slice p.readBuffer p.expectedSize p.bufferSize
    .ok ⟨.ok used, splice readBuffer 0 payload,
      ⟨splice p.readBuffer 0 remain, p.bufferSize - p.expectedSize⟩⟩
  else .ok ⟨.error 0, readBuffer, ⟨p.readBuffer, p.bufferSize⟩⟩

namespace FramedStream

def receive {σ : Type} (R : Read σ) (fs : FramedStream) (stream : σ) (readBuffer : Bytes) :
    Except Crash (Received × σ) := do
  let start := Progress.start fs
  let fuel := start.readBuffer.length - start.bufferSize + 1
  let (p, enough, stream) ← receiveLoop R fuel start stream
  let received ← p.finish enough readBuffer
  .ok (received, stream)

/-- Calls one after the other, each with a buffer of its own, and what each handed over. -/
def receiveAll {σ : Type} (R : Read σ) :
    FramedStream → σ → List Bytes → Except Crash (List (Except Nat Bytes) × FramedStream × σ)
  | fs, stream, [] => .ok ([], fs, stream)
  | fs, stream, readBuffer :: more => do
    let (received, stream) ← fs.receive R stream readBuffer
    let (payloads, fs, stream) ← receiveAll R received.framed stream more
    .ok (received.payload :: payloads, fs, stream)

/-! ### Sending -/

/-- `map_err` to the status of a send that failed. -/
def sendStatus : Except String Unit → Except SpdmStatus Unit
  | .ok () => .ok ()
  | .error _ => .error .sendFail

/-- Header, payload and flush, up to the first that fails. The buffer is there for the header only. -/
def send {τ : Type} (cfg : Config) (W : Write τ) (sink : τ) (payload : Bytes) :
    Except Crash (Except SpdmStatus Unit × τ) := do
  let header := (FrameHeader.mk (toBe (asU32 payload.length))).encode
  let buffer := splice (List.replicate (frameHeaderSize + cfg.senderBufferSize) 0) 0 header
  let used := header.length
  if used ≠ frameHeaderSize then .error .panic
  else do
    let headerBytes ← slice buffer 0 used
    match W.writeAll sink headerBytes with
    | (.error e, sink) => .ok (sendStatus (.error e), sink)
    | (.ok (), sink) =>
      match W.writeAll sink payload with
      | (.error e, sink) => .ok (sendStatus (.error e), sink)
      | (.ok (), sink) =>
        let (flushed, sink) := W.flush sink
        .ok (sendStatus flushed, sink)

/-- Sends one after the other, all of them `Ok`. -/
inductive Sent {τ : Type} (cfg : Config) (W : Write τ) : τ → List Bytes → τ → Prop
  | none (sink : τ) : Sent cfg W sink [] sink
  | more {sink sink' sink'' : τ} {payload : Bytes} {payloads : List Bytes}
      (send : send cfg W sink payload = .ok (.ok (), sink')) (rest : Sent cfg W sink' payloads sink'') :
      Sent cfg W sink (payload :: payloads) sink''

end FramedStream

/-- What the calls that returned `Ok` handed over. -/
def oks (results : List (Except Nat Bytes)) : List Bytes := results.filterMap Except.toOption

end RatsRs.Transport
