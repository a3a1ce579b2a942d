import RatsRs.Transport.Half

/-! The responder up to `into_split`.

`SpdmResponderBuilder` chooses what the responder attests itself with and what it verifies its peer
with; `SpdmResponder::new` chooses the capabilities it advertises, one of them by a feature of the
build. The handshake is `spdmlib`'s: `negotiate` has it process one packet after the other, and looks
only at what it says of each and at the state of the session a packet names. -/
namespace RatsRs.Transport
open Lib

/-! ### Builds of the crate -/

/-- The features of `Cargo.toml`. -/
inductive Feature where
  | asyncTokio
  | cryptoRustcrypto
  | base
  | default
  | isSync
  | transportSpdm
  | transportTls
  | transportRustls
  | attesterSgxDcap
  | attesterSgxDcapOcclum
  | attesterSgxDcapEnclave
  | verifierSgxDcap
  | attesterTdx
  | verifierTdx
  deriving DecidableEq, Repr

namespace Feature

def name : Feature → String
  | .asyncTokio => "async-tokio"
  | .cryptoRustcrypto => "crypto-rustcrypto"
  | .base => "base"
  | .default => "default"
  | .isSync => "is-sync"
  | .transportSpdm => "transport-spdm"
  | .transportTls => "transport-tls"
  | .transportRustls => "transport-rustls"
  | .attesterSgxDcap => "attester-sgx-dcap"
  | .attesterSgxDcapOcclum => "attester-sgx-dcap-occlum"
  | .attesterSgxDcapEnclave => "attester-sgx-dcap-enclave"
  | .verifierSgxDcap => "verifier-sgx-dcap"
  | .attesterTdx => "attester-tdx"
  | .verifierTdx => "verifier-tdx"

/-- The features of the crate that a feature turns on. -/
def enables : Feature → List Feature
  | .base => [.cryptoRustcrypto, .attesterSgxDcapOcclum, .verifierSgxDcap, .attesterTdx, .verifierTdx]
  | .default => [.base, .isSync]
  | .transportRustls => [.asyncTokio]
  | .attesterSgxDcapOcclum => [.attesterSgxDcap]
  | .asyncTokio | .cryptoRustcrypto | .isSync | .transportSpdm | .transportTls | .attesterSgxDcap
  | .attesterSgxDcapEnclave | .verifierSgxDcap | .attesterTdx | .verifierTdx => []

end Feature

/-- A build has some of the features, and those they turn on. -/
structure Build where
  features : List Feature
  closed : ∀ f ∈ features, ∀ g ∈ f.enables, g ∈ features

/-- `cfg!(feature = "…")`. -/
def Build.cfg (build : Build) (feature : String) : Bool :=
  build.features.any fun f => f.name == feature

/-! ### What `spdmlib` does -/

/-- The flags of `SpdmResponseCapabilityFlags` that are used. -/
inductive ResponseCapability where
  | cert
  | chal
  | measSig
  | measFresh
  | encrypt
  | mac
  | keyEx
  | encap
  | mutAuth
  deriving DecidableEq, Repr

/-- `RatsCertValidationStrategy` or `DefaultCertValidationStrategy`. -/
inductive CertValidationStrategy where
  | rats
  | default
  deriving DecidableEq, Repr

inductive SpdmSessionState where
  | notStarted
  | handshaking
  | established
  deriving DecidableEq, Repr

inductive ProcessMessageResult where
  | success (used : Nat)
  | successSecured (used decodeSize : Nat) (isAppMessage : Bool)
  | spdmHandleError (status : SpdmStatus)
  | decodeError (used : Nat)
  deriving DecidableEq, Repr

/-- What a call of `process_message` returns and what it leaves. -/
structure Processed (C : Type) where
  outcome : Except Crash ProcessMessageResult
  rawPacket : Bytes
  common : C
  deviceIo : FramedStream
  /-- The chains it has passed to `verify_cert_chain` of the context's strategy. -/
  asked : List Bytes

/-- What the responder uses of `spdmlib`. `M` is what else a context is made of (the certificate of the
responder, its signer and its measurements), and `E` what the requester and the network do during a call
of `process_message`. The second buffer of that call is scratch. -/
structure ResponderLib (C E M : Type) extends Spdmlib C where
  newContext : List ResponseCapability → CertValidationStrategy → M → C
  processMessage : C → FramedStream → (rawPacket : Bytes) → E → Processed C
  /-- `get_immutable_session_via_id` and the session's state. -/
  sessionState : C → Nat → Option SpdmSessionState

/-! ### The builder -/

structure VerifyMode where
  bits : BitVec 32
  deriving DecidableEq, Repr

namespace VerifyMode

def verifyNone : VerifyMode := ⟨0b000⟩
def verifyPeer : VerifyMode := ⟨0b001⟩

def contains (mode other : VerifyMode) : Bool := mode.bits &&& other.bits == other.bits

end VerifyMode

structure SpdmResponderBuilder where
  verifyMode : VerifyMode
  attestSelf : Bool
  deriving DecidableEq

section Responder
variable {C E M : Type} (lib : ResponderLib C E M) (cfg : Config) (build : Build)

/-- The capabilities of every responder. -/
def rspCapabilities : List ResponseCapability :=
  let rspCapabilities := [.cert, .chal, .measSig, .measFresh, .encrypt, .mac, .keyEx, .encap]
  if build.cfg "mut-auth" then rspCapabilities ++ [.mutAuth] else rspCapabilities

def SpdmResponder.new (strategy : CertValidationStrategy) (material : M) : SpdmResponder C where
  common := lib.newContext (rspCapabilities build) strategy material
  deviceIo := FramedStream.new cfg
  sessionId := none

namespace SpdmResponderBuilder

def new : SpdmResponderBuilder := ⟨.verifyNone, true⟩

def withVerifyMode (self : SpdmResponderBuilder) (verifyMode : VerifyMode) : SpdmResponderBuilder :=
  { self with verifyMode := verifyMode }

def withAttestSelf (self : SpdmResponderBuilder) (attestSelf : Bool) : SpdmResponderBuilder :=
  { self with attestSelf := attestSelf }

/-- `attested` is what comes of making a certificate for the responder, and `empty` the providers that
stand in for it. -/
def buildWithTcpStream (self : SpdmResponderBuilder) (attested : Res M) (empty : M) :
    Res (SpdmResponder C) := do
  let material ← (if self.attestSelf then attested else .ok empty : Res M)
  let strategy : CertValidationStrategy :=
    if self.verifyMode.contains .verifyPeer then .rats else .default
  .ok (SpdmResponder.new lib cfg build strategy material)

end SpdmResponderBuilder

/-! ### `negotiate` -/

/-- `u32::read`. -/
def readU32 (bytes : Bytes) : Option Nat :=
  if bytes.length < 4 then none else some (leNat (bytes.take 4))

/-- What an iteration makes of a result: another iteration, an error, or the id of a session that is
established. -/
def concluded (common : C) (rawPacket : Bytes) : ProcessMessageResult → Option (Res Nat)
  | .success used | .successSecured used _ _ =>
    match slice rawPacket 0 used with
    | .error c => some (Res.crash c)
    | .ok packet =>
      match readU32 packet with
      | none => some (Res.fail .spdmNegotiate "failed to get session_id")
      | some sessionId =>
        match lib.sessionState common sessionId with
        | some .established => some (.ok sessionId)
        -- Before KEY_EXCHANGE there is no session, and until FINISH it is not established.
        | some .notStarted | some .handshaking | none => none
  | .spdmHandleError status =>
    some (((lib.ofStatus (.error status)).kind .spdmNegotiate).context
      "process_message failed while handling SPDM message")
  | .decodeError _ => some (Res.fail .spdmNegotiate "failed while parsing transport data")

/-- Where a call of `negotiate` has got to: without a result, it waits for the next packet. -/
structure Negotiation (C : Type) where
  result : Option (Res Unit)
  responder : SpdmResponder C
  asked : List Bytes

namespace SpdmResponder

/-- The loop, as far as the events go that have come. -/
def negotiateFrom (self : SpdmResponder C) (rawPacket : Bytes) : List E → Negotiation C
  | [] => ⟨none, self, []⟩
  | event :: events =>
    let processed := lib.processMessage self.common self.deviceIo rawPacket event
    let self := { self with common := processed.common, deviceIo := processed.deviceIo }
    match processed.outcome with
    | .error c => ⟨some (Res.crash c), self, processed.asked⟩
    | .ok result =>
      match concluded lib processed.common processed.rawPacket result with
      | some (.ok sessionId) => ⟨some (.ok ()), { self with sessionId := some sessionId }, processed.asked⟩
      | some (.error e) => ⟨some (.error e), self, processed.asked⟩
      | none =>
        let rest := negotiateFrom self processed.rawPacket events
        { rest with asked := processed.asked ++ rest.asked }

def negotiate (self : SpdmResponder C) (events : List E) : Negotiation C :=
  self.negotiateFrom lib (List.replicate cfg.receiverBufferSize 0) events

end SpdmResponder

end Responder

end RatsRs.Transport
