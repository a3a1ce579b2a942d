import RatsRs.Transport.Plain
import RatsRs.Transport.Responder
import RatsRs.Transport.Verifiers

/-! Whether a responder verifies its peer.

`spdmlib` asks the requester for its certificate only if both sides advertise `MUT_AUTH_CAP`
(`MutAuthGated`). The responder advertises it in builds with the feature `mut-auth`, and there are none:
`Cargo.toml` has no such feature. So the strategy that `VERIFY_PEER` has the builder choose is never asked,
and `negotiate`, which looks at the state of the session only, is `Ok` without it. -/
namespace RatsRs.Transport
open Lib Tee Cert

/-! ### What is advertised -/

/-- No build has the feature. -/
theorem Build.cfg_mutAuth (build : Build) : build.cfg "mut-auth" = false := by
  apply List.any_eq_false.mpr
  intro f _
  cases f <;> decide

theorem mutAuth_not_advertised (build : Build) : .mutAuth ∉ rspCapabilities build := by
  rw [rspCapabilities, build.cfg_mutAuth]
  decide

section Responder
variable {C E M : Type} {lib : ResponderLib C E M} {cfg : Config} {build : Build}

/-- With `VERIFY_PEER` the strategy is the one that verifies evidence. -/
theorem buildWithTcpStream_ok {builder : SpdmResponderBuilder} {attested : Res M} {empty : M}
    {responder : SpdmResponder C} (hmode : builder.verifyMode.contains .verifyPeer = true)
    (h : builder.buildWithTcpStream lib cfg build attested empty = .ok responder) :
    ∃ material, responder = SpdmResponder.new lib cfg build .rats material := by
  unfold SpdmResponderBuilder.buildWithTcpStream at h
  obtain ⟨material, -, hnew⟩ := bind_eq_ok.mp h
  rw [if_pos hmode] at hnew
  exact ⟨material, (Except.ok.inj hnew).symm⟩

/-! ### What is asked -/

/-- What is assumed of `spdmlib`: a context keeps the capabilities it was made with, and asks for and
verifies the requester's certificate only if both peers advertise `MUT_AUTH_CAP`. -/
structure MutAuthGated (lib : ResponderLib C E M) where
  advertised : C → List ResponseCapability
  requesterMutAuth : C → Bool
  newContext : ∀ capabilities strategy material,
    advertised (lib.newContext capabilities strategy material) = capabilities
  kept : ∀ common deviceIo rawPacket event,
    advertised (lib.processMessage common deviceIo rawPacket event).common = advertised common
  asks : ∀ common deviceIo rawPacket event,
    (lib.processMessage common deviceIo rawPacket event).asked ≠ [] →
      .mutAuth ∈ advertised common ∧
        requesterMutAuth (lib.processMessage common deviceIo rawPacket event).common = true

/-- A responder that does not advertise it never has the strategy asked, whatever the requester does. -/
theorem negotiateFrom_unasked (gated : MutAuthGated lib) {self : SpdmResponder C} {rawPacket : Bytes}
    {events : List E} (h : .mutAuth ∉ gated.advertised self.common) :
    (self.negotiateFrom lib rawPacket events).asked = [] := by
  induction events generalizing self rawPacket with
  | nil => rfl
  | cons event events ih =>
    have hasked : (lib.processMessage self.common self.deviceIo rawPacket event).asked = [] := by
      by_contra hne
      exact h (gated.asks self.common self.deviceIo rawPacket event hne).1
    rw [SpdmResponder.negotiateFrom]
    split
    · exact hasked
    · split
      · exact hasked
      · exact hasked
      · -- another iteration, with the context as it is now
        have hrest : .mutAuth ∉ gated.advertised
            (lib.processMessage self.common self.deviceIo rawPacket event).common := by
          rwa [gated.kept]
        show _ ++ _ = []
        rw [hasked, List.nil_append]
        exact ih hrest

/-- When `negotiate` is `Ok`, a chain of the requester was passed to `RatsCertValidationStrategy` and
accepted. -/
def PeerVerified (X : Externals) (D : Dcap) (negotiation : Negotiation C) : Prop :=
  negotiation.result = some (.ok ()) → ∃ chain ∈ negotiation.asked,
    RatsCertValidationStrategy.verifyCertChain X D chain = .ok (.ok ())

end Responder

/-! ### A handshake

A library that obeys `MutAuthGated`: capabilities, key exchange, the requester's certificate where both
peers advertise `MUT_AUTH_CAP`, and finish, which establishes the session unless that certificate is
still due. -/

/-- What a requester may send. -/
inductive HandshakeMessage where
  | getCapabilities (mutAuth : Bool)
  | keyExchange (sessionId : Nat)
  | certificate (chain : Bytes)
  | finish (sessionId : Nat)

structure HandshakeContext where
  capabilities : List ResponseCapability
  strategy : CertValidationStrategy
  requesterMutAuth : Bool
  verified : Bool
  session : Option (Nat × SpdmSessionState)

namespace HandshakeContext

/-- Both peers advertise it. -/
def mutualAuth (context : HandshakeContext) : Bool :=
  context.requesterMutAuth && context.capabilities.contains .mutAuth

def sessionState (context : HandshakeContext) (sessionId : Nat) : Option SpdmSessionState :=
  match context.session with
  | some (id, state) => if sessionId = id then some state else none
  | none => none

/-- The result of a message and the packet it came in, the context after it, and the chains passed to
the strategy, whose verdict is `verify`'s. -/
def handle (verify : CertValidationStrategy → Bytes → Bool) (context : HandshakeContext) :
    HandshakeMessage → ProcessMessageResult × Bytes × HandshakeContext × List Bytes
  | .getCapabilities mutAuth =>
    (.success 4, [0x12, 0xe1, 0, 0], { context with requesterMutAuth := mutAuth }, [])
  | .keyExchange sessionId =>
    (.success 4, [0x12, 0xe4, 0, 0], { context with session := some (sessionId, .handshaking) }, [])
  | .certificate chain =>
    if context.mutualAuth = true then
      if verify context.strategy chain = true then
        (.success 4, [0x12, 0xea, 0, 0], { context with verified := true }, [chain])
      else (.spdmHandleError (.other 1), [], context, [chain])
    else (.spdmHandleError (.other 2), [], context, [])
  | .finish sessionId =>
    if context.mutualAuth = true ∧ context.verified = false then (.spdmHandleError (.other 3), [], context, [])
    else if context.sessionState sessionId = some .handshaking then
      (.successSecured 6 2 false, leBytes 4 sessionId ++ [0x12, 0xe5],
        { context with session := some (sessionId, .established) }, [])
    else (.spdmHandleError (.other 4), [], context, [])

end HandshakeContext

def ResponderLib.handshake (verify : CertValidationStrategy → Bytes → Bool) :
    ResponderLib HandshakeContext HandshakeMessage Unit where
  rspDataTransferSizeSel _ := 0
  encodeSecuredMessage context _ _ buffer _ _ := (.error (.other 5), buffer, context)
  decodeSecuredMessage context _ _ buffer _ := (.error (.other 5), buffer, context)
  debug status := reprStr status
  newContext capabilities strategy _ := ⟨capabilities, strategy, false, false, none⟩
  processMessage context deviceIo rawPacket message :=
    let (result, packet, context, asked) := context.handle verify message
    ⟨.ok result, splice rawPacket 0 packet, context, deviceIo, asked⟩
  sessionState := HandshakeContext.sessionState

theorem handle_capabilities (verify : CertValidationStrategy → Bytes → Bool) (context : HandshakeContext)
    (message : HandshakeMessage) :
    (context.handle verify message).2.2.1.capabilities = context.capabilities := by
  cases message with
  | getCapabilities mutAuth => rfl
  | keyExchange sessionId => rfl
  | certificate chain =>
    dsimp only [HandshakeContext.handle]
    split
    · split <;> rfl
    · rfl
  | finish sessionId =>
    dsimp only [HandshakeContext.handle]
    split
    · rfl
    · split <;> rfl

/-- Only a certificate is passed on, and only where both advertise. -/
theorem handle_asked (verify : CertValidationStrategy → Bytes → Bool) (context : HandshakeContext)
    (message : HandshakeMessage) (h : (context.handle verify message).2.2.2 ≠ []) :
    context.mutualAuth = true ∧ (context.handle verify message).2.2.1.requesterMutAuth =
      context.requesterMutAuth := by
  cases message with
  | getCapabilities mutAuth => exact absurd rfl h
  | keyExchange sessionId => exact absurd rfl h
  | certificate chain =>
    dsimp only [HandshakeContext.handle] at h ⊢
    split
    · rename_i hmutual
      refine ⟨hmutual, ?_⟩
      split <;> rfl
    · rename_i hmutual
      rw [if_neg hmutual] at h
      exact absurd rfl h
  | finish sessionId =>
    dsimp only [HandshakeContext.handle] at h
    split at h
    · exact absurd rfl h
    · split at h <;> exact absurd rfl h

def handshakeGated (verify : CertValidationStrategy → Bytes → Bool) :
    MutAuthGated (ResponderLib.handshake verify) where
  advertised := HandshakeContext.capabilities
  requesterMutAuth := HandshakeContext.requesterMutAuth
  newContext := fun _ _ _ => rfl
  kept := fun context _ _ message => handle_capabilities verify context message
  asks := by
    intro context deviceIo rawPacket message hasked
    obtain ⟨hmutual, hkept⟩ := handle_asked verify context message hasked
    have hboth : context.requesterMutAuth = true ∧ context.capabilities.contains .mutAuth = true := by
      simpa [HandshakeContext.mutualAuth] using hmutual
    refine ⟨List.contains_iff_mem.mp hboth.2, ?_⟩
    show (context.handle verify message).2.2.1.requesterMutAuth = true
    rw [hkept, hboth.1]

/-- **Main theorem.** A responder of any build, made by the builder with any mode that has `VERIFY_PEER`,
gets the strategy that verifies evidence and never has it asked: of no handshake with any requester that
`negotiate` ends with `Ok` is it true that the peer was verified. -/
theorem peer_never_verified {C E M : Type} (lib : ResponderLib C E M) (gated : MutAuthGated lib)
    (cfg : Config) (build : Build) (builder : SpdmResponderBuilder)
    (hmode : builder.verifyMode.contains .verifyPeer = true) (attested : Res M) (empty : M)
    (responder : SpdmResponder C)
    (hbuild : builder.buildWithTcpStream lib cfg build attested empty = .ok responder)
    (X : Externals) (D : Dcap) (events : List E) :
    (∃ material, responder.common = lib.newContext (rspCapabilities build) .rats material) ∧
      (responder.negotiate lib cfg events).asked = [] ∧
      (PeerVerified X D (responder.negotiate lib cfg events) ↔
        (responder.negotiate lib cfg events).result ≠ some (.ok ())) := by
  obtain ⟨material, rfl⟩ := buildWithTcpStream_ok hmode hbuild
  have hunasked : ((SpdmResponder.new lib cfg build .rats material).negotiate lib cfg events).asked = [] := by
    apply negotiateFrom_unasked gated
    show .mutAuth ∉ gated.advertised (lib.newContext _ _ _)
    rw [gated.newContext]
    exact mutAuth_not_advertised build
  refine ⟨⟨material, rfl⟩, hunasked, ?_⟩
  constructor
  · intro hverified hok
    obtain ⟨chain, hchain, -⟩ := hverified hok
    rw [hunasked] at hchain
    cases hchain
  · intro hne hok
    exact absurd hok hne

/-- The default features and SPDM. -/
def spdmBuild : Build where
  features := [.default, .base, .isSync, .cryptoRustcrypto, .attesterSgxDcapOcclum, .attesterSgxDcap,
    .verifierSgxDcap, .attesterTdx, .verifierTdx, .transportSpdm]
  closed := by decide

/-- A handshake with a strategy that accepts nobody. -/
def refusing : ResponderLib HandshakeContext HandshakeMessage Unit :=
  .handshake fun _ _ => false

/-- A requester without a certificate sets up a session. -/
def anonymously : List HandshakeMessage := [.getCapabilities false, .keyExchange 7, .finish 7]

def verifyingBuilder : SpdmResponderBuilder := SpdmResponderBuilder.new.withVerifyMode .verifyPeer

theorem peer_never_verified_handshake :
    ∃ responder, verifyingBuilder.buildWithTcpStream refusing plainConfig spdmBuild (.ok ()) () =
        .ok responder ∧
      (PeerVerified Sample.externals Sample.dcap (responder.negotiate refusing plainConfig anonymously) ↔
        (responder.negotiate refusing plainConfig anonymously).result ≠ some (.ok ())) := by
  refine ⟨_, rfl, ?_⟩
  exact (peer_never_verified refusing (handshakeGated _) plainConfig spdmBuild verifyingBuilder (by decide)
    (.ok ()) () _ rfl Sample.externals Sample.dcap anonymously).2.2

/-- It gets one, although no chain was accepted. -/
theorem unverified_peer_accepted :
    ∃ responder, verifyingBuilder.buildWithTcpStream refusing plainConfig spdmBuild (.ok ()) () =
        .ok responder ∧
      (responder.negotiate refusing plainConfig anonymously).result = some (.ok ()) ∧
      ¬ PeerVerified Sample.externals Sample.dcap
        (responder.negotiate refusing plainConfig anonymously) := by
  have hok : ((SpdmResponder.new refusing plainConfig spdmBuild .rats ()).negotiate refusing plainConfig
      anonymously).result = some (.ok ()) := by
    decide +kernel
  refine ⟨_, rfl, hok, ?_⟩
  intro hverified
  obtain ⟨chain, hchain, -⟩ := hverified hok
  cases hchain

end RatsRs.Transport
