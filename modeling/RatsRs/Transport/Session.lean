import Mathlib.Logic.Relation
import RatsRs.Transport.Half

/-! A session between a requester and a responder.

Each party has its two halves, and between them a stream of bytes in each direction. The steps
are those of the calls of the halves, one for each stretch in which a call holds the context
or waits for nothing: a `send` encodes its message and transmits the packet, a `receive` begins,
reads some more, leaves the loop of the device and decodes. Steps of the four halves come in
any order. What a `send` puts on a stream may be read in any pieces, at any later time. -/
namespace RatsRs.Transport
open Lib

inductive Role where
  | requester
  | responder
  deriving DecidableEq, Repr

namespace Role

def peer : Role → Role
  | .requester => .responder
  | .responder => .requester

def isRequester : Role → Bool
  | .requester => true
  | .responder => false

@[simp] theorem peer_peer (p : Role) : p.peer.peer = p := by cases p <;> rfl

@[simp] theorem peer_ne (p : Role) : p.peer ≠ p := by cases p <;> decide

@[simp] theorem ne_peer (p : Role) : p ≠ p.peer := (peer_ne p).symm

@[simp] theorem isRequester_peer (p : Role) : p.peer.isRequester = !p.isRequester := by cases p <;> rfl

theorem eq_or_peer (r p : Role) : r = p ∨ r = p.peer := by
  cases r <;> cases p <;> decide

/-- A party and its peer are all there are. -/
theorem both {P : Role → Prop} (p : Role) (h : P p) (h' : P p.peer) (r : Role) : P r := by
  rcases r.eq_or_peer p with rfl | rfl
  · exact h
  · exact h'

end Role

/-- A call of `receive` in progress: in the loop of the device, or with what it received. -/
inductive Receiving where
  | reading (progress : Progress) (buf : Bytes)
  | decoding (received : Received) (buf : Bytes)

/-- A party after `into_split`. -/
structure Endpoint (C : Type) where
  common : C
  readHalf : ReadHalf
  writeHalf : WriteHalf
  receiving : Option Receiving
  /-- A call of `send` in progress: its message, and the packet it has encoded. -/
  sending : Option (Bytes × Bytes)

structure System (C : Type) where
  endpoint : Role → Endpoint C
  /-- What a party has sent and its peer has not read yet. -/
  wire : Role → Bytes
  /-- The messages whose `send` has returned `Ok`, and their packets. -/
  sent : Role → List Bytes
  packets : Role → List Bytes
  /-- What the `Ok` calls of `receive` returned. -/
  received : Role → List Bytes

namespace System
variable {C : Type}

def setEndpoint (s : System C) (p : Role) (e : Endpoint C) : System C :=
  { s with endpoint := Function.update s.endpoint p e }

def setWire (s : System C) (p : Role) (wire : Bytes) : System C :=
  { s with wire := Function.update s.wire p wire }

@[simp] theorem setEndpoint_self (s : System C) (p : Role) (e : Endpoint C) :
    (s.setEndpoint p e).endpoint p = e := Function.update_self ..

@[simp] theorem setEndpoint_peer (s : System C) (p : Role) (e : Endpoint C) :
    (s.setEndpoint p e).endpoint p.peer = s.endpoint p.peer :=
  Function.update_of_ne (Role.peer_ne p) ..

theorem setEndpoint_setEndpoint (s : System C) (p : Role) (e e' : Endpoint C) :
    (s.setEndpoint p e).setEndpoint p e' = s.setEndpoint p e' := by
  simp [setEndpoint]

end System

/-- The loop of the device ends, with `wire` still to be read. -/
inductive Progress.Ends (p : Progress) (wire : Bytes) : Progress → Bool → Bytes → Prop
  | enough {q : Progress} (check : p.check = .ok (q, .enough)) : Ends p wire q true wire
  | full {q : Progress} (check : p.check = .ok (q, .full)) : Ends p wire q false wire
  | read {q q' : Progress} {space : Nat} {answer : Answer} {wire' : Bytes}
      (check : p.check = .ok (q, .wants space)) (reads : Reads wire space answer wire')
      (stop : q.absorb answer = (q', false)) : Ends p wire q' false wire'

/-- What a call of `receive` has returned. -/
def returned : Res Nat → Bytes → List Bytes
  | .ok used, buf => [buf.take used]
  | .error _, _ => []

/-- One step of one of the calls. Sends are `Ok`; a receive is made with a buffer that has room for
the message whose turn it is. -/
inductive Step {C : Type} (lib : Spdmlib C) (cfg : Config) : System C → System C → Prop
  | encode {s : System C} (p : Role) {message packet : Bytes} {common : C}
      (idle : (s.endpoint p).sending = none)
      (encode : (s.endpoint p).writeHalf.encode lib cfg (s.endpoint p).common message =
        (.ok packet, common)) :
      Step lib cfg s (s.setEndpoint p
        { s.endpoint p with common := common, sending := some (message, packet) })
  | transmit {s : System C} (p : Role) {message packet wire : Bytes}
      (sending : (s.endpoint p).sending = some (message, packet))
      (transmit : WriteHalf.transmit lib cfg Write.string (s.wire p) packet = (.ok (), wire)) :
      Step lib cfg s
        { (s.setEndpoint p { s.endpoint p with sending := none }).setWire p wire with
          sent := Function.update s.sent p (s.sent p ++ [message])
          packets := Function.update s.packets p (s.packets p ++ [packet]) }
  | call {s : System C} (p : Role) (buf : Bytes) (idle : (s.endpoint p).receiving = none) :
      Step lib cfg s (s.setEndpoint p
        { s.endpoint p with
          receiving := some (.reading (Progress.start (s.endpoint p).readHalf.deviceIo) buf) })
  | read {s : System C} (p : Role) {progress q q' : Progress} {buf wire : Bytes} {space : Nat}
      {answer : Answer} (receiving : (s.endpoint p).receiving = some (.reading progress buf))
      (check : progress.check = .ok (q, .wants space))
      (reads : Reads (s.wire p.peer) space answer wire) (more : q.absorb answer = (q', true)) :
      Step lib cfg s ((s.setEndpoint p
        { s.endpoint p with receiving := some (.reading q' buf) }).setWire p.peer wire)
  | framed {s : System C} (p : Role) {progress q : Progress} {buf wire : Bytes} {enough : Bool}
      {received : Received} (receiving : (s.endpoint p).receiving = some (.reading progress buf))
      (ends : progress.Ends (s.wire p.peer) q enough wire)
      (finish : q.finish enough (ReadHalf.transportBuffer cfg) = .ok received) :
      Step lib cfg s ((s.setEndpoint p
        { s.endpoint p with
          readHalf := { (s.endpoint p).readHalf with deviceIo := received.framed }
          receiving := some (.decoding received buf) }).setWire p.peer wire)
  | deliver {s : System C} (p : Role) {received : Received} {buf buf' : Bytes} {result : Res Nat}
      {common : C} (receiving : (s.endpoint p).receiving = some (.decoding received buf))
      (deliver : (s.endpoint p).readHalf.deliver lib (s.endpoint p).common received buf =
        (result, buf', common))
      (room : ∀ m, (s.sent p.peer)[(s.received p).length]? = some m → m.length ≤ buf.length) :
      Step lib cfg s
        { s.setEndpoint p { s.endpoint p with common := common, receiving := none } with
          received := Function.update s.received p (s.received p ++ returned result buf') }

/-- Steps in any order. -/
abbrev Steps {C : Type} (lib : Spdmlib C) (cfg : Config) : System C → System C → Prop :=
  Relation.ReflTransGen (Step lib cfg)

/-- A step in which no call of `receive` returns. -/
def Quiet {C : Type} (lib : Spdmlib C) (cfg : Config) (s s' : System C) : Prop :=
  Step lib cfg s s' ∧ ∀ p, (s'.endpoint p).receiving = none → (s.endpoint p).receiving = none

abbrev QuietSteps {C : Type} (lib : Spdmlib C) (cfg : Config) : System C → System C → Prop :=
  Relation.ReflTransGen (Quiet lib cfg)

theorem Quiet.of_party {C : Type} {lib : Spdmlib C} {cfg : Config} {s s' : System C} (p : Role)
    (step : Step lib cfg s s') (peer : s'.endpoint p.peer = s.endpoint p.peer)
    (own : (s'.endpoint p).receiving = none → (s.endpoint p).receiving = none) :
    Quiet lib cfg s s' :=
  ⟨step, Role.both p own (by rw [peer]; exact id)⟩

theorem QuietSteps.steps {C : Type} {lib : Spdmlib C} {cfg : Config} {s s' : System C}
    (h : QuietSteps lib cfg s s') : Steps lib cfg s s' :=
  Relation.ReflTransGen.mono (fun _ _ => And.left) _ _ h

/-! ### Whole calls are steps

The steps of a call that nothing comes in between are the call. -/

section Calls
variable {C σ : Type} {lib : Spdmlib C} {cfg : Config}

/-- `send` is encoding and transmitting. -/
theorem send_steps {s : System C} {p : Role} {message wire : Bytes} {common : C}
    (idle : (s.endpoint p).sending = none)
    (send : (s.endpoint p).writeHalf.send lib cfg Write.string (s.endpoint p).common (s.wire p) message =
      (.ok (), common, wire)) :
    ∃ packet, QuietSteps lib cfg s
      { (s.setEndpoint p { s.endpoint p with common := common, sending := none }).setWire p wire with
        sent := Function.update s.sent p (s.sent p ++ [message])
        packets := Function.update s.packets p (s.packets p ++ [packet]) } := by
  unfold WriteHalf.send at send
  cases hencode : (s.endpoint p).writeHalf.encode lib cfg (s.endpoint p).common message with
  | mk encoded context =>
    rw [hencode] at send
    cases encoded with
    | error e => cases (Prod.mk.inj send).1
    | ok packet =>
      obtain ⟨hresult, hrest⟩ := Prod.mk.inj send
      obtain ⟨rfl, hwire⟩ := Prod.mk.inj hrest
      have htransmit : WriteHalf.transmit lib cfg Write.string (s.wire p) packet = (.ok (), wire) :=
        Prod.ext hresult hwire
      have hencodes : Quiet lib cfg s (s.setEndpoint p
          { s.endpoint p with common := context, sending := some (message, packet) }) :=
        .of_party p (.encode p idle hencode) (System.setEndpoint_peer ..)
          (by rw [System.setEndpoint_self]; exact id)
      refine ⟨packet, .tail (.single hencodes) ?_⟩
      have hsending : ((s.setEndpoint p
          { s.endpoint p with common := context, sending := some (message, packet) }).endpoint p).sending =
          some (message, packet) := by rw [System.setEndpoint_self]
      have hstep : Step lib cfg _ _ := .transmit p hsending htransmit
      rw [System.setEndpoint_self, System.setEndpoint_setEndpoint] at hstep
      refine .of_party p hstep ?_ ?_
      · show (s.setEndpoint p _).endpoint p.peer = (s.setEndpoint p _).endpoint p.peer
        rw [System.setEndpoint_peer, System.setEndpoint_peer]
      · show ((s.setEndpoint p _).endpoint p).receiving = none → _
        rw [System.setEndpoint_self, System.setEndpoint_self]
        exact id

/-- A party with a call in the loop of the device. -/
def System.reading (s : System C) (p : Role) (progress : Progress) (buf wire : Bytes) : System C :=
  (s.setEndpoint p { s.endpoint p with receiving := some (.reading progress buf) }).setWire p.peer wire

@[simp] theorem System.reading_endpoint (s : System C) (p : Role) (progress : Progress)
    (buf wire : Bytes) : (s.reading p progress buf wire).endpoint p =
      { s.endpoint p with receiving := some (.reading progress buf) } := System.setEndpoint_self ..

@[simp] theorem System.reading_wire (s : System C) (p : Role) (progress : Progress)
    (buf wire : Bytes) : (s.reading p progress buf wire).wire p.peer = wire := Function.update_self ..

theorem System.reading_reading (s : System C) (p : Role) (progress progress' : Progress)
    (buf wire wire' : Bytes) :
    (s.reading p progress buf wire).reading p progress' buf wire' = s.reading p progress' buf wire' := by
  simp [reading, setEndpoint, setWire]

theorem System.reading_self {s : System C} {p : Role} {progress : Progress} {buf : Bytes}
    (h : (s.endpoint p).receiving = some (.reading progress buf)) :
    s.reading p progress buf (s.wire p.peer) = s := by
  simp [reading, setEndpoint, setWire, ← h]

/-- And with what it received from the device. -/
def System.decoding (s : System C) (p : Role) (half : ReadHalf) (received : Received)
    (buf wire : Bytes) : System C :=
  (s.setEndpoint p
    { s.endpoint p with readHalf := half, receiving := some (.decoding received buf) }).setWire p.peer wire

@[simp] theorem System.decoding_endpoint (s : System C) (p : Role) (half : ReadHalf)
    (received : Received) (buf wire : Bytes) : (s.decoding p half received buf wire).endpoint p =
      { s.endpoint p with readHalf := half, receiving := some (.decoding received buf) } :=
  System.setEndpoint_self ..

/-- The loop of the device, up to the iteration that leaves it. -/
theorem receiveLoop_steps {R : Read σ} {content : σ → Bytes}
    (hR : ∀ {t n answer t'}, R.read t n = (answer, t') → Reads (content t) n answer (content t'))
    {p : Role} {buf : Bytes} {fuel : Nat} {progress q : Progress} {enough : Bool} {t t' : σ}
    {s : System C} (receiving : (s.endpoint p).receiving = some (.reading progress buf))
    (hwire : s.wire p.peer = content t)
    (hloop : receiveLoop R fuel progress t = .ok (q, enough, t')) :
    ∃ progress' wire, QuietSteps lib cfg s (s.reading p progress' buf wire) ∧
      progress'.Ends wire q enough (content t') := by
  induction fuel generalizing progress t s with
  | zero => cases hloop
  | succ fuel ih =>
    -- the loop is left here: no step before the one that does so
    have hstay : ∀ {q' enough' wire'}, progress.Ends (content t) q' enough' wire' →
        ∃ progress' wire, QuietSteps lib cfg s (s.reading p progress' buf wire) ∧
          progress'.Ends wire q' enough' wire' := by
      intro q' enough' wire' hends
      refine ⟨progress, s.wire p.peer, ?_, hwire ▸ hends⟩
      rw [System.reading_self receiving]
    rw [receiveLoop] at hloop
    obtain ⟨⟨q₁, verdict⟩, hcheck, hloop⟩ := bind_eq_ok.mp hloop
    cases verdict with
    | enough =>
      obtain ⟨rfl, rfl, rfl⟩ := ok_triple_inj hloop
      exact hstay (.enough hcheck)
    | full =>
      obtain ⟨rfl, rfl, rfl⟩ := ok_triple_inj hloop
      exact hstay (.full hcheck)
    | wants space =>
      cases hread : R.read t space with
      | mk answer t₁ =>
        simp only [hread] at hloop
        cases habsorb : q₁.absorb answer with
        | mk q₂ more =>
          simp only [habsorb] at hloop
          cases more with
          | false =>
            obtain ⟨rfl, rfl, rfl⟩ := ok_triple_inj hloop
            exact hstay (.read hcheck (hR hread) habsorb)
          | true =>
            have hstep : Quiet lib cfg s (s.reading p q₂ buf (content t₁)) :=
              .of_party p (.read p receiving hcheck (hwire ▸ hR hread) habsorb)
                (System.setEndpoint_peer ..) (by rw [System.reading_endpoint]; nofun)
            obtain ⟨progress', wire, hsteps, hends⟩ :=
              ih (s := s.reading p q₂ buf (content t₁)) (by simp) (by simp) hloop
            rw [System.reading_reading] at hsteps
            exact ⟨progress', wire, .head hstep hsteps, hends⟩

/-- `receive` up to decoding: beginning, the loop and leaving it. -/
theorem device_steps {R : Read σ} {content : σ → Bytes}
    (hR : ∀ {t n answer t'}, R.read t n = (answer, t') → Reads (content t) n answer (content t'))
    {s : System C} {p : Role} {buf : Bytes} {t t' : σ} {received : Received}
    (idle : (s.endpoint p).receiving = none) (hwire : s.wire p.peer = content t)
    (receive : (s.endpoint p).readHalf.deviceIo.receive R t (ReadHalf.transportBuffer cfg) =
      .ok (received, t')) :
    QuietSteps lib cfg s (s.decoding p { (s.endpoint p).readHalf with deviceIo := received.framed }
      received buf (content t')) := by
  unfold FramedStream.receive at receive
  obtain ⟨⟨q, enough, t₂⟩, hloop, hafter⟩ := bind_eq_ok.mp receive
  obtain ⟨received', hfinish, hend⟩ := bind_eq_ok.mp hafter
  obtain ⟨rfl, rfl⟩ := Prod.mk.inj (Except.ok.inj hend)
  have hcall : Quiet lib cfg s (s.reading p (Progress.start (s.endpoint p).readHalf.deviceIo) buf
      (s.wire p.peer)) := by
    have hstep : Step lib cfg s _ := .call p buf idle
    refine .of_party p ?_ (System.setEndpoint_peer ..) (fun _ => idle)
    rwa [System.reading, System.setWire, show (s.setEndpoint p _).wire = s.wire from rfl,
      Function.update_eq_self]
  have hbegun : ((s.reading p (Progress.start (s.endpoint p).readHalf.deviceIo) buf
      (s.wire p.peer)).endpoint p).receiving =
      some (.reading (Progress.start (s.endpoint p).readHalf.deviceIo) buf) := by simp
  obtain ⟨progress, wire, hreads, hends⟩ := @receiveLoop_steps C σ lib cfg R content hR p buf _ _ _ _
    _ _ _ hbegun (by simpa using hwire) hloop
  rw [System.reading_reading] at hreads
  have hframed : Step lib cfg (s.reading p progress buf wire)
      (s.decoding p { (s.endpoint p).readHalf with deviceIo := received'.framed } received' buf
        (content t₂)) := by
    have hstep := @Step.framed C lib cfg (s.reading p progress buf wire) p progress q buf (content t₂)
      enough received' (by simp) (by simpa using hends) hfinish
    simpa [System.decoding, System.reading, System.setEndpoint, System.setWire] using hstep
  refine .tail (.head hcall hreads) (.of_party p hframed ?_ ?_)
  · exact (System.setEndpoint_peer ..).trans (System.setEndpoint_peer ..).symm
  · rw [System.decoding_endpoint]
    nofun

theorem receive_decoding {R : Read σ} {content : σ → Bytes}
    (hR : ∀ {t n answer t'}, R.read t n = (answer, t') → Reads (content t) n answer (content t'))
    {s : System C} {p : Role} {buf buf' : Bytes} {t t' : σ} {result : Res Nat} {half : ReadHalf}
    {common : C} (idle : (s.endpoint p).receiving = none) (hwire : s.wire p.peer = content t)
    (receive : (s.endpoint p).readHalf.receive lib cfg R (s.endpoint p).common t buf =
      (result, buf', half, common, t'))
    (returns : result.Safe) :
    ∃ received, QuietSteps lib cfg s (s.decoding p half received buf (content t')) ∧
      half.deliver lib (s.endpoint p).common received buf = (result, buf', common) := by
  unfold ReadHalf.receive at receive
  cases hdevice : (s.endpoint p).readHalf.deviceIo.receive R t (ReadHalf.transportBuffer cfg) with
  | error c =>
    rw [hdevice] at receive
    exact absurd (Prod.mk.inj receive).1.symm (returns c)
  | ok handed =>
    obtain ⟨received, t₁⟩ := handed
    simp only [hdevice] at receive
    obtain ⟨hresult, hrest⟩ := Prod.mk.inj receive
    obtain ⟨hbuf, hrest'⟩ := Prod.mk.inj hrest
    obtain ⟨rfl, hrest''⟩ := Prod.mk.inj hrest'
    obtain ⟨hcommon, rfl⟩ := Prod.mk.inj hrest''
    exact ⟨received, device_steps hR idle hwire hdevice, Prod.ext hresult (Prod.ext hbuf hcommon)⟩

/-- A party whose call has returned `messages`. -/
def System.delivered (s : System C) (p : Role) (half : ReadHalf) (common : C) (wire : Bytes)
    (messages : List Bytes) : System C :=
  { (s.setEndpoint p
      { s.endpoint p with common := common, readHalf := half, receiving := none }).setWire p.peer wire with
    received := Function.update s.received p (s.received p ++ messages) }

@[simp] theorem System.delivered_received (s : System C) (p : Role) (half : ReadHalf) (common : C)
    (wire : Bytes) (messages : List Bytes) :
    (s.delivered p half common wire messages).received p = s.received p ++ messages :=
  Function.update_self ..

@[simp] theorem System.delivered_sent (s : System C) (p : Role) (half : ReadHalf) (common : C)
    (wire : Bytes) (messages : List Bytes) :
    (s.delivered p half common wire messages).sent = s.sent := rfl

theorem System.delivered_of_decoding (s : System C) (p : Role) (half : ReadHalf) (received : Received)
    (buf wire : Bytes) (common : C) (messages : List Bytes) :
    { (s.decoding p half received buf wire).setEndpoint p
        { (s.decoding p half received buf wire).endpoint p with common := common, receiving := none } with
      received := Function.update s.received p (s.received p ++ messages) } =
      s.delivered p half common wire messages := by
  simp [System.decoding, System.delivered, System.setEndpoint, System.setWire]

/-- `receive` is these steps and decoding. -/
theorem receive_steps {R : Read σ} {content : σ → Bytes}
    (hR : ∀ {t n answer t'}, R.read t n = (answer, t') → Reads (content t) n answer (content t'))
    {s : System C} {p : Role} {buf buf' : Bytes} {t t' : σ} {result : Res Nat} {half : ReadHalf}
    {common : C} (idle : (s.endpoint p).receiving = none) (hwire : s.wire p.peer = content t)
    (room : ∀ m, (s.sent p.peer)[(s.received p).length]? = some m → m.length ≤ buf.length)
    (receive : (s.endpoint p).readHalf.receive lib cfg R (s.endpoint p).common t buf =
      (result, buf', half, common, t'))
    (returns : result.Safe) :
    Steps lib cfg s (s.delivered p half common (content t') (returned result buf')) := by
  obtain ⟨received, hsteps, hdeliver⟩ := receive_decoding hR idle hwire receive returns
  have hstep := @Step.deliver C lib cfg (s.decoding p half received buf (content t')) p received buf buf'
    result common (by rw [System.decoding_endpoint]) (by rw [System.decoding_endpoint]; exact hdeliver)
    room
  refine .tail hsteps.steps ?_
  rw [← System.delivered_of_decoding s p half received buf (content t')]
  exact hstep

end Calls

/-! ### The start of a session -/

/-- The two parties after `negotiate`. One may have split before the other and sent messages: `sent`
are those, and their bytes are on the wire or, some of them, already in the `FramedStream` that
negotiated. -/
structure Negotiated (C : Type) where
  requester : SpdmRequester C
  responder : SpdmResponder C
  wire : Role → Bytes
  sent : Role → List Bytes
  packets : Role → List Bytes

namespace Negotiated
variable {C : Type}

def common (n : Negotiated C) : Role → C
  | .requester => n.requester.common
  | .responder => n.responder.common

def deviceIo (n : Negotiated C) : Role → FramedStream
  | .requester => n.requester.deviceIo
  | .responder => n.responder.deviceIo

def sessionId (n : Negotiated C) : Role → Option Nat
  | .requester => n.requester.sessionId
  | .responder => n.responder.sessionId

/-- Both parties call `into_split`. -/
def intoSplit (cfg : Config) (n : Negotiated C) : Res (System C) := do
  let (requesterRead, requesterWrite, requesterCommon) ← n.requester.intoSplit cfg
  let (responderRead, responderWrite, responderCommon) ← n.responder.intoSplit cfg
  .ok
    { endpoint := fun
        | .requester => ⟨requesterCommon, requesterRead, requesterWrite, none, none⟩
        | .responder => ⟨responderCommon, responderRead, responderWrite, none, none⟩
      wire := n.wire
      sent := n.sent
      packets := n.packets
      received := fun _ => [] }

end Negotiated

end RatsRs.Transport
