import RatsRs.Transport.Frozen

/-! Programs that drive a session.

The threads on both sides of a session call its halves, and go on with what the calls return. A
`Program` says which calls are made in which of its states and where each result leads; `DrivenStep`
puts it on top of the session, whose calls may fail at every point. A send that fails on
the socket leaves some front part of its frame on the stream. For programs that do not send again
after such a failure the rest of that frame is never missed: the session runs as one in which
the frame was put whole and its tail has not arrived yet, and a counter that a failed encoding has used
up is as good as frozen; so what is known of sessions without failures holds here as well
(`Accounted`). -/
namespace RatsRs.Transport
open Lib

/-- The threads of both parties, in a state for all of them. -/
structure Program (A : Type) where
  /-- A step without a call of the halves. -/
  elsewhere : A → A → Prop
  /-- A party calls `send`, and `send` returns. -/
  sends : A → Role → Bytes → Prop
  sent : A → Role → Bytes → Res Unit → A → Prop
  /-- A party calls `receive` with a buffer, and `receive` returns and leaves a buffer. -/
  receives : A → Role → Bytes → Prop
  received : A → Role → Bytes → Res Nat → Bytes → A → Prop

namespace Program
variable {A : Type} (P : Program A)

/-- A program goes on. -/
inductive Next : A → A → Prop
  | elsewhere {a a' : A} (h : P.elsewhere a a') : Next a a'
  | sent {a a' : A} (p : Role) {message : Bytes} {result : Res Unit}
      (h : P.sent a p message result a') : Next a a'
  | received {a a' : A} (p : Role) {buf buf' : Bytes} {result : Res Nat}
      (h : P.received a p buf result buf' a') : Next a a'

/-- A party sends nothing any more. -/
def Silent (a : A) (p : Role) : Prop :=
  ∀ a', Relation.ReflTransGen P.Next a a' → ∀ message, ¬ P.sends a' p message

/-- A send that fails is the last of its party. -/
def StopsAtFailure : Prop :=
  ∀ ⦃a p message e a'⦄, P.sent a p message (.error e) a' → P.Silent a' p

variable {P}

theorem Silent.next {a a' : A} {p : Role} (h : P.Silent a p) (next : P.Next a a') : P.Silent a' p :=
  fun b hb => h b (hb.head next)

theorem Silent.not_sends {a : A} {p : Role} {message : Bytes} (h : P.Silent a p) :
    ¬ P.sends a p message := h a .refl message

/-- What every step keeps and rules out a send is silence. -/
theorem silent_of_kept {Q : A → Prop} {a : A} {p : Role} (start : Q a)
    (kept : ∀ {a a'}, Q a → P.Next a a' → Q a') (quiet : ∀ {a message}, Q a → ¬ P.sends a p message) :
    P.Silent a p := by
  intro a' hruns message
  have hkept : Q a' := by
    induction hruns with
    | refl => exact start
    | tail _ hnext ih => exact kept ih hnext
  exact quiet hkept

end Program

/-- A session with a program on top. -/
structure Driven (C A : Type) where
  session : System C
  /-- The lengths of the buffers the packets of a party were decoded into. -/
  buffers : Role → List Nat
  program : A
  /-- The message of a send that has failed with its packet at the socket. -/
  failed : Role → Option Bytes

section Steps
variable {C A : Type} (lib : Spdmlib C) (cfg : Config) (P : Program A)

/-- One step of a thread or of one of its calls. -/
inductive DrivenStep : Driven C A → Driven C A → Prop
  | elsewhere {s : Driven C A} {a : A} (h : P.elsewhere s.program a) :
      DrivenStep s { s with program := a }
  | encode {s : Driven C A} (p : Role) {message packet : Bytes} {common : C}
      (sends : P.sends s.program p message) (idle : (s.session.endpoint p).sending = none)
      (encode : (s.session.endpoint p).writeHalf.encode lib cfg (s.session.endpoint p).common message =
        (.ok packet, common)) :
      DrivenStep s
        { s with
          session := s.session.setEndpoint p
            { s.session.endpoint p with common := common, sending := some (message, packet) } }
  | encodeFails {s : Driven C A} (p : Role) {message : Bytes} {e : Fault} {common : C} {a : A}
      (sends : P.sends s.program p message) (idle : (s.session.endpoint p).sending = none)
      (encode : (s.session.endpoint p).writeHalf.encode lib cfg (s.session.endpoint p).common message =
        (.error e, common))
      (sent : P.sent s.program p message (.error e) a) :
      DrivenStep s
        { s with
          session := s.session.setEndpoint p { s.session.endpoint p with common := common }
          program := a }
  | transmit {s : Driven C A} (p : Role) {message packet wire : Bytes} {a : A}
      (sending : (s.session.endpoint p).sending = some (message, packet))
      (transmit : WriteHalf.transmit lib cfg Write.string (s.session.wire p) packet = (.ok (), wire))
      (sent : P.sent s.program p message (.ok ()) a) :
      DrivenStep s
        { s with
          session :=
            { (s.session.setEndpoint p
                { s.session.endpoint p with sending := none }).setWire p wire with
              sent := Function.update s.session.sent p (s.session.sent p ++ [message])
              packets := Function.update s.session.packets p (s.session.packets p ++ [packet]) }
          program := a }
  | transmitFails {s : Driven C A} (p : Role) {message packet front : Bytes} {τ : Type} {W : Write τ}
      {sink sink' : τ} {e : Fault} {a : A} (keeps : W.KeepsFront)
      (sending : (s.session.endpoint p).sending = some (message, packet))
      (transmit : WriteHalf.transmit lib cfg W sink packet = (.error e, sink'))
      (put : W.written sink' = W.written sink ++ front)
      (sent : P.sent s.program p message (.error e) a) :
      DrivenStep s
        { s with
          session := (s.session.setEndpoint p
            { s.session.endpoint p with sending := none }).setWire p (s.session.wire p ++ front)
          program := a
          failed := Function.update s.failed p (some message) }
  | call {s : Driven C A} (p : Role) {buf : Bytes} (receives : P.receives s.program p buf)
      (idle : (s.session.endpoint p).receiving = none) :
      DrivenStep s
        { s with
          session := s.session.setEndpoint p
            { s.session.endpoint p with
              receiving := some
                (.reading (Progress.start (s.session.endpoint p).readHalf.deviceIo) buf) } }
  | read {s : Driven C A} (p : Role) {progress q q' : Progress} {buf wire : Bytes} {space : Nat}
      {answer : Answer} (receiving : (s.session.endpoint p).receiving = some (.reading progress buf))
      (check : progress.check = .ok (q, .wants space))
      (reads : Reads (s.session.wire p.peer) space answer wire) (more : q.absorb answer = (q', true)) :
      DrivenStep s
        { s with
          session := (s.session.setEndpoint p
            { s.session.endpoint p with receiving := some (.reading q' buf) }).setWire p.peer wire }
  | framed {s : Driven C A} (p : Role) {progress q : Progress} {buf wire : Bytes} {enough : Bool}
      {received : Received}
      (receiving : (s.session.endpoint p).receiving = some (.reading progress buf))
      (ends : progress.Ends (s.session.wire p.peer) q enough wire)
      (finish : q.finish enough (ReadHalf.transportBuffer cfg) = .ok received) :
      DrivenStep s
        { s with
          session := (s.session.setEndpoint p
            { s.session.endpoint p with
              readHalf := { (s.session.endpoint p).readHalf with deviceIo := received.framed }
              receiving := some (.decoding received buf) }).setWire p.peer wire }
  | deliver {s : Driven C A} (p : Role) {received : Received} {buf buf' : Bytes} {result : Res Nat}
      {common : C} {a : A}
      (receiving : (s.session.endpoint p).receiving = some (.decoding received buf))
      (deliver : (s.session.endpoint p).readHalf.deliver lib (s.session.endpoint p).common received buf =
        (result, buf', common))
      (returns : P.received s.program p buf result buf' a) :
      DrivenStep s
        { s with
          session :=
            { s.session.setEndpoint p
                { s.session.endpoint p with common := common, receiving := none } with
              received := Function.update s.session.received p
                (s.session.received p ++ returned result buf') }
          buffers := Function.update s.buffers p
            (s.buffers p ++ List.replicate received.packet?.toList.length buf.length)
          program := a }

abbrev DrivenSteps : Driven C A → Driven C A → Prop :=
  Relation.ReflTransGen (DrivenStep lib cfg P)

end Steps

/-- `spdmlib`: encoding a message that fails leaves the keys and the counters of the other flag as they
were. -/
def SecuredChannel.KeptOnFailure {C Key : Type} {lib : Spdmlib C} {cfg : Config} {S : Sealing Key Bool}
    (channel : SecuredChannel lib cfg S) : Prop :=
  ∀ ⦃context sessionId message buffer flag status buffer' context'⦄,
    lib.encodeSecuredMessage context sessionId message buffer flag true =
        (.error status, buffer', context') →
      ∀ id, channel.key context' id = channel.key context id ∧
        channel.counter context' id (!flag) = channel.counter context id (!flag)

/-- It can be had: the counter that is used is the one of the flag that is encoded with. -/
theorem plain_keptOnFailure (cfg : Config) : (plainChannel cfg).KeptOnFailure := by
  intro context sessionId message buffer flag status buffer' context' h id
  simp only [Spdmlib.plain] at h
  split at h
  · obtain ⟨-, rfl⟩ := (Prod.mk.inj (Prod.mk.inj h).2)
    exact ⟨rfl, rfl⟩
  · split at h
    · obtain ⟨-, rfl⟩ := (Prod.mk.inj (Prod.mk.inj h).2)
      exact ⟨rfl, rfl⟩
    · obtain ⟨-, rfl⟩ := (Prod.mk.inj (Prod.mk.inj h).2)
      cases flag <;> exact ⟨rfl, rfl⟩

section Calls
variable {C Key : Type} {lib : Spdmlib C} {cfg : Config} {S : Sealing Key Bool}

theorem encode_error (channel : SecuredChannel lib cfg S) (keeps : channel.KeptOnFailure)
    {half : WriteHalf} {common common' : C} {message : Bytes} {e : Fault}
    (h : half.encode lib cfg common message = (.error e, common')) (id : Nat) :
    channel.key common' id = channel.key common id ∧
      channel.counter common' id (!half.isRequester) = channel.counter common id (!half.isRequester) := by
  rcases (encode_fails channel h).1 with rfl | ⟨status, buffer, hencoded⟩
  · exact ⟨rfl, rfl⟩
  · exact keeps hencoded id

/-- Sending does not panic. -/
theorem transmit_safe {τ : Type} (lib : Spdmlib C) (W : Write τ) (sink : τ) (w : Bytes) :
    (WriteHalf.transmit lib cfg W sink w).1.Safe := by
  obtain ⟨result, sink', hsend, -, -⟩ := FramedStream.send_spec cfg W sink w
  simp only [WriteHalf.transmit, hsend]
  cases result with
  | ok u => exact Res.safe_ok
  | error status => exact Res.safe_fail

/-- `shutdown` does not panic. -/
theorem WriteHalf.shutdown_safe (socket : Option (Except String Unit)) : (WriteHalf.shutdown socket).Safe := by
  unfold WriteHalf.shutdown
  split
  · exact ((Res.safe_ofForeign _).mapError).mapError
  · exact Res.safe_ok

/-- Nor does receiving, with what the device has received. -/
theorem deliver_safe (lib : Spdmlib C) (half : ReadHalf) (common : C) {received : Received} (buf : Bytes)
    (within : ∀ used, received.result = .ok used → used ≤ received.readBuffer.length) :
    (half.deliver lib common received buf).1.Safe := by
  unfold ReadHalf.deliver
  cases hresult : received.result with
  | error e => exact Res.safe_fail
  | ok used =>
    simp only [slice_ok (Nat.zero_le used) (within used hresult)]
    cases hdecoded : lib.decodeSecuredMessage common half.sessionId
      ((received.readBuffer.drop 0).take (used - 0)) buf (!half.isRequester) with
    | mk decoded rest =>
      obtain ⟨buffer, context⟩ := rest
      simp only [ReadHalf.decode, hdecoded]
      cases decoded with
      | error status => exact Res.safe_fail
      | ok taken =>
        obtain ⟨used, isAppMessage⟩ := taken
        cases isAppMessage with
        | false => exact Res.safe_fail
        | true => exact Res.safe_ok

/-- On a string every packet is put whole. -/
theorem transmit_string (lib : Spdmlib C) (wire : Bytes) {w : Bytes} (hshort : w.length < 2 ^ 32) :
    WriteHalf.transmit lib cfg Write.string wire w = (.ok (), wire ++ cfg.framing.encode w) := by
  obtain ⟨result, sink, hsend, hwritten, -⟩ := FramedStream.send_spec cfg Write.string wire w
  have hok : result = .ok () := by
    unfold FramedStream.send at hsend
    dsimp only [Write.string] at hsend
    split at hsend
    · cases hsend
    · obtain ⟨header, -, hsend⟩ := bind_eq_ok.mp hsend
      exact (Prod.mk.inj (Except.ok.inj hsend)).1.symm
  subst hok
  have hsink : sink = wire ++ cfg.framing.encode w := FramedStream.send_ok hshort hsend
  simp only [WriteHalf.transmit, hsend, hsink]
  rfl

/-- A packet that fails to be sent leaves some front part of its frame. -/
theorem transmit_error {τ : Type} {W : Write τ} (hkeeps : W.KeepsFront) {sink sink' : τ}
    {w front : Bytes} {e : Fault} (hshort : w.length < 2 ^ 32)
    (h : WriteHalf.transmit lib cfg W sink w = (.error e, sink'))
    (hput : W.written sink' = W.written sink ++ front) :
    front <+: cfg.framing.encode w := by
  obtain ⟨result, sink₁, hsend, -, hfront⟩ := FramedStream.send_spec cfg W sink w
  obtain ⟨front', hstarts, hput'⟩ := hfront hkeeps
  simp only [WriteHalf.transmit, hsend] at h
  obtain ⟨-, rfl⟩ := Prod.mk.inj h
  obtain rfl : front = front' := List.append_cancel_left (hput.symm.trans hput')
  have hsize : asU32 w.length = w.length := Nat.mod_eq_of_lt hshort
  rwa [hsize] at hstarts

/-- What a call that is `Ok` says it has put in front of the caller's buffer is in it. -/
theorem deliver_within (channel : SecuredChannel lib cfg S) {half : ReadHalf} {common common' : C}
    {received : Received} {buf buf' : Bytes} {used : Nat}
    (h : half.deliver lib common received buf = (.ok used, buf', common')) :
    used ≤ buf'.length ∧ buf'.length = buf.length := by
  unfold ReadHalf.deliver at h
  cases hresult : received.result with
  | error e =>
    rw [hresult] at h
    cases (Prod.mk.inj h).1
  | ok size =>
    simp only [hresult] at h
    cases hslice : slice received.readBuffer 0 size with
    | error c =>
      rw [hslice] at h
      cases (Prod.mk.inj h).1
    | ok w =>
      simp only [hslice] at h
      cases hdecoded : lib.decodeSecuredMessage common half.sessionId w buf (!half.isRequester) with
      | mk decoded rest =>
        obtain ⟨buffer, context⟩ := rest
        simp only [ReadHalf.decode, hdecoded] at h
        obtain ⟨hused, hrest⟩ := Prod.mk.inj h
        obtain ⟨rfl, rfl⟩ := Prod.mk.inj hrest
        obtain ⟨⟨taken, isApp⟩, htaken, hensure⟩ := bind_eq_ok.mp hused
        obtain rfl : decoded = .ok (taken, isApp) := by simpa using htaken
        obtain ⟨-, -, hok⟩ := bind_eq_ok.mp hensure
        obtain rfl : taken = used := Except.ok.inj hok
        obtain ⟨k, n, record, app, hkey, hdecap, hopens⟩ := channel.refuse hdecoded
        obtain ⟨context', hdecode, -⟩ := channel.decode buf hkey hdecap hopens
        rw [hdecoded] at hdecode
        obtain ⟨htake, hrest⟩ := Prod.mk.inj hdecode
        obtain ⟨hbuffer, -⟩ := Prod.mk.inj hrest
        exact SimpleTransportEncap.take_within (Prod.ext htake.symm hbuffer.symm)

end Calls

/-! ### A frame cut short is a frame whose tail is still to come -/

/-- What completes a session: the flags and counters parties have stopped at, the missing tails of
frames, all the packets, and the messages whose packets have been decoded. -/
structure Completion where
  stopped : Role → Option (Bool × Nat)
  tails : Role → Bytes
  packets : Role → List Bytes
  taken : Role → List Bytes

/-- A party with its context in front of a frozen counter. -/
def Endpoint.freeze {C : Type} (e : Endpoint C) (stopped : Option (Bool × Nat)) : Endpoint (Frozen C) :=
  ⟨⟨e.common, stopped⟩, e.readHalf, e.writeHalf, e.receiving, e.sending⟩

namespace System
variable {C : Type}

/-- The session as if every packet that failed at the socket had been put whole, the tails of their
frames behind what is on the wire, and with the counters of those who have stopped frozen; what counts
as received is what is taken. -/
def complete (s : System C) (failed : Role → Option Bytes) (g : Completion) : System (Frozen C) where
  endpoint := fun p => (s.endpoint p).freeze (g.stopped p)
  wire := fun p => s.wire p ++ g.tails p
  sent := fun p => s.sent p ++ (failed p).toList
  packets := g.packets
  received := g.taken

theorem complete_setEndpoint (s : System C) (failed : Role → Option Bytes) (g : Completion) (p : Role)
    (e : Endpoint C) : (s.setEndpoint p e).complete failed g =
      (s.complete failed g).setEndpoint p (e.freeze (g.stopped p)) := by
  simp only [complete, setEndpoint, mk.injEq, and_self, and_true]
  funext q
  exact Function.apply_update (fun q (e : Endpoint C) => e.freeze (g.stopped q)) s.endpoint p e q

theorem complete_setWire (s : System C) (failed : Role → Option Bytes) (g : Completion) (p : Role)
    (wire : Bytes) : (s.setWire p wire).complete failed g =
      (s.complete failed g).setWire p (wire ++ g.tails p) := by
  simp only [complete, setWire, mk.injEq, and_self, and_true, true_and]
  funext q
  exact Function.apply_update (fun q x => x ++ g.tails q) s.wire p wire q

end System

section Accounts
variable {C A Key : Type} {lib : Spdmlib C} {cfg : Config} {P : Program A} {S : Sealing Key Bool}

/-- The completed session runs as sessions do, and who has failed is silent. -/
structure Accounted (P : Program A) (channel : SecuredChannel lib cfg S) (sessionId : Nat) (key : Key)
    (s : Driven C A) (g : Completion) : Prop where
  invariant : Invariant (channel.frozen sessionId) sessionId key (s.session.complete s.failed g)
  buffers : ∀ p, (g.taken p).length = (s.buffers p).length
  received : ∀ p, s.session.received p = fitting (g.taken p) (s.buffers p)
  tails : ∀ p, s.failed p = none → g.tails p = []
  own : ∀ p x, g.stopped p = some x → x.1 = p.isRequester
  silent : ∀ p, s.failed p ≠ none ∨ g.stopped p ≠ none →
    P.Silent s.program p ∧ (s.session.endpoint p).sending = none

variable {channel : SecuredChannel lib cfg S} {sessionId : Nat} {key : Key} {s s' : Driven C A}
  {g : Completion} {p : Role}

theorem Progress.Ends.append {progress q : Progress} {wire wire' : Bytes} {enough : Bool} (tail : Bytes)
    (h : progress.Ends wire q enough wire') : progress.Ends (wire ++ tail) q enough (wire' ++ tail) := by
  cases h with
  | enough check => exact .enough check
  | full check => exact .full check
  | read check reads stop => exact .read check (reads.append tail) stop

/-- What keeps a party's key and counters keeps the invariant. -/
theorem Invariant.context {t : System C} {common : C} (h : Invariant channel sessionId key t)
    (keys : channel.key common sessionId = channel.key (t.endpoint p).common sessionId)
    (counters : ∀ flag, channel.counter common sessionId flag =
      channel.counter (t.endpoint p).common sessionId flag) :
    Invariant channel sessionId key (t.setEndpoint p { t.endpoint p with common := common }) := by
  have hhalves := h.halves p
  refine h.update { t.endpoint p with common := common } (System.setEndpoint_self ..)
    (System.setEndpoint_peer ..) ⟨hhalves.1, hhalves.2, hhalves.3, hhalves.4⟩
    (by rw [keys]; exact h.keys p) (h.wellFormed p) (h.own p) rfl ?_ ?_
  · rw [counters]
    exact h.flow p
  · rw [counters]
    exact h.receives p

namespace Accounted

theorem of_sends (h : Accounted P channel sessionId key s g) {message : Bytes}
    (sends : P.sends s.program p message) : s.failed p = none ∧ g.stopped p = none := by
  by_contra hboth
  exact (h.silent p (by tauto)).1.not_sends sends

theorem of_sending (h : Accounted P channel sessionId key s g) {x : Bytes × Bytes}
    (sending : (s.session.endpoint p).sending = some x) : s.failed p = none ∧ g.stopped p = none := by
  by_contra hboth
  rw [(h.silent p (by tauto)).2] at sending
  cases sending

/-- The packet of a send in progress is short. -/
theorem short {message packet : Bytes} (h : Accounted P channel sessionId key s g)
    (sending : (s.session.endpoint p).sending = some (message, packet)) : packet.length < 2 ^ 32 := by
  obtain ⟨due, hflow⟩ := h.invariant.flow p
  exact (hflow.packet message packet sending).2

/-- Silence when one party has been changed and the program has gone on. -/
theorem silent_next (h : Accounted P channel sessionId key s g) {a : A} {e : Endpoint C}
    (next : a = s.program ∨ P.Next s.program a)
    (own : s.failed p ≠ none ∨ g.stopped p ≠ none → e.sending = none) :
    ∀ q, s.failed q ≠ none ∨ g.stopped q ≠ none →
      P.Silent a q ∧ ((s.session.setEndpoint p e).endpoint q).sending = none := by
  have hsilent : ∀ q, s.failed q ≠ none ∨ g.stopped q ≠ none → P.Silent a q := by
    intro q hstopped
    rcases next with rfl | hnext
    · exact (h.silent q hstopped).1
    · exact (h.silent q hstopped).1.next hnext
  refine Role.both p ?_ ?_
  · intro hstopped
    rw [System.setEndpoint_self]
    exact ⟨hsilent p hstopped, own hstopped⟩
  · intro hstopped
    rw [System.setEndpoint_peer]
    exact ⟨hsilent p.peer hstopped, (h.silent p.peer hstopped).2⟩

theorem encode {message packet : Bytes} {common : C} (h : Accounted P channel sessionId key s g)
    (sends : P.sends s.program p message) (idle : (s.session.endpoint p).sending = none)
    (encode : (s.session.endpoint p).writeHalf.encode lib cfg (s.session.endpoint p).common message =
      (.ok packet, common)) :
    Accounted P channel sessionId key
      { s with
        session := s.session.setEndpoint p
          { s.session.endpoint p with common := common, sending := some (message, packet) } } g := by
  obtain ⟨hfailed, hstopped⟩ := h.of_sends sends
  refine ⟨?_, h.buffers, h.received, h.tails, h.own,
    h.silent_next (.inl rfl) (fun hboth => by tauto)⟩
  have hencode : ((s.session.complete s.failed g).endpoint p).writeHalf.encode
      (Spdmlib.frozen channel sessionId) cfg ((s.session.complete s.failed g).endpoint p).common message =
      (.ok packet, ⟨common, none⟩) := by
    simp only [System.complete, Endpoint.freeze, hstopped, encode_frozen, encode]
  have hinv := h.invariant.encode (p := p) idle hencode
  rw [System.complete_setEndpoint, hstopped]
  exact hinv

/-- The counter of a party that stops is frozen where it was. -/
theorem encodeFails {message : Bytes} {e : Fault} {common : C} {a : A} (stops : P.StopsAtFailure)
    (keeps : channel.KeptOnFailure) (h : Accounted P channel sessionId key s g)
    (sends : P.sends s.program p message) (idle : (s.session.endpoint p).sending = none)
    (encode : (s.session.endpoint p).writeHalf.encode lib cfg (s.session.endpoint p).common message =
      (.error e, common))
    (sent : P.sent s.program p message (.error e) a) :
    ∃ g', Accounted P channel sessionId key
      { s with
        session := s.session.setEndpoint p { s.session.endpoint p with common := common }
        program := a } g' := by
  obtain ⟨hfailed, hstopped⟩ := h.of_sends sends
  obtain ⟨-, -, hwrite, -⟩ := h.invariant.halves p
  have hwrite : (s.session.endpoint p).writeHalf.isRequester = p.isRequester := hwrite
  obtain ⟨hkeys, hcounters⟩ := encode_error channel keeps encode sessionId
  rw [hwrite] at hcounters
  let count := channel.counter (s.session.endpoint p).common sessionId p.isRequester
  let g' : Completion := { g with stopped := Function.update g.stopped p (some (p.isRequester, count)) }
  have hcounter : ∀ flag,
      Frozen.counter channel sessionId ⟨common, some (p.isRequester, count)⟩ sessionId flag =
        Frozen.counter channel sessionId ⟨(s.session.endpoint p).common, g.stopped p⟩ sessionId flag := by
    intro flag
    rw [hstopped]
    by_cases hflag : flag = p.isRequester
    · simp only [Frozen.counter, hflag, and_self, if_true]
      rfl
    · have hother : flag = !p.isRequester := by
        cases flag <;> cases hp : p.isRequester <;> simp_all
      simp only [Frozen.counter, hflag, and_false, if_false]
      rw [hother]
      exact hcounters
  have hinv := @Invariant.context _ _ _ _ _ (channel.frozen sessionId) sessionId key p
    (s.session.complete s.failed g) ⟨common, some (p.isRequester, count)⟩ h.invariant hkeys hcounter
  refine ⟨g', ?_, h.buffers, h.received, h.tails, Role.both p ?_ ?_, Role.both p ?_ ?_⟩
  · have hcomplete : (s.session.setEndpoint p { s.session.endpoint p with common := common }).complete
        s.failed g' = (s.session.complete s.failed g).setEndpoint p
          { (s.session.complete s.failed g).endpoint p with
            common := (⟨common, some (p.isRequester, count)⟩ : Frozen C) } := by
      simp only [System.complete, System.setEndpoint, System.mk.injEq, and_self, and_true, g']
      funext q
      revert q
      refine Role.both p ?_ ?_
      · rw [Function.update_self, Function.update_self, Function.update_self]
        rfl
      · rw [Function.update_of_ne (Role.peer_ne p), Function.update_of_ne (Role.peer_ne p),
          Function.update_of_ne (Role.peer_ne p)]
    rw [hcomplete]
    exact hinv
  · intro x hx
    have hx : Function.update g.stopped p (some (p.isRequester, count)) p = some x := hx
    rw [Function.update_self] at hx
    obtain rfl := Option.some.inj hx
    rfl
  · intro x hx
    have hx : Function.update g.stopped p (some (p.isRequester, count)) p.peer = some x := hx
    rw [Function.update_of_ne (Role.peer_ne p)] at hx
    exact h.own p.peer x hx
  · intro _
    refine ⟨stops sent, ?_⟩
    rw [System.setEndpoint_self]
    exact idle
  · intro hboth
    have hboth : s.failed p.peer ≠ none ∨
      Function.update g.stopped p (some (p.isRequester, count)) p.peer ≠ none := hboth
    rw [Function.update_of_ne (Role.peer_ne p)] at hboth
    rw [System.setEndpoint_peer]
    exact ⟨(h.silent p.peer hboth).1.next (.sent p sent), (h.silent p.peer hboth).2⟩

theorem transmit {message packet wire : Bytes} {a : A} (h : Accounted P channel sessionId key s g)
    (sending : (s.session.endpoint p).sending = some (message, packet))
    (transmit : WriteHalf.transmit lib cfg Write.string (s.session.wire p) packet = (.ok (), wire))
    (sent : P.sent s.program p message (.ok ()) a) :
    ∃ g', Accounted P channel sessionId key
      { s with
        session :=
          { (s.session.setEndpoint p
              { s.session.endpoint p with sending := none }).setWire p wire with
            sent := Function.update s.session.sent p (s.session.sent p ++ [message])
            packets := Function.update s.session.packets p (s.session.packets p ++ [packet]) }
        program := a } g' := by
  obtain ⟨hfailed, hstopped⟩ := h.of_sending sending
  have htail := h.tails p hfailed
  have hwire := transmit_ok (h.short sending) transmit
  have hinv := h.invariant.transmit (p := p) sending
    (transmit_string (Spdmlib.frozen channel sessionId) (s.session.wire p ++ g.tails p)
      (h.short sending))
  refine ⟨{ g with packets := Function.update g.packets p (g.packets p ++ [packet]) }, ?_, h.buffers,
    h.received, h.tails, h.own, h.silent_next (.inr (.sent p sent)) fun _ => rfl⟩
  have hsent : Function.update (fun q => s.session.sent q ++ (s.failed q).toList) p
        (s.session.sent p ++ (s.failed p).toList ++ [message]) =
      fun q => Function.update s.session.sent p (s.session.sent p ++ [message]) q ++
        (s.failed q).toList := by
    funext q
    revert q
    refine Role.both p ?_ ?_
    · rw [Function.update_self, Function.update_self, hfailed, Option.toList_none, List.append_nil,
        List.append_nil]
    · rw [Function.update_of_ne (Role.peer_ne p), Function.update_of_ne (Role.peer_ne p)]
  have hcomplete := ((s.session.setEndpoint p
    { s.session.endpoint p with sending := none }).complete_setWire s.failed g p wire).trans
    (congrArg (·.setWire p (wire ++ g.tails p)) (s.session.complete_setEndpoint s.failed g p
      { s.session.endpoint p with sending := none }))
  have hput : wire ++ g.tails p = s.session.wire p ++ g.tails p ++ cfg.framing.encode packet := by
    rw [hwire, htail, List.append_nil, List.append_nil]
  rw [← hput] at hinv
  have hsystem : (({ (s.session.setEndpoint p
        { s.session.endpoint p with sending := none }).setWire p wire with
        sent := Function.update s.session.sent p (s.session.sent p ++ [message])
        packets := Function.update s.session.packets p (s.session.packets p ++ [packet]) } :
      System C).complete s.failed
        { g with packets := Function.update g.packets p (g.packets p ++ [packet]) }) =
      { ((s.session.setEndpoint p
          { s.session.endpoint p with sending := none }).setWire p wire).complete s.failed g with
        sent := Function.update (fun q => s.session.sent q ++ (s.failed q).toList) p
          (s.session.sent p ++ (s.failed p).toList ++ [message])
        packets := Function.update g.packets p (g.packets p ++ [packet]) } := by
    rw [hsent]
    rfl
  rw [hsystem, hcomplete]
  exact hinv

/-- The completed session puts the whole frame. What is missing of it goes to the tails. -/
theorem transmitFails {message packet front : Bytes} {τ : Type} {W : Write τ} {sink sink' : τ}
    {e : Fault} {a : A} (stops : P.StopsAtFailure) (keeps : W.KeepsFront)
    (h : Accounted P channel sessionId key s g)
    (sending : (s.session.endpoint p).sending = some (message, packet))
    (transmit : WriteHalf.transmit lib cfg W sink packet = (.error e, sink'))
    (put : W.written sink' = W.written sink ++ front)
    (sent : P.sent s.program p message (.error e) a) :
    ∃ g', Accounted P channel sessionId key
      { s with
        session := (s.session.setEndpoint p
          { s.session.endpoint p with sending := none }).setWire p (s.session.wire p ++ front)
        program := a
        failed := Function.update s.failed p (some message) } g' := by
  obtain ⟨hfailed, hstopped⟩ := h.of_sending sending
  have htail := h.tails p hfailed
  obtain ⟨missing, hframe⟩ := transmit_error keeps (h.short sending) transmit put
  have hinv := h.invariant.transmit (p := p) sending
    (transmit_string (Spdmlib.frozen channel sessionId) (s.session.wire p ++ g.tails p)
      (h.short sending))
  let g' : Completion :=
    { g with
      tails := Function.update g.tails p missing
      packets := Function.update g.packets p (g.packets p ++ [packet]) }
  refine ⟨g', ?_, h.buffers, h.received, Role.both p ?_ ?_, h.own, Role.both p ?_ ?_⟩
  · have hsystem : ((s.session.setEndpoint p
          { s.session.endpoint p with sending := none }).setWire p (s.session.wire p ++ front)).complete
          (Function.update s.failed p (some message)) g' =
        { ((s.session.complete s.failed g).setEndpoint p
            { (s.session.complete s.failed g).endpoint p with sending := none }).setWire p
            (s.session.wire p ++ g.tails p ++ cfg.framing.encode packet) with
          sent := Function.update (fun q => s.session.sent q ++ (s.failed q).toList) p
            (s.session.sent p ++ (s.failed p).toList ++ [message])
          packets := Function.update g.packets p (g.packets p ++ [packet]) } := by
      simp only [System.complete, System.setEndpoint, System.setWire, System.mk.injEq, and_true, g']
      refine ⟨?_, ?_, ?_⟩
      · funext q
        exact Function.apply_update (fun q (e : Endpoint C) => e.freeze (g.stopped q))
          s.session.endpoint p { s.session.endpoint p with sending := none } q
      · funext q
        revert q
        refine Role.both p ?_ ?_
        · rw [Function.update_self, Function.update_self, Function.update_self, htail, List.append_nil,
            List.append_assoc, hframe]
        · rw [Function.update_of_ne (Role.peer_ne p), Function.update_of_ne (Role.peer_ne p),
            Function.update_of_ne (Role.peer_ne p)]
      · funext q
        revert q
        refine Role.both p ?_ ?_
        · rw [Function.update_self, Function.update_self, hfailed, Option.toList_none, List.append_nil,
            Option.toList_some]
        · rw [Function.update_of_ne (Role.peer_ne p), Function.update_of_ne (Role.peer_ne p)]
    rw [hsystem]
    exact hinv
  · intro hdone
    have hdone : Function.update s.failed p (some message) p = none := hdone
    rw [Function.update_self] at hdone
    cases hdone
  · intro hdone
    have hdone : Function.update s.failed p (some message) p.peer = none := hdone
    rw [Function.update_of_ne (Role.peer_ne p)] at hdone
    show Function.update g.tails p missing p.peer = []
    rw [Function.update_of_ne (Role.peer_ne p)]
    exact h.tails p.peer hdone
  · intro _
    refine ⟨stops sent, ?_⟩
    show ((s.session.setEndpoint p _).endpoint p).sending = none
    rw [System.setEndpoint_self]
  · intro hboth
    have hboth : Function.update s.failed p (some message) p.peer ≠ none ∨ g.stopped p.peer ≠ none := hboth
    rw [Function.update_of_ne (Role.peer_ne p)] at hboth
    refine ⟨(h.silent p.peer hboth).1.next (.sent p sent), ?_⟩
    show ((s.session.setEndpoint p _).endpoint p.peer).sending = none
    rw [System.setEndpoint_peer]
    exact (h.silent p.peer hboth).2

/-- Steps of a receive that return nothing: the send of the party goes on as it was. -/
theorem move {e : Endpoint C} {wire : Bytes} (h : Accounted P channel sessionId key s g)
    (sending : e.sending = (s.session.endpoint p).sending)
    (invariant : Invariant (channel.frozen sessionId) sessionId key
      (((s.session.complete s.failed g).setEndpoint p (e.freeze (g.stopped p))).setWire p.peer
        (wire ++ g.tails p.peer))) :
    Accounted P channel sessionId key
      { s with session := (s.session.setEndpoint p e).setWire p.peer wire } g := by
  refine ⟨?_, h.buffers, h.received, h.tails, h.own, h.silent_next (.inl rfl) fun hboth => ?_⟩
  · rw [System.complete_setWire, System.complete_setEndpoint]
    exact invariant
  · rw [sending]
    exact (h.silent p hboth).2

theorem call {buf : Bytes} (h : Accounted P channel sessionId key s g)
    (idle : (s.session.endpoint p).receiving = none) :
    Accounted P channel sessionId key
      { s with
        session := s.session.setEndpoint p
          { s.session.endpoint p with
            receiving := some
              (.reading (Progress.start (s.session.endpoint p).readHalf.deviceIo) buf) } } g := by
  refine ⟨?_, h.buffers, h.received, h.tails, h.own,
    h.silent_next (.inl rfl) fun hboth => (h.silent p hboth).2⟩
  rw [System.complete_setEndpoint]
  exact h.invariant.call (p := p) idle

/-- A call that returns takes the message that is due, and returns it if there is room. -/
theorem deliver {received : Received} {buf buf' : Bytes} {result : Res Nat} {common : C} {a : A}
    (h : Accounted P channel sessionId key s g)
    (receiving : (s.session.endpoint p).receiving = some (.decoding received buf))
    (deliver : (s.session.endpoint p).readHalf.deliver lib (s.session.endpoint p).common received buf =
      (result, buf', common))
    (returns : P.received s.program p buf result buf' a) :
    ∃ g', Accounted P channel sessionId key
      { s with
        session :=
          { s.session.setEndpoint p
              { s.session.endpoint p with common := common, receiving := none } with
            received := Function.update s.session.received p
              (s.session.received p ++ returned result buf') }
        buffers := Function.update s.buffers p
          (s.buffers p ++ List.replicate received.packet?.toList.length buf.length)
        program := a } g' := by
  have hread : (s.session.endpoint p).readHalf.isRequester = p.isRequester :=
    (h.invariant.halves p).readFlag
  have hfrozen : ((s.session.complete s.failed g).endpoint p).readHalf.deliver
      (Spdmlib.frozen channel sessionId) ((s.session.complete s.failed g).endpoint p).common received buf =
      (result, buf', ⟨common, g.stopped p⟩) := by
    have hown : ∀ x, g.stopped p = some x → x.1 = (s.session.endpoint p).readHalf.isRequester :=
      fun x hx => (h.own p x hx).trans hread.symm
    simp only [System.complete, Endpoint.freeze, deliver_frozen _ _ _ _ hown, deliver]
  have htaken : Taken (channel.frozen sessionId) sessionId key
      ⟨{ s.session.complete s.failed g with received := s.session.received }, s.buffers⟩ g.taken :=
    ⟨h.invariant, h.buffers, h.received⟩
  obtain ⟨taken, hinv, hbuffers, hreceived⟩ := htaken.step (.deliver p receiving hfrozen)
  refine ⟨{ g with taken := taken }, ?_, hbuffers, hreceived, h.tails, h.own,
    h.silent_next (.inr (.received p returns)) fun hboth => (h.silent p hboth).2⟩
  have hsystem : ({ s.session.setEndpoint p
        { s.session.endpoint p with common := common, receiving := none } with
        received := Function.update s.session.received p
          (s.session.received p ++ returned result buf') } : System C).complete s.failed
        { g with taken := taken } =
      { (s.session.setEndpoint p
          { s.session.endpoint p with common := common, receiving := none }).complete s.failed g with
        received := taken } := rfl
  rw [hsystem, System.complete_setEndpoint]
  exact hinv

theorem step (stops : P.StopsAtFailure) (keeps : channel.KeptOnFailure)
    (h : Accounted P channel sessionId key s g) (hstep : DrivenStep lib cfg P s s') :
    ∃ g', Accounted P channel sessionId key s' g' := by
  cases hstep with
  | elsewhere next =>
    refine ⟨g, h.invariant, h.buffers, h.received, h.tails, h.own, fun p hboth => ?_⟩
    exact ⟨(h.silent p hboth).1.next (.elsewhere next), (h.silent p hboth).2⟩
  | encode p sends idle encode => exact ⟨g, h.encode sends idle encode⟩
  | encodeFails p sends idle encode sent => exact h.encodeFails stops keeps sends idle encode sent
  | transmit p sending transmit sent => exact h.transmit sending transmit sent
  | transmitFails p hkeeps sending transmit put sent =>
    exact h.transmitFails stops hkeeps sending transmit put sent
  | call p receives idle => exact ⟨g, h.call idle⟩
  | read p receiving check reads more =>
    exact ⟨g, h.move rfl (h.invariant.read receiving check (reads.append (g.tails p.peer)) more)⟩
  | framed p receiving ends finish =>
    exact ⟨g, h.move rfl (h.invariant.framed receiving (ends.append (g.tails p.peer)) finish)⟩
  | deliver p receiving deliver returns => exact h.deliver receiving deliver returns

theorem steps (stops : P.StopsAtFailure) (keeps : channel.KeptOnFailure)
    (h : Accounted P channel sessionId key s g) (hsteps : DrivenSteps lib cfg P s s') :
    ∃ g', Accounted P channel sessionId key s' g' := by
  induction hsteps with
  | refl => exact ⟨g, h⟩
  | tail _ hstep ih =>
    obtain ⟨g', h'⟩ := ih
    exact h'.step stops keeps hstep

end Accounted

/-- What a party sent, whether its send returned `Ok` or failed at the socket. -/
def Driven.sent (s : Driven C A) (p : Role) : List Bytes := s.session.sent p ++ (s.failed p).toList

/-- What is taken is a first part of what was sent. -/
theorem Accounted.taken_prefix (h : Accounted P channel sessionId key s g) (p : Role) :
    ∃ due, s.sent p.peer = g.taken p ++ due ∧
      (s.session.endpoint p).undecoded cfg ++ s.session.wire p.peer ++ g.tails p.peer =
        cfg.framing.encodeAll (packetsFrom S key (!p.isRequester)
          (channel.counter (s.session.endpoint p).common sessionId (!p.isRequester)) due) := by
  obtain ⟨due, hflow⟩ := h.invariant.receives p
  refine ⟨due, hflow.sent, ?_⟩
  have hcounter : (channel.frozen sessionId).counter
      ((s.session.complete s.failed g).endpoint p).common sessionId (!p.isRequester) =
      channel.counter (s.session.endpoint p).common sessionId (!p.isRequester) := by
    show Frozen.counter channel sessionId ⟨(s.session.endpoint p).common, g.stopped p⟩ sessionId _ = _
    cases hstopped : g.stopped p with
    | none => rfl
    | some x =>
      have hown := h.own p x hstopped
      have hother : ¬ (sessionId = sessionId ∧ (!p.isRequester) = x.1) := by simp [hown]
      exact if_neg hother
  rw [← hcounter, List.append_assoc]
  exact hflow.bytes

/-- What is received is what fits of what was sent, and what is on its way are the frames of the rest, up
to a tail that only a failed send leaves missing. -/
theorem Accounted.due (h : Accounted P channel sessionId key s g) (p : Role) :
    (s.buffers p).length ≤ (s.sent p.peer).length ∧
      s.session.received p = fitting (s.sent p.peer) (s.buffers p) ∧
      (s.session.endpoint p).undecoded cfg ++ s.session.wire p.peer ++ g.tails p.peer =
        cfg.framing.encodeAll (packetsFrom S key (!p.isRequester)
          (channel.counter (s.session.endpoint p).common sessionId (!p.isRequester))
          ((s.sent p.peer).drop (s.buffers p).length)) := by
  obtain ⟨due, hsent, hbytes⟩ := h.taken_prefix p
  refine ⟨?_, ?_, ?_⟩
  · rw [hsent, List.length_append, h.buffers p]
    exact Nat.le_add_right _ _
  · rw [hsent, fitting_prefix (h.buffers p)]
    exact h.received p
  · rw [hbytes, hsent, ← h.buffers p, List.drop_left]

end Accounts

/-! ### The start -/

/-- A program from the moment both parties have called `into_split`. -/
def Driven.start {C A : Type} (session : System C) (program : A) : Driven C A :=
  ⟨session, fun _ => [], program, fun _ => none⟩

/-- At first there is nothing to complete. -/
def Completion.start (packets : Role → List Bytes) : Completion where
  stopped _ := none
  tails _ := []
  packets := packets
  taken _ := []

theorem accounted_start {C A Key : Type} {lib : Spdmlib C} {cfg : Config} {P : Program A}
    {S : Sealing Key Bool} {channel : SecuredChannel lib cfg S} {n : Negotiated C} {sessionId : Nat}
    {key : Key} (agreed : n.Agreed channel sessionId key) (a : A) :
    ∃ s₀, n.intoSplit cfg = .ok s₀ ∧ s₀.sent = n.sent ∧ s₀.received = (fun _ => []) ∧
      (∀ p, (s₀.endpoint p).receiving = none ∧ (s₀.endpoint p).sending = none) ∧
      Accounted P channel sessionId key (Driven.start s₀ a) (.start n.packets) := by
  obtain ⟨s₀, hsplit, hwire, hsent, hpackets, hreceived, hendpoint⟩ :=
    Negotiated.intoSplit_ok cfg agreed.sessions
  have hinv := agreed.invariant hwire hsent hpackets hreceived hendpoint
  refine ⟨s₀, hsplit, hsent, hreceived, fun p => by rw [hendpoint]; exact ⟨rfl, rfl⟩,
    ⟨fun p => ⟨(hinv.halves p).1, (hinv.halves p).2, (hinv.halves p).3, (hinv.halves p).4⟩, hinv.keys,
      hinv.wellFormed, ?_, ?_⟩, fun _ => rfl, ?_, fun _ _ => rfl, ?_, ?_⟩
  · rw [← hpackets]
    exact hinv.own
  · intro p
    obtain ⟨due, hflow⟩ := hinv.flow p
    rw [hreceived] at hflow
    refine ⟨due, ?_⟩
    show Flow S cfg key _ _ _ _ (_ ++ (s₀.wire p ++ [])) (s₀.sent p ++ []) [] due
    rw [List.append_nil, List.append_nil]
    exact hflow
  · intro p
    show s₀.received p = _
    rw [hreceived]
    rfl
  · intro p x hx
    cases hx
  · intro p hboth
    exact absurd hboth (by simp [Driven.start, Completion.start])

end RatsRs.Transport
