import RatsRs.Lib.Counters
import RatsRs.Transport.ShortReceive

/-! A session over a network that may do anything.

What is on the wire between two parties can be dropped, cut, repeated, reordered, sent back or made
up. Only the keys are out of reach: a record that opens was sealed by one of the two parties
(`Unforged`). The halves use the flag of the sender to seal and to open, and the library counts the
records of each flag, so that what a party receives are still the first of the messages its peer has sealed,
in order and each once: all the network can do is to stop them. -/
namespace RatsRs.Transport
open Lib SimpleTransportEncap

/-- A session, the messages each party has sealed with the counters they got, and the lengths of the buffers
each party has received into. -/
structure Exposed (C : Type) where
  session : System C
  sealed : Role → List (Nat × Bytes)
  buffers : Role → List Nat

section Steps
variable {C Key : Type} {lib : Spdmlib C} {cfg : Config} {S : Sealing Key Bool}
  (channel : SecuredChannel lib cfg S) (sessionId : Nat) (key : Key)

/-- The record of a packet opens for a party. -/
def Opens (common : C) (flag : Bool) (w record app : Bytes) : Prop :=
  ∃ n out, decap w (List.replicate cfg.receiverBufferSize 0) = (.ok (n, true), out) ∧
    record = out.take n ∧
    S.opens key flag (channel.counter common sessionId flag) record = some app

/-- What opens was sealed by one of the parties. -/
def Unforged (s : Exposed C) (p : Role) (received : Received) : Prop :=
  ∀ w record app, received.packet? = some w →
    Opens channel sessionId key (s.session.endpoint p).common (!p.isRequester) w record app →
    ∃ r x, x ∈ s.sealed r ∧ record = S.seals key r.isRequester x.1
      (SimpleTransportMessageType.app.toByte :: x.2)

/-- One step of a party or of the network. -/
inductive ExposedStep : Exposed C → Exposed C → Prop
  | network {s : Exposed C} (p : Role) (wire : Bytes) :
      ExposedStep s { s with session := s.session.setWire p wire }
  | encode {s : Exposed C} (p : Role) {message packet : Bytes} {common : C}
      (idle : (s.session.endpoint p).sending = none)
      (encode : (s.session.endpoint p).writeHalf.encode lib cfg (s.session.endpoint p).common message =
        (.ok packet, common)) :
      ExposedStep s
        { s with
          session := s.session.setEndpoint p
            { s.session.endpoint p with common := common, sending := some (message, packet) }
          sealed := Function.update s.sealed p (s.sealed p ++
            [(channel.counter (s.session.endpoint p).common sessionId p.isRequester, message)]) }
  | encodeFails {s : Exposed C} (p : Role) {message : Bytes} {e : Fault} {common : C}
      (idle : (s.session.endpoint p).sending = none)
      (encode : (s.session.endpoint p).writeHalf.encode lib cfg (s.session.endpoint p).common message =
        (.error e, common)) :
      ExposedStep s
        { s with
          session := s.session.setEndpoint p { s.session.endpoint p with common := common } }
  | transmit {s : Exposed C} (p : Role) {message packet : Bytes} {τ : Type} {W : Write τ}
      {sink sink' : τ} {result : Res Unit}
      (sending : (s.session.endpoint p).sending = some (message, packet))
      (transmit : WriteHalf.transmit lib cfg W sink packet = (result, sink')) (wire : Bytes) :
      ExposedStep s
        { s with
          session := (s.session.setEndpoint p
            { s.session.endpoint p with sending := none }).setWire p wire }
  | call {s : Exposed C} (p : Role) (buf : Bytes) (idle : (s.session.endpoint p).receiving = none) :
      ExposedStep s
        { s with
          session := s.session.setEndpoint p
            { s.session.endpoint p with
              receiving := some
                (.reading (Progress.start (s.session.endpoint p).readHalf.deviceIo) buf) } }
  | read {s : Exposed C} (p : Role) {progress q q' : Progress} {buf wire : Bytes} {space : Nat}
      {answer : Answer} (receiving : (s.session.endpoint p).receiving = some (.reading progress buf))
      (check : progress.check = .ok (q, .wants space))
      (reads : Reads (s.session.wire p.peer) space answer wire) (more : q.absorb answer = (q', true)) :
      ExposedStep s
        { s with
          session := (s.session.setEndpoint p
            { s.session.endpoint p with receiving := some (.reading q' buf) }).setWire p.peer wire }
  | framed {s : Exposed C} (p : Role) {progress q : Progress} {buf wire : Bytes} {enough : Bool}
      {received : Received}
      (receiving : (s.session.endpoint p).receiving = some (.reading progress buf))
      (ends : progress.Ends (s.session.wire p.peer) q enough wire)
      (finish : q.finish enough (ReadHalf.transportBuffer cfg) = .ok received) :
      ExposedStep s
        { s with
          session := (s.session.setEndpoint p
            { s.session.endpoint p with
              readHalf := { (s.session.endpoint p).readHalf with deviceIo := received.framed }
              receiving := some (.decoding received buf) }).setWire p.peer wire }
  | deliver {s : Exposed C} (p : Role) {received : Received} {buf buf' : Bytes} {result : Res Nat}
      {common : C} (receiving : (s.session.endpoint p).receiving = some (.decoding received buf))
      (unforged : Unforged channel sessionId key s p received)
      (deliver : (s.session.endpoint p).readHalf.deliver lib (s.session.endpoint p).common received buf =
        (result, buf', common)) :
      ExposedStep s
        { s with
          session :=
            { s.session.setEndpoint p
                { s.session.endpoint p with common := common, receiving := none } with
              received := Function.update s.session.received p
                (s.session.received p ++ returned result buf') }
          buffers := Function.update s.buffers p (s.buffers p ++ [buf.length]) }

abbrev ExposedSteps : Exposed C → Exposed C → Prop :=
  Relation.ReflTransGen (ExposedStep channel sessionId key)

end Steps

/-- `spdmlib` when a call fails: the keys stay or are gone. An encoding that fails does not turn a counter
back, and leaves those of the other flag; a packet that does not open leaves all of them. -/
structure SecuredChannel.Guarded {C Key : Type} {lib : Spdmlib C} {cfg : Config} {S : Sealing Key Bool}
    (channel : SecuredChannel lib cfg S) : Prop where
  encodeFails : ∀ {context sessionId message buffer flag status buffer' context'},
    lib.encodeSecuredMessage context sessionId message buffer flag true =
        (.error status, buffer', context') → ∀ id,
      (channel.key context' id = channel.key context id ∨ channel.key context' id = none) ∧
        channel.counter context id flag ≤ channel.counter context' id flag ∧
        channel.counter context' id (!flag) = channel.counter context id (!flag)
  refused : ∀ {context sessionId packet buffer flag decoded buffer' context'},
    lib.decodeSecuredMessage context sessionId packet buffer flag = (decoded, buffer', context') →
    (∀ key record app, channel.key context sessionId = some key →
      ¬ Opens channel sessionId key context flag packet record app) → ∀ id,
      (channel.key context' id = channel.key context id ∨ channel.key context' id = none) ∧
        ∀ d, channel.counter context' id d = channel.counter context id d

section Calls
variable {C Key : Type} {lib : Spdmlib C} {cfg : Config} {S : Sealing Key Bool}

/-- What is encoded is encoded under a key. -/
theorem encode_key (channel : SecuredChannel lib cfg S) {half : WriteHalf} {common common' : C}
    {message w : Bytes} (h : half.encode lib cfg common message = (.ok w, common')) :
    channel.key common half.sessionId ≠ none := by
  cases hencoded : lib.encodeSecuredMessage common half.sessionId message
    (List.replicate cfg.senderBufferSize 0) half.isRequester true with
  | mk encoded rest =>
    obtain ⟨buffer, context⟩ := rest
    simp only [WriteHalf.encode, hencoded] at h
    split at h
    · cases (Prod.mk.inj h).1
    · obtain ⟨used, hused, -⟩ := bind_eq_ok.mp (Prod.mk.inj h).1
      obtain rfl : encoded = .ok used := by simpa using hused
      obtain ⟨⟨k, -, -, -, hk, -⟩, -⟩ := channel.encode hencoded
      rw [hk]
      exact Option.some_ne_none k

theorem encode_guarded {channel : SecuredChannel lib cfg S} (guarded : channel.Guarded)
    {half : WriteHalf} {common common' : C} {message : Bytes} {e : Fault}
    (h : half.encode lib cfg common message = (.error e, common')) (id : Nat) :
    (channel.key common' id = channel.key common id ∨ channel.key common' id = none) ∧
      channel.counter common id half.isRequester ≤ channel.counter common' id half.isRequester ∧
      channel.counter common' id (!half.isRequester) = channel.counter common id (!half.isRequester) := by
  rcases (encode_fails channel h).1 with rfl | ⟨status, buffer, hencoded⟩
  · exact ⟨.inl rfl, Nat.le_refl _, rfl⟩
  · exact guarded.encodeFails hencoded id

/-- What a packet is decoded to that is opened to a message of the peer. -/
theorem decode_app (half : ReadHalf) {common common' : C} {w buf message : Bytes}
    (h : lib.decodeSecuredMessage common half.sessionId w buf (!half.isRequester) =
      ((decapApp (SimpleTransportMessageType.app.toByte :: message) buf).1,
        (decapApp (SimpleTransportMessageType.app.toByte :: message) buf).2, common')) :
    ∃ result buf', half.decode lib common w buf = (result, buf', common') ∧
      returned result buf' = [message].filter fun m => m.length ≤ buf.length := by
  by_cases hfits : message.length ≤ buf.length
  · have happ : decapApp (SimpleTransportMessageType.app.toByte :: message) buf =
        (.ok (message.length, true), splice buf 0 message) := take_cons rfl hfits
    refine ⟨.ok message.length, splice buf 0 message, ?_, ?_⟩
    · simp only [ReadHalf.decode, h, happ]
      rfl
    · simp [returned, hfits, take_splice_zero hfits]
  · have happ : decapApp (SimpleTransportMessageType.app.toByte :: message) buf =
        (.error .decapAppFail, buf) := take_short rfl (by omega)
    refine ⟨Res.fail .spdmReceive ("Failed to decode as secured message: " ++
      lib.debug .decapAppFail), buf, ?_, ?_⟩
    · simp only [ReadHalf.decode, h, happ]
      rfl
    · simp [returned, Res.fail, hfits]

/-- A packet whose record does not open is not decoded to anything. -/
theorem decode_refused (channel : SecuredChannel lib cfg S) {half : ReadHalf} {common common' : C}
    {w buf buf' : Bytes} {result : Res Nat}
    (h : half.decode lib common w buf = (result, buf', common'))
    (closed : ∀ key record app, channel.key common half.sessionId = some key →
      ¬ Opens channel half.sessionId key common (!half.isRequester) w record app) :
    returned result buf' = [] := by
  cases hdecoded : lib.decodeSecuredMessage common half.sessionId w buf (!half.isRequester) with
  | mk decoded rest =>
    obtain ⟨buffer, context⟩ := rest
    simp only [ReadHalf.decode, hdecoded] at h
    obtain ⟨rfl, -⟩ := Prod.mk.inj h
    cases decoded with
    | error status => rfl
    | ok taken =>
      obtain ⟨k, n, out, app, hk, hdecap, hopens⟩ := channel.refuse hdecoded
      exact absurd ⟨n, out, hdecap, rfl, hopens⟩ (closed k _ app hk)

theorem decode_kept {channel : SecuredChannel lib cfg S} (guarded : channel.Guarded) {half : ReadHalf}
    {common common' : C} {w buf buf' : Bytes} {result : Res Nat}
    (h : half.decode lib common w buf = (result, buf', common'))
    (closed : ∀ key record app, channel.key common half.sessionId = some key →
      ¬ Opens channel half.sessionId key common (!half.isRequester) w record app) (id : Nat) :
    (channel.key common' id = channel.key common id ∨ channel.key common' id = none) ∧
      ∀ d, channel.counter common' id d = channel.counter common id d := by
  cases hdecoded : lib.decodeSecuredMessage common half.sessionId w buf (!half.isRequester) with
  | mk decoded rest =>
    obtain ⟨buffer, context⟩ := rest
    simp only [ReadHalf.decode, hdecoded] at h
    obtain ⟨-, hrest⟩ := Prod.mk.inj h
    obtain ⟨-, rfl⟩ := Prod.mk.inj hrest
    exact guarded.refused hdecoded closed id

end Calls

/-! ### What every step keeps -/

section Invariants
variable {C Key : Type} {lib : Spdmlib C} {cfg : Config} {S : Sealing Key Bool}

/-- `taken` are the messages whose records have opened, and `rooms` the buffers they were decoded into. They
are the first that the peer has sealed, and a party counts them. -/
structure Exposed.Invariant (channel : SecuredChannel lib cfg S) (sessionId : Nat) (key : Key)
    (base : Role → Nat) (s : Exposed C) (taken : Role → List Bytes) (rooms : Role → List Nat) : Prop where
  halves : ∀ p, (s.session.endpoint p).Halves p sessionId
  keys : ∀ p, channel.key (s.session.endpoint p).common sessionId = some key ∨
    channel.key (s.session.endpoint p).common sessionId = none
  increasing : ∀ p, Increasing (s.sealed p)
  above : ∀ p, ∀ x ∈ s.sealed p, base p ≤ x.1
  below : ∀ p, ∀ x ∈ s.sealed p,
    x.1 < channel.counter (s.session.endpoint p).common sessionId p.isRequester
  started : ∀ p, base p ≤ channel.counter (s.session.endpoint p).common sessionId p.isRequester
  counts : ∀ p, channel.counter (s.session.endpoint p).common sessionId (!p.isRequester) =
    base p.peer + (taken p).length
  takes : ∀ p, numbered (base p.peer) (taken p) <+: s.sealed p.peer
  lengths : ∀ p, (taken p).length = (rooms p).length
  buffers : ∀ p, (rooms p).Sublist (s.buffers p)
  received : ∀ p, s.session.received p = fitting (taken p) (rooms p)

variable {channel : SecuredChannel lib cfg S} {sessionId : Nat} {key : Key} {base : Role → Nat}
  {s s' : Exposed C} {taken : Role → List Bytes} {rooms : Role → List Nat} {p : Role}

namespace Exposed.Invariant

/-- Steps that seal nothing and take nothing: the party keeps its halves, its key and what it has counted. -/
theorem keep {session : System C} (h : Exposed.Invariant channel sessionId key base s taken rooms)
    (halves : (session.endpoint p).Halves p sessionId)
    (peer : session.endpoint p.peer = s.session.endpoint p.peer)
    (received : session.received = s.session.received)
    (keys : channel.key (session.endpoint p).common sessionId =
        channel.key (s.session.endpoint p).common sessionId ∨
      channel.key (session.endpoint p).common sessionId = none)
    (sends : channel.counter (s.session.endpoint p).common sessionId p.isRequester ≤
      channel.counter (session.endpoint p).common sessionId p.isRequester)
    (receives : channel.counter (session.endpoint p).common sessionId (!p.isRequester) =
      channel.counter (s.session.endpoint p).common sessionId (!p.isRequester)) :
    Exposed.Invariant channel sessionId key base { s with session := session } taken rooms where
  halves := Role.both p halves (by rw [peer]; exact h.halves p.peer)
  keys := by
    refine Role.both p ?_ (by rw [peer]; exact h.keys p.peer)
    rcases keys with hsame | hgone
    · rw [hsame]
      exact h.keys p
    · exact .inr hgone
  increasing := h.increasing
  above := h.above
  below := Role.both p (fun x hx => Nat.lt_of_lt_of_le (h.below p x hx) sends)
    (by rw [peer]; exact h.below p.peer)
  started := Role.both p (Nat.le_trans (h.started p) sends) (by rw [peer]; exact h.started p.peer)
  counts := Role.both p (receives.trans (h.counts p)) (by rw [peer]; exact h.counts p.peer)
  takes := h.takes
  lengths := h.lengths
  buffers := h.buffers
  received := by
    intro q
    show session.received q = _
    rw [received]
    exact h.received q

/-- Steps that only move bytes. -/
theorem move {e : Endpoint C} {wire : Bytes} (q : Role)
    (h : Exposed.Invariant channel sessionId key base s taken rooms)
    (common : e.common = (s.session.endpoint p).common) (halves : e.Halves p sessionId) :
    Exposed.Invariant channel sessionId key base
      { s with session := (s.session.setEndpoint p e).setWire q wire } taken rooms := by
  have hself : ((s.session.setEndpoint p e).setWire q wire).endpoint p = e := System.setEndpoint_self ..
  refine h.keep (p := p) (by rw [hself]; exact halves) (System.setEndpoint_peer ..) rfl ?_ ?_ ?_
  · rw [hself, common]
    exact .inl rfl
  · rw [hself, common]
  · rw [hself, common]

theorem encode {message packet : Bytes} {common : C}
    (h : Exposed.Invariant channel sessionId key base s taken rooms)
    (encode : (s.session.endpoint p).writeHalf.encode lib cfg (s.session.endpoint p).common message =
      (.ok packet, common)) :
    Exposed.Invariant channel sessionId key base
      { s with
        session := s.session.setEndpoint p
          { s.session.endpoint p with common := common, sending := some (message, packet) }
        sealed := Function.update s.sealed p (s.sealed p ++
          [(channel.counter (s.session.endpoint p).common sessionId p.isRequester, message)]) }
      taken rooms := by
  have hhalves := h.halves p
  obtain ⟨hread, hreadSession, hwrite, hwriteSession⟩ := hhalves
  -- only a party that has its key encodes
  have hkey : channel.key (s.session.endpoint p).common sessionId = some key := by
    rcases h.keys p with hkey | hgone
    · exact hkey
    · exact absurd hgone (hwriteSession ▸ encode_key channel encode)
  obtain ⟨-, -, hadvanced⟩ := encode_ok channel (hwriteSession ▸ hkey) encode
  rw [hwriteSession, hwrite] at hadvanced
  have hused : channel.counter common sessionId p.isRequester =
      channel.counter (s.session.endpoint p).common sessionId p.isRequester + 1 := hadvanced.used
  have hself : (s.session.setEndpoint p
      { s.session.endpoint p with common := common, sending := some (message, packet) }).endpoint p =
      { s.session.endpoint p with common := common, sending := some (message, packet) } :=
    System.setEndpoint_self ..
  have hkept : Exposed.Invariant channel sessionId key base
      { s with
        session := s.session.setEndpoint p
          { s.session.endpoint p with common := common, sending := some (message, packet) } }
      taken rooms := h.keep (p := p)
    (by rw [hself]; exact ⟨hread, hreadSession, hwrite, hwriteSession⟩) (System.setEndpoint_peer ..) rfl
    (by rw [hself]; exact .inl (hadvanced.keys sessionId)) (by rw [hself, hused]; exact Nat.le_succ _)
    (by rw [hself]; exact hadvanced.other)
  refine ⟨hkept.halves, hkept.keys, Role.both p ?_ ?_, Role.both p ?_ ?_, Role.both p ?_ ?_,
    hkept.started, hkept.counts, Role.both p ?_ ?_, h.lengths, h.buffers, hkept.received⟩
  · show Increasing (Function.update s.sealed p _ p)
    rw [Function.update_self]
    exact (h.increasing p).push message (h.below p)
  · show Increasing (Function.update s.sealed p _ p.peer)
    rw [Function.update_of_ne (Role.peer_ne p)]
    exact h.increasing p.peer
  · show ∀ x ∈ Function.update s.sealed p _ p, _
    rw [Function.update_self]
    intro x hx
    rcases List.mem_append.mp hx with hold | hnew
    · exact h.above p x hold
    · rw [List.mem_singleton.mp hnew]
      exact h.started p
  · show ∀ x ∈ Function.update s.sealed p _ p.peer, _
    rw [Function.update_of_ne (Role.peer_ne p)]
    exact h.above p.peer
  · show ∀ x ∈ Function.update s.sealed p _ p, _
    rw [Function.update_self, hself, hused]
    intro x hx
    rcases List.mem_append.mp hx with hold | hnew
    · exact Nat.lt_succ_of_lt (h.below p x hold)
    · rw [List.mem_singleton.mp hnew]
      exact Nat.lt_succ_self _
  · show ∀ x ∈ Function.update s.sealed p _ p.peer, _
    rw [Function.update_of_ne (Role.peer_ne p)]
    exact hkept.below p.peer
  · show _ <+: Function.update s.sealed p _ p.peer
    rw [Function.update_of_ne (Role.peer_ne p)]
    exact h.takes p
  · show _ <+: Function.update s.sealed p _ p.peer.peer
    rw [Role.peer_peer, Function.update_self]
    have := h.takes p.peer
    rw [Role.peer_peer] at this
    exact this.trans (List.prefix_append _ _)

theorem encodeFails {message : Bytes} {e : Fault} {common : C} (guarded : channel.Guarded)
    (h : Exposed.Invariant channel sessionId key base s taken rooms)
    (encode : (s.session.endpoint p).writeHalf.encode lib cfg (s.session.endpoint p).common message =
      (.error e, common)) :
    Exposed.Invariant channel sessionId key base
      { s with session := s.session.setEndpoint p { s.session.endpoint p with common := common } }
      taken rooms := by
  obtain ⟨hread, hreadSession, hwrite, hwriteSession⟩ := h.halves p
  obtain ⟨hkeys, hown, hother⟩ := encode_guarded guarded encode sessionId
  rw [hwrite] at hown hother
  have hself : (s.session.setEndpoint p { s.session.endpoint p with common := common }).endpoint p =
      { s.session.endpoint p with common := common } := System.setEndpoint_self ..
  refine h.keep (p := p) (by rw [hself]; exact ⟨hread, hreadSession, hwrite, hwriteSession⟩)
    (System.setEndpoint_peer ..) rfl ?_ ?_ ?_
  · rw [hself]
    exact hkeys
  · rw [hself]
    exact hown
  · rw [hself]
    exact hother

/-- A record that opens was sealed by the peer with the number that is counted to. -/
theorem opened {received : Received} {w record app : Bytes}
    (h : Exposed.Invariant channel sessionId key base s taken rooms)
    (unforged : Unforged channel sessionId key s p received) (packet : received.packet? = some w)
    (opens : Opens channel sessionId key (s.session.endpoint p).common (!p.isRequester) w record app) :
    ∃ message, app = SimpleTransportMessageType.app.toByte :: message ∧
      numbered (base p.peer) (taken p ++ [message]) <+: s.sealed p.peer := by
  obtain ⟨r, x, hx, hsealed⟩ := unforged w record app packet opens
  obtain ⟨n, out, -, -, hopens⟩ := opens
  obtain ⟨hflag, hnumber⟩ := S.separates ((S.authentic hopens).symm.trans hsealed)
  -- the other flag is the peer's
  obtain rfl : r = p.peer := by
    cases r <;> cases p <;> first | rfl | exact absurd hflag (by decide)
  have happ : app = SimpleTransportMessageType.app.toByte :: x.2 := by
    have hsame := S.opens_seals key (!p.isRequester)
      (channel.counter (s.session.endpoint p).common sessionId (!p.isRequester))
      (SimpleTransportMessageType.app.toByte :: x.2)
    rw [hnumber, hflag, ← hsealed, ← hflag, ← hnumber, hopens] at hsame
    exact Option.some.inj hsame
  refine ⟨x.2, happ, (h.increasing p.peer).next (h.above p.peer) (h.takes p) ?_⟩
  rw [← h.counts p, hnumber]
  exact hx

/-- A call of `receive` that has opened `more`, one message or none. -/
theorem taking {common : C} {buf' : Bytes} {result : Res Nat} {room : Nat} {more : List Bytes}
    (h : Exposed.Invariant channel sessionId key base s taken rooms)
    (keys : channel.key common sessionId = channel.key (s.session.endpoint p).common sessionId ∨
      channel.key common sessionId = none)
    (sends : channel.counter common sessionId p.isRequester =
      channel.counter (s.session.endpoint p).common sessionId p.isRequester)
    (receives : channel.counter common sessionId (!p.isRequester) =
      channel.counter (s.session.endpoint p).common sessionId (!p.isRequester) + more.length)
    (takes : numbered (base p.peer) (taken p ++ more) <+: s.sealed p.peer) (one : more.length ≤ 1)
    (fits : returned result buf' = more.filter fun m => m.length ≤ room) :
    ∃ taken' rooms', Exposed.Invariant channel sessionId key base
      { s with
        session :=
          { s.session.setEndpoint p
              { s.session.endpoint p with common := common, receiving := none } with
            received := Function.update s.session.received p
              (s.session.received p ++ returned result buf') }
        buffers := Function.update s.buffers p (s.buffers p ++ [room]) } taken' rooms' := by
  have hself : (s.session.setEndpoint p
      { s.session.endpoint p with common := common, receiving := none }).endpoint p =
      { s.session.endpoint p with common := common, receiving := none } := System.setEndpoint_self ..
  have hpeer : (s.session.setEndpoint p
      { s.session.endpoint p with common := common, receiving := none }).endpoint p.peer =
      s.session.endpoint p.peer := System.setEndpoint_peer ..
  have hhalves := h.halves p
  refine ⟨Function.update taken p (taken p ++ more),
    Function.update rooms p (rooms p ++ List.replicate more.length room),
    { halves := ?_, keys := ?_, increasing := h.increasing, above := h.above, below := ?_, started := ?_,
      counts := ?_, takes := ?_, lengths := ?_, buffers := ?_, received := ?_ }⟩
  · refine Role.both p ?_ ?_
    · show ((s.session.setEndpoint p _).endpoint p).Halves p sessionId
      rw [hself]
      exact ⟨hhalves.1, hhalves.2, hhalves.3, hhalves.4⟩
    · show ((s.session.setEndpoint p _).endpoint p.peer).Halves p.peer sessionId
      rw [hpeer]
      exact h.halves p.peer
  · refine Role.both p ?_ ?_
    · show channel.key ((s.session.setEndpoint p _).endpoint p).common sessionId = some key ∨
        channel.key ((s.session.setEndpoint p _).endpoint p).common sessionId = none
      rw [hself]
      rcases keys with hsame | hgone
      · rw [hsame]
        exact h.keys p
      · exact .inr hgone
    · show channel.key ((s.session.setEndpoint p _).endpoint p.peer).common sessionId = some key ∨
        channel.key ((s.session.setEndpoint p _).endpoint p.peer).common sessionId = none
      rw [hpeer]
      exact h.keys p.peer
  · refine Role.both p ?_ ?_
    · show ∀ x ∈ s.sealed p, x.1 < channel.counter ((s.session.setEndpoint p _).endpoint p).common _ _
      rw [hself, sends]
      exact h.below p
    · show ∀ x ∈ s.sealed p.peer,
        x.1 < channel.counter ((s.session.setEndpoint p _).endpoint p.peer).common _ _
      rw [hpeer]
      exact h.below p.peer
  · refine Role.both p ?_ ?_
    · show _ ≤ channel.counter ((s.session.setEndpoint p _).endpoint p).common _ _
      rw [hself, sends]
      exact h.started p
    · show _ ≤ channel.counter ((s.session.setEndpoint p _).endpoint p.peer).common _ _
      rw [hpeer]
      exact h.started p.peer
  · refine Role.both p ?_ ?_
    · show channel.counter ((s.session.setEndpoint p _).endpoint p).common _ _ = _
      rw [hself, receives, h.counts p, Function.update_self, List.length_append, Nat.add_assoc]
    · show channel.counter ((s.session.setEndpoint p _).endpoint p.peer).common _ _ = _
      rw [hpeer, Function.update_of_ne (Role.peer_ne p)]
      exact h.counts p.peer
  · refine Role.both p ?_ ?_
    · rw [Function.update_self]
      exact takes
    · rw [Function.update_of_ne (Role.peer_ne p)]
      exact h.takes p.peer
  · refine Role.both p ?_ ?_
    · rw [Function.update_self, Function.update_self, List.length_append, List.length_append,
        List.length_replicate, h.lengths p]
    · rw [Function.update_of_ne (Role.peer_ne p), Function.update_of_ne (Role.peer_ne p)]
      exact h.lengths p.peer
  · refine Role.both p ?_ ?_
    · show (Function.update rooms p _ p).Sublist (Function.update s.buffers p _ p)
      rw [Function.update_self, Function.update_self]
      refine (h.buffers p).append ?_
      exact (List.replicate_sublist_replicate room).mpr one
    · show (Function.update rooms p _ p.peer).Sublist (Function.update s.buffers p _ p.peer)
      rw [Function.update_of_ne (Role.peer_ne p), Function.update_of_ne (Role.peer_ne p)]
      exact h.buffers p.peer
  · refine Role.both p ?_ ?_
    · show Function.update s.session.received p _ p = _
      rw [Function.update_self, Function.update_self, Function.update_self, fitting_append (h.lengths p),
        fitting_replicate, fits, h.received p]
    · show Function.update s.session.received p _ p.peer = _
      rw [Function.update_of_ne (Role.peer_ne p), Function.update_of_ne (Role.peer_ne p),
        Function.update_of_ne (Role.peer_ne p)]
      exact h.received p.peer

theorem deliver {received : Received} {buf buf' : Bytes} {result : Res Nat} {common : C}
    (guarded : channel.Guarded) (h : Exposed.Invariant channel sessionId key base s taken rooms)
    (unforged : Unforged channel sessionId key s p received)
    (deliver : (s.session.endpoint p).readHalf.deliver lib (s.session.endpoint p).common received buf =
      (result, buf', common)) :
    ∃ taken' rooms', Exposed.Invariant channel sessionId key base
      { s with
        session :=
          { s.session.setEndpoint p
              { s.session.endpoint p with common := common, receiving := none } with
            received := Function.update s.session.received p
              (s.session.received p ++ returned result buf') }
        buffers := Function.update s.buffers p (s.buffers p ++ [buf.length]) } taken' rooms' := by
  obtain ⟨hread, hreadSession, -, -⟩ := h.halves p
  have hnothing : numbered (base p.peer) (taken p ++ []) <+: s.sealed p.peer := by
    rw [List.append_nil]
    exact h.takes p
  unfold ReadHalf.deliver at deliver
  cases hresult : received.result with
  | error e =>
    rw [hresult] at deliver
    obtain ⟨rfl, hrest⟩ := Prod.mk.inj deliver
    obtain ⟨rfl, rfl⟩ := Prod.mk.inj hrest
    exact h.taking (.inl rfl) rfl rfl hnothing (Nat.zero_le _) rfl
  | ok used =>
    simp only [hresult] at deliver
    by_cases hwithin : used ≤ received.readBuffer.length
    · have hpacket : received.packet? = some (received.readBuffer.take used) := by
        rw [Received.packet?, Received.payload, hresult]
        rfl
      simp only [slice_ok (Nat.zero_le used) hwithin, List.drop_zero, Nat.sub_zero] at deliver
      by_cases hopen : ∃ k record app, channel.key (s.session.endpoint p).common sessionId = some k ∧
          Opens channel sessionId k (s.session.endpoint p).common (!p.isRequester)
            (received.readBuffer.take used) record app
      · obtain ⟨k, record, app, hk, hopens⟩ := hopen
        obtain rfl : key = k := by
          rcases h.keys p with hkey | hgone
          · exact Option.some.inj (hkey.symm.trans hk)
          · rw [hgone] at hk
            cases hk
        obtain ⟨message, rfl, htakes⟩ := h.opened unforged hpacket hopens
        obtain ⟨n, out, hdecap, rfl, hopens⟩ := hopens
        obtain ⟨common', hdecode, hadvanced⟩ := channel.decode buf hk hdecap hopens
        rw [← hread, ← hreadSession] at hdecode
        obtain ⟨result', buffer, hdecoded, hfits⟩ := decode_app (s.session.endpoint p).readHalf hdecode
        rw [deliver] at hdecoded
        obtain ⟨rfl, hrest⟩ := Prod.mk.inj hdecoded
        obtain ⟨rfl, rfl⟩ := Prod.mk.inj hrest
        have hused : channel.counter common sessionId (!p.isRequester) =
            channel.counter (s.session.endpoint p).common sessionId (!p.isRequester) +
              [message].length := hadvanced.used
        refine h.taking (.inl (hadvanced.keys sessionId)) ?_ hused htakes (Nat.le_refl 1) hfits
        have := hadvanced.other
        rwa [Bool.not_not] at this
      · have hclosed : ∀ k record app,
            channel.key (s.session.endpoint p).common (s.session.endpoint p).readHalf.sessionId = some k →
            ¬ Opens channel (s.session.endpoint p).readHalf.sessionId k (s.session.endpoint p).common
              (!(s.session.endpoint p).readHalf.isRequester) (received.readBuffer.take used) record app := by
          intro k record app hk hopens
          rw [hreadSession] at hk hopens
          rw [hread] at hopens
          exact hopen ⟨k, record, app, hk, hopens⟩
        have hreturned := decode_refused channel deliver hclosed
        have hkept := decode_kept guarded deliver hclosed sessionId
        exact h.taking hkept.1 (hkept.2 _) (hkept.2 _) hnothing (Nat.zero_le _) hreturned
    · have hslice : slice received.readBuffer 0 used = .error .panic := by
        unfold slice
        exact if_neg fun hboth => hwithin hboth.2
      simp only [hslice] at deliver
      obtain ⟨rfl, hrest⟩ := Prod.mk.inj deliver
      obtain ⟨rfl, rfl⟩ := Prod.mk.inj hrest
      exact h.taking (.inl rfl) rfl rfl hnothing (Nat.zero_le _) rfl

theorem step (guarded : channel.Guarded)
    (h : Exposed.Invariant channel sessionId key base s taken rooms)
    (hstep : ExposedStep channel sessionId key s s') :
    ∃ taken' rooms', Exposed.Invariant channel sessionId key base s' taken' rooms' := by
  cases hstep with
  | network p wire =>
    exact ⟨taken, rooms, h.keep (p := p) (h.halves p) rfl rfl (.inl rfl) (Nat.le_refl _) rfl⟩
  | encode p idle encode => exact ⟨taken, rooms, h.encode encode⟩
  | encodeFails p idle encode => exact ⟨taken, rooms, h.encodeFails guarded encode⟩
  | transmit p sending transmit wire =>
    have hhalves := h.halves p
    exact ⟨taken, rooms, h.move p rfl ⟨hhalves.1, hhalves.2, hhalves.3, hhalves.4⟩⟩
  | call p buf idle =>
    have hhalves := h.halves p
    have hmove : Exposed.Invariant channel sessionId key base
        { s with
          session := (s.session.setEndpoint p
            { s.session.endpoint p with
              receiving := some
                (.reading (Progress.start (s.session.endpoint p).readHalf.deviceIo) buf) }).setWire p
            (s.session.wire p) } taken rooms :=
      h.move p rfl ⟨hhalves.1, hhalves.2, hhalves.3, hhalves.4⟩
    rw [System.setWire, show (s.session.setEndpoint p _).wire = s.session.wire from rfl,
      Function.update_eq_self] at hmove
    exact ⟨taken, rooms, hmove⟩
  | read p receiving check reads more =>
    have hhalves := h.halves p
    exact ⟨taken, rooms, h.move p.peer rfl ⟨hhalves.1, hhalves.2, hhalves.3, hhalves.4⟩⟩
  | framed p receiving ends finish =>
    have hhalves := h.halves p
    exact ⟨taken, rooms, h.move p.peer rfl ⟨hhalves.1, hhalves.2, hhalves.3, hhalves.4⟩⟩
  | deliver p receiving unforged deliver => exact h.deliver guarded unforged deliver

theorem steps (guarded : channel.Guarded)
    (h : Exposed.Invariant channel sessionId key base s taken rooms)
    (hsteps : ExposedSteps channel sessionId key s s') :
    ∃ taken' rooms', Exposed.Invariant channel sessionId key base s' taken' rooms' := by
  induction hsteps with
  | refl => exact ⟨taken, rooms, h⟩
  | tail _ hstep ih =>
    obtain ⟨taken', rooms', h'⟩ := ih
    exact h'.step guarded hstep

end Exposed.Invariant

end Invariants

section Sessions
variable {C Key : Type} {lib : Spdmlib C} {cfg : Config} {S : Sealing Key Bool}

/-- The two sides agree on the session, its key and its counters, whatever has become of their bytes. -/
structure Negotiated.Keyed (channel : SecuredChannel lib cfg S) (n : Negotiated C) (sessionId : Nat)
    (key : Key) : Prop where
  sessions : ∀ p, n.sessionId p = some sessionId
  keys : ∀ p, channel.key (n.common p) sessionId = some key
  counters : ∀ p, channel.counter (n.common p) sessionId p.isRequester =
    channel.counter (n.common p.peer) sessionId p.isRequester + (n.sent p).length

theorem Negotiated.Agreed.keyed {channel : SecuredChannel lib cfg S} {n : Negotiated C} {sessionId : Nat}
    {key : Key} (h : n.Agreed channel sessionId key) : n.Keyed channel sessionId key :=
  ⟨h.sessions, h.keys, h.counters⟩

/-- What a party counts from. -/
def Negotiated.base (channel : SecuredChannel lib cfg S) (n : Negotiated C) (sessionId : Nat) (p : Role) :
    Nat :=
  channel.counter (n.common p.peer) sessionId p.isRequester

/-- Both have split; the messages sent before were sealed. -/
def Exposed.start (channel : SecuredChannel lib cfg S) (n : Negotiated C) (sessionId : Nat)
    (session : System C) : Exposed C :=
  ⟨session, fun p => numbered (n.base channel sessionId p) (n.sent p), fun _ => []⟩

theorem Negotiated.Keyed.exposed {channel : SecuredChannel lib cfg S} {n : Negotiated C} {sessionId : Nat}
    {key : Key} {session : System C} (h : n.Keyed channel sessionId key)
    (hreceived : session.received = fun _ => [])
    (hendpoint : ∀ p, session.endpoint p = ⟨n.common p, ⟨p.isRequester, sessionId, n.deviceIo p⟩,
      ⟨p.isRequester, sessionId, FramedStream.new cfg⟩, none, none⟩) :
    Exposed.Invariant channel sessionId key (n.base channel sessionId)
      (Exposed.start channel n sessionId session) (fun _ => []) (fun _ => []) where
  halves := fun p => by
    show (session.endpoint p).Halves p sessionId
    rw [hendpoint]
    exact ⟨rfl, rfl, rfl, rfl⟩
  keys := fun p => by
    show channel.key (session.endpoint p).common sessionId = some key ∨ _
    rw [hendpoint]
    exact .inl (h.keys p)
  increasing := fun p => numbered_increasing _ _
  above := fun p x hx => (bounds_of_mem_numbered hx).1
  below := fun p x hx => by
    show x.1 < channel.counter (session.endpoint p).common sessionId p.isRequester
    rw [hendpoint, h.counters p]
    exact (bounds_of_mem_numbered hx).2
  started := fun p => by
    show _ ≤ channel.counter (session.endpoint p).common sessionId p.isRequester
    rw [hendpoint, h.counters p]
    exact Nat.le_add_right _ _
  counts := fun p => by
    show channel.counter (session.endpoint p).common sessionId (!p.isRequester) = _
    rw [hendpoint, Negotiated.base, Role.peer_peer, Role.isRequester_peer]
    rfl
  takes := fun p => List.nil_prefix ..
  lengths := fun p => rfl
  buffers := fun p => List.Sublist.slnil
  received := fun p => by
    show session.received p = _
    rw [hreceived]
    rfl

end Sessions

/-- **Main theorem.** Requester and responder have negotiated and called `into_split`, over a network that
may replace the bytes on the wire by any others at any time, and sends, receives and encodings may fail. In
every state that is reached, what a party has received are the first of the messages that its peer has
sealed, each once and in order, but for those that did not fit the buffer they were decoded into: nothing
is forged, repeated, reordered or taken from the party's own messages. -/
theorem network_cannot_forge {C Key : Type} (lib : Spdmlib C) (cfg : Config) (S : Sealing Key Bool)
    (channel : SecuredChannel lib cfg S) (n : Negotiated C) (sessionId : Nat) (key : Key)
    (keyed : n.Keyed channel sessionId key) (guarded : channel.Guarded) :
    ∃ s₀, n.intoSplit cfg = .ok s₀ ∧
      ∀ s, ExposedSteps channel sessionId key (Exposed.start channel n sessionId s₀) s → ∀ p : Role,
        (∃ rooms : List Nat, rooms.Sublist (s.buffers p) ∧
          rooms.length ≤ (s.sealed p.peer).length ∧
          s.session.received p = fitting ((s.sealed p.peer).map Prod.snd) rooms) ∧
        ((∀ x ∈ s.sealed p.peer, ∀ room ∈ s.buffers p, x.2.length ≤ room) →
          s.session.received p <+: (s.sealed p.peer).map Prod.snd) := by
  obtain ⟨s₀, hsplit, -, -, -, hreceived, hendpoint⟩ := Negotiated.intoSplit_ok cfg keyed.sessions
  refine ⟨s₀, hsplit, fun s hsteps p => ?_⟩
  obtain ⟨taken, rooms, hinv⟩ := (keyed.exposed hreceived hendpoint).steps guarded hsteps
  obtain ⟨rest, hrest⟩ := hinv.takes p
  have hmessages : (s.sealed p.peer).map Prod.snd = taken p ++ rest.map Prod.snd := by
    rw [← hrest, List.map_append, map_snd_numbered]
  have hfitting : s.session.received p = fitting ((s.sealed p.peer).map Prod.snd) (rooms p) := by
    rw [hmessages, fitting_prefix (hinv.lengths p)]
    exact hinv.received p
  refine ⟨⟨rooms p, hinv.buffers p, ?_, hfitting⟩, fun hroomy => ?_⟩
  · rw [← hinv.lengths p, ← hrest, List.length_append]
    have := congrArg List.length (map_snd_numbered (n.base channel sessionId p.peer) (taken p))
    rw [List.length_map] at this
    omega
  · rw [hfitting, Roomy.fitting]
    · exact List.take_prefix _ _
    · intro x hx
      obtain ⟨hmessage, hroom⟩ := List.of_mem_zip hx
      obtain ⟨y, hy, hsame⟩ := List.mem_map.mp hmessage
      rw [← hsame]
      exact hroomy y hy x.2 ((hinv.buffers p).subset hroom)

/-! ### A frame played twice -/

theorem plain_guarded (cfg : Config) : (plainChannel cfg).Guarded where
  encodeFails := by
    intro context sessionId message buffer flag status buffer' context' h id
    simp only [Spdmlib.plain] at h
    split at h
    · obtain ⟨-, rfl⟩ := (Prod.mk.inj (Prod.mk.inj h).2)
      exact ⟨.inl rfl, Nat.le_refl _, rfl⟩
    · split at h
      · obtain ⟨-, rfl⟩ := (Prod.mk.inj (Prod.mk.inj h).2)
        exact ⟨.inl rfl, Nat.le_refl _, rfl⟩
      · obtain ⟨-, rfl⟩ := (Prod.mk.inj (Prod.mk.inj h).2)
        refine ⟨.inl (by cases flag <;> rfl), ?_, by cases flag <;> rfl⟩
        show PlainContext.counter context id flag ≤ PlainContext.counter (context.advance flag) id flag
        by_cases hid : id = context.sessionId
        · cases flag <;> simp [PlainContext.counter, PlainContext.advance, hid]
        · cases flag <;> simp [PlainContext.counter, PlainContext.advance, hid]
  refused := by
    intro context sessionId packet buffer flag decoded buffer' context' h closed id
    simp only [Spdmlib.plain] at h
    split at h
    · obtain ⟨-, rfl⟩ := (Prod.mk.inj (Prod.mk.inj h).2)
      exact ⟨.inl rfl, fun _ => rfl⟩
    · rename_i hsession
      split at h
      · obtain ⟨-, rfl⟩ := (Prod.mk.inj (Prod.mk.inj h).2)
        exact ⟨.inl rfl, fun _ => rfl⟩
      · obtain ⟨-, rfl⟩ := (Prod.mk.inj (Prod.mk.inj h).2)
        exact ⟨.inl rfl, fun _ => rfl⟩
      · rename_i n record hdecap
        split at h
        · obtain ⟨-, rfl⟩ := (Prod.mk.inj (Prod.mk.inj h).2)
          exact ⟨.inl rfl, fun _ => rfl⟩
        · rename_i app hopens
          have hkey : PlainContext.key context sessionId = some () := if_pos (by simpa using hsession)
          exact absurd ⟨n, record, hdecap, rfl, hopens⟩ (closed () _ app hkey)

/-- The steps over the plain session. -/
abbrev PlainExposed : Exposed PlainContext → Exposed PlainContext → Prop :=
  ExposedSteps (plainChannel plainConfig) 7 ()

/-- What the requester gets is the packet the responder has sealed. -/
theorem plain_unforged {s : Exposed PlainContext} {framed : FramedStream}
    (hsealed : s.sealed .responder = [(0, [8])]) :
    Unforged (plainChannel plainConfig) 7 () s .requester
      ⟨.ok 5, [1, 0, 0, 2, 8] ++ List.replicate 11 0, framed⟩ := by
  intro w record app hpacket hopens
  obtain rfl : [1, 0, 0, 2, 8] = w := Option.some.inj hpacket
  obtain ⟨n, out, hdecap, rfl, -⟩ := hopens
  have htaken : decap [1, 0, 0, 2, 8] (List.replicate plainConfig.receiverBufferSize 0) =
      (.ok (4, true), [0, 0, 2, 8] ++ List.replicate 12 0) := by decide +kernel
  rw [htaken] at hdecap
  obtain ⟨hn, rfl⟩ := Prod.mk.inj hdecap
  obtain ⟨rfl, -⟩ := Prod.mk.inj (Except.ok.inj hn)
  refine ⟨.responder, (0, [8]), ?_, rfl⟩
  rw [hsealed]
  exact List.mem_singleton_self _

/-- The network sends a frame of the responder twice. The requester receives its message once. -/
theorem plainSession_replayed :
    ∃ s₀ s, plainSession.intoSplit plainConfig = .ok s₀ ∧
      PlainExposed (Exposed.start (plainChannel plainConfig) plainSession 7 s₀) s ∧
      s.session.received .requester = [[8]] ∧ (s.buffers .requester).length = 2 ∧
      s.session.received .requester <+: (s.sealed .responder).map Prod.snd := by
  obtain ⟨s₀, hsplit, hsafe⟩ := network_cannot_forge (Spdmlib.plain plainConfig) plainConfig
    Sealing.plain (plainChannel plainConfig) plainSession 7 () plainSession_agreed.keyed
    (plain_guarded plainConfig)
  obtain rfl : plainStart = s₀ := Except.ok.inj hsplit
  have htwice : PlainExposed (Exposed.start (plainChannel plainConfig) plainSession 7 plainStart) _ :=
    .single (.network .responder [0, 2, 8, 0, 0, 0, 5, 1, 0, 0, 2, 8])
  have hcall := htwice.tail (@ExposedStep.call _ _ _ _ _ _ _ _ _ .requester [0, 0] rfl)
  have hread := hcall.tail (@ExposedStep.read _ _ _ _ _ _ _ _ _ .requester
    ⟨[0, 0, 0, 5, 1, 0] ++ List.replicate 14 0, 6, 0⟩
    ⟨[0, 0, 0, 5, 1, 0] ++ List.replicate 14 0, 6, 9⟩
    ⟨[0, 0, 0, 5, 1, 0, 0, 2, 8, 0, 0, 0, 5, 1, 0, 0, 2, 8, 0, 0], 18, 9⟩ _ _ _ _
    rfl rfl (.give 12 (by decide)) rfl)
  have hframed := hread.tail (@ExposedStep.framed _ _ _ _ _ _ _ _ _ .requester _
    ⟨[0, 0, 0, 5, 1, 0, 0, 2, 8, 0, 0, 0, 5, 1, 0, 0, 2, 8, 0, 0], 18, 9⟩ _ _ true
    ⟨.ok 5, [1, 0, 0, 2, 8] ++ List.replicate 11 0,
      ⟨[0, 0, 0, 5, 1, 0, 0, 2, 8, 0, 0, 0, 5, 1, 0, 0, 2, 8, 0, 0], 9⟩⟩ rfl (.enough rfl) rfl)
  have hdeliver := hframed.tail (@ExposedStep.deliver _ _ _ _ _ _ _ _ _ .requester
    ⟨.ok 5, [1, 0, 0, 2, 8] ++ List.replicate 11 0,
      ⟨[0, 0, 0, 5, 1, 0, 0, 2, 8, 0, 0, 0, 5, 1, 0, 0, 2, 8, 0, 0], 9⟩⟩ [0, 0] [8, 0] (.ok 1)
    ⟨7, 0, 1⟩ rfl (plain_unforged rfl) (by decide +kernel))
  have hcall' := hdeliver.tail (@ExposedStep.call _ _ _ _ _ _ _ _ _ .requester [0, 0] rfl)
  have hframed' := hcall'.tail (@ExposedStep.framed _ _ _ _ _ _ _ _ _ .requester
    ⟨[0, 0, 0, 5, 1, 0, 0, 2, 8, 0, 0, 0, 5, 1, 0, 0, 2, 8, 0, 0], 9, 0⟩
    ⟨[0, 0, 0, 5, 1, 0, 0, 2, 8, 0, 0, 0, 5, 1, 0, 0, 2, 8, 0, 0], 9, 9⟩ _ _ true
    ⟨.ok 5, [1, 0, 0, 2, 8] ++ List.replicate 11 0,
      ⟨[0, 0, 0, 5, 1, 0, 0, 2, 8, 0, 0, 0, 5, 1, 0, 0, 2, 8, 0, 0], 0⟩⟩ rfl (.enough rfl) rfl)
  have hrefused := hframed'.tail (@ExposedStep.deliver _ _ _ _ _ _ _ _ _ .requester
    ⟨.ok 5, [1, 0, 0, 2, 8] ++ List.replicate 11 0,
      ⟨[0, 0, 0, 5, 1, 0, 0, 2, 8, 0, 0, 0, 5, 1, 0, 0, 2, 8, 0, 0], 0⟩⟩ [0, 0] [0, 0]
    (Res.fail .spdmReceive ("Failed to decode as secured message: " ++
      (Spdmlib.plain plainConfig).debug (.other 2)))
    ⟨7, 0, 1⟩ rfl (plain_unforged rfl) rfl)
  refine ⟨plainStart, _, hsplit, hrefused, rfl, rfl, (hsafe _ hrefused .requester).2 ?_⟩
  intro x hx room hroom
  obtain rfl : x = (0, [8]) := List.mem_singleton.mp hx
  have hroom : room ∈ [2, 2] := hroom
  rcases List.mem_cons.mp hroom with rfl | hroom
  · decide
  · rw [List.mem_singleton.mp hroom]
    decide

end RatsRs.Transport
