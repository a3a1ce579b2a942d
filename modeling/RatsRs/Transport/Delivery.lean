import RatsRs.Transport.Plain

/-! What a session delivers.

`Flow` is one direction of a session: the messages sent and not yet received are due, and what
is on its way, in the receiver's hands, in its buffer and on the wire, are exactly the frames
of their packets, whose counters go on from the receiver's. Sending appends to it at one end and
receiving takes from it at the other, each with its own counter. `Invariant` is a flow in each
direction and what the halves need to take part in it; every step keeps it, in whatever order
the steps come. -/
namespace RatsRs.Transport
open Lib

/-! ### One direction -/

section Flows
variable {Key : Type} {S : Sealing Key Bool} {cfg : Config} {key : Key} {flag : Bool}

/-- One direction: the counters of sender and receiver, the send in progress and its packet, the
bytes on their way, and the messages sent, received and due. -/
structure Flow (S : Sealing Key Bool) (cfg : Config) (key : Key) (flag : Bool) (sender receiver : Nat)
    (sending : Option (Bytes × Bytes)) (bytes : Bytes) (sent received due : List Bytes) : Prop where
  sent : sent = received ++ due
  bytes : bytes = cfg.framing.encodeAll (packetsFrom S key flag receiver due)
  short : ∀ w ∈ packetsFrom S key flag receiver due, w.length < 2 ^ 32
  counter : sender = receiver + due.length + sending.toList.length
  packet : ∀ m w, sending = some (m, w) →
    w = packet S key flag (receiver + due.length) m ∧ w.length < 2 ^ 32

variable {sender receiver : Nat} {sending : Option (Bytes × Bytes)} {bytes : Bytes}
  {sent received due : List Bytes}

/-- A message is sealed with the sender's counter. -/
theorem Flow.encode {m w : Bytes} (h : Flow S cfg key flag sender receiver none bytes sent received due)
    (hw : w = Transport.packet S key flag sender m) (hshort : w.length < 2 ^ 32) :
    Flow S cfg key flag (sender + 1) receiver (some (m, w)) bytes sent received due where
  sent := h.sent
  bytes := h.bytes
  short := h.short
  counter := by
    have := h.counter
    simpa using this
  packet := by
    intro m' w' hsending
    obtain ⟨rfl, rfl⟩ := Prod.mk.inj (Option.some.inj hsending)
    have hcounter : sender = receiver + due.length := h.counter
    exact ⟨by rw [hw, hcounter], hshort⟩

/-- Its frame goes behind what is on its way. -/
theorem Flow.transmit {m w : Bytes}
    (h : Flow S cfg key flag sender receiver (some (m, w)) bytes sent received due) :
    Flow S cfg key flag sender receiver none (bytes ++ cfg.framing.encode w) (sent ++ [m]) received
      (due ++ [m]) := by
  obtain ⟨hw, hshort⟩ := h.packet m w rfl
  have hpackets : packetsFrom S key flag receiver (due ++ [m]) =
      packetsFrom S key flag receiver due ++ [w] := by
    rw [packetsFrom_append, hw]
    rfl
  refine ⟨by rw [h.sent, List.append_assoc], ?_, ?_, ?_, nofun⟩
  · rw [h.bytes, hpackets, Framing.encodeAll_append, Framing.encodeAll_cons, Framing.encodeAll_nil,
      List.append_nil]
  · intro x hx
    rw [hpackets] at hx
    rcases List.mem_append.mp hx with hold | hnew
    · exact h.short x hold
    · obtain rfl : x = w := List.mem_singleton.mp hnew
      exact hshort
  · have := h.counter
    simp only [Option.toList_some, List.length_singleton] at this
    simp only [Option.toList_none, List.length_nil, List.length_append, List.length_singleton]
    omega

/-- The frame in front is the packet of the message that is due first. -/
theorem Flow.head {w rest : Bytes} (hw : w.length < 2 ^ 32)
    (h : Flow S cfg key flag sender receiver sending (cfg.framing.encode w ++ rest) sent received due) :
    ∃ m due', due = m :: due' ∧ w = Transport.packet S key flag receiver m ∧
      Flow S cfg key flag sender (receiver + 1) sending rest sent (received ++ [m]) due' := by
  have hbytes : cfg.framing.encodeAll [w] ++ rest =
      cfg.framing.encodeAll (packetsFrom S key flag receiver due) := by
    rw [Framing.encodeAll_cons, Framing.encodeAll_nil, List.append_nil]
    exact h.bytes
  obtain ⟨hpackets, hrest⟩ := Framing.prefix_of_encodeAll (f := cfg.framing) [w]
    (packetsFrom S key flag receiver due)
    (by simpa [cfg.framing_lengths] using hw) (by rw [cfg.framing_lengths]; exact h.short)
    hbytes
  cases due with
  | nil => cases hpackets
  | cons m due' =>
    obtain ⟨hhead, -⟩ := List.cons.inj hpackets
    refine ⟨m, due', rfl, hhead.symm, by rw [h.sent, List.append_assoc]; rfl, hrest,
      fun x hx => h.short x (List.mem_cons_of_mem _ hx), ?_, ?_⟩
    · have := h.counter
      rw [List.length_cons] at this
      omega
    · intro m' w' hsending
      have := h.packet m' w' hsending
      rwa [List.length_cons, Nat.add_comm due'.length, ← Nat.add_assoc] at this

end Flows

/-! ### The invariant -/

/-- The packet a call has received and not decoded yet. -/
def Received.packet? (r : Received) : Option Bytes := r.payload.toOption

/-- The bytes a party has been handed and has not decoded: a packet in hand counts with its frame. -/
def Endpoint.undecoded {C : Type} (cfg : Config) (e : Endpoint C) : Bytes :=
  match e.receiving with
  | none => e.readHalf.deviceIo.pending
  | some (.reading progress _) => progress.buffered
  | some (.decoding received _) =>
    received.packet?.toList.flatMap cfg.framing.encode ++ e.readHalf.deviceIo.pending

/-- The buffers of a party are as `FramedStream` keeps them. -/
def Endpoint.WellFormed {C : Type} (cfg : Config) (e : Endpoint C) : Prop :=
  match e.receiving with
  | none => e.readHalf.deviceIo.WellFormed cfg
  | some (.reading progress _) => progress.WellFormed cfg
  | some (.decoding received _) => e.readHalf.deviceIo.WellFormed cfg ∧
      ∀ used, received.result = .ok used →
        used ≤ received.readBuffer.length ∧ used ≤ cfg.receiverBufferSize

/-- The halves of a party carry its flag and the session. -/
structure Endpoint.Halves {C : Type} (e : Endpoint C) (p : Role) (sessionId : Nat) : Prop where
  readFlag : e.readHalf.isRequester = p.isRequester
  readSession : e.readHalf.sessionId = sessionId
  writeFlag : e.writeHalf.isRequester = p.isRequester
  writeSession : e.writeHalf.sessionId = sessionId

section Sessions
variable {C Key : Type} {lib : Spdmlib C} {cfg : Config} {S : Sealing Key Bool}

/-- What every step of a session keeps. -/
structure Invariant (channel : SecuredChannel lib cfg S) (sessionId : Nat) (key : Key)
    (s : System C) : Prop where
  halves : ∀ p, (s.endpoint p).Halves p sessionId
  keys : ∀ p, channel.key (s.endpoint p).common sessionId = some key
  wellFormed : ∀ p, (s.endpoint p).WellFormed cfg
  /-- A party's packets are sealed with its flag. -/
  own : ∀ p, ∀ w ∈ s.packets p, ∃ n m, w = packet S key p.isRequester n m
  flow : ∀ p, ∃ due, Flow S cfg key p.isRequester
    (channel.counter (s.endpoint p).common sessionId p.isRequester)
    (channel.counter (s.endpoint p.peer).common sessionId p.isRequester)
    (s.endpoint p).sending ((s.endpoint p.peer).undecoded cfg ++ s.wire p) (s.sent p)
    (s.received p.peer) due

/-- Using one flag's counter leaves the other's. -/
theorem Advanced.other {channel : SecuredChannel lib cfg S} {common common' : C} {sessionId : Nat}
    {flag : Bool} (h : Advanced channel.key channel.counter common common' sessionId flag) :
    channel.counter common' sessionId (!flag) = channel.counter common sessionId (!flag) :=
  h.others sessionId (!flag) (by simp)

variable {channel : SecuredChannel lib cfg S} {sessionId : Nat} {key : Key} {s : System C} {p : Role}

/-- Steps of one party: it is enough to see to its end of both directions. -/
theorem Invariant.update (e : Endpoint C) {s' : System C} (h : Invariant channel sessionId key s)
    (hp : s'.endpoint p = e) (hpeer : s'.endpoint p.peer = s.endpoint p.peer)
    (halves : e.Halves p sessionId) (keys : channel.key e.common sessionId = some key)
    (wellFormed : e.WellFormed cfg)
    (own : ∀ w ∈ s'.packets p, ∃ n m, w = packet S key p.isRequester n m)
    (ownPeer : s'.packets p.peer = s.packets p.peer)
    (sends : ∃ due, Flow S cfg key p.isRequester
      (channel.counter e.common sessionId p.isRequester)
      (channel.counter (s.endpoint p.peer).common sessionId p.isRequester)
      e.sending ((s.endpoint p.peer).undecoded cfg ++ s'.wire p) (s'.sent p) (s'.received p.peer) due)
    (receives : ∃ due, Flow S cfg key (!p.isRequester)
      (channel.counter (s.endpoint p.peer).common sessionId (!p.isRequester))
      (channel.counter e.common sessionId (!p.isRequester))
      (s.endpoint p.peer).sending (e.undecoded cfg ++ s'.wire p.peer) (s'.sent p.peer)
      (s'.received p) due) :
    Invariant channel sessionId key s' where
  halves := Role.both p (by rw [hp]; exact halves) (by rw [hpeer]; exact h.halves p.peer)
  keys := Role.both p (by rw [hp]; exact keys) (by rw [hpeer]; exact h.keys p.peer)
  wellFormed := Role.both p (by rw [hp]; exact wellFormed) (by rw [hpeer]; exact h.wellFormed p.peer)
  own := Role.both p own (by rw [ownPeer]; exact h.own p.peer)
  flow := Role.both p (by rw [hp, hpeer]; exact sends)
    (by rw [Role.peer_peer, hp, hpeer, Role.isRequester_peer]; exact receives)

/-- The direction a party receives in, as its own end sees it. -/
theorem Invariant.receives (h : Invariant channel sessionId key s) (p : Role) :
    ∃ due, Flow S cfg key (!p.isRequester)
      (channel.counter (s.endpoint p.peer).common sessionId (!p.isRequester))
      (channel.counter (s.endpoint p).common sessionId (!p.isRequester))
      (s.endpoint p.peer).sending ((s.endpoint p).undecoded cfg ++ s.wire p.peer) (s.sent p.peer)
      (s.received p) due := by
  have := h.flow p.peer
  rwa [Role.peer_peer, Role.isRequester_peer] at this

/-! ### The steps of a send -/

theorem Invariant.encode {message w : Bytes} {common : C} (h : Invariant channel sessionId key s)
    (idle : (s.endpoint p).sending = none)
    (encode : (s.endpoint p).writeHalf.encode lib cfg (s.endpoint p).common message = (.ok w, common)) :
    Invariant channel sessionId key
      (s.setEndpoint p { s.endpoint p with common := common, sending := some (message, w) }) := by
  obtain ⟨hread, hreadSession, hwrite, hwriteSession⟩ := h.halves p
  obtain ⟨hw, hlen, hadvanced⟩ := encode_ok channel (hwriteSession ▸ h.keys p) encode
  rw [hwriteSession, hwrite] at hw
  rw [hwriteSession, hwrite] at hadvanced
  have hshort : w.length < 2 ^ 32 := Nat.lt_of_le_of_lt hlen cfg.senderFits
  apply h.update { s.endpoint p with common := common, sending := some (message, w) }
    (System.setEndpoint_self ..) (System.setEndpoint_peer ..)
    ⟨hread, hreadSession, hwrite, hwriteSession⟩ (by rw [hadvanced.keys, h.keys p]) (h.wellFormed p)
    (h.own p) rfl
  · obtain ⟨due, hflow⟩ := h.flow p
    rw [idle] at hflow
    refine ⟨due, ?_⟩
    rw [hadvanced.used]
    exact hflow.encode hw hshort
  · obtain ⟨due, hflow⟩ := h.receives p
    refine ⟨due, ?_⟩
    rw [hadvanced.other]
    exact hflow

theorem transmit_ok {wire wire' w : Bytes} (hshort : w.length < 2 ^ 32)
    (h : WriteHalf.transmit lib cfg Write.string wire w = (.ok (), wire')) :
    wire' = wire ++ cfg.framing.encode w := by
  obtain ⟨status, sink, hsend, -, -⟩ := FramedStream.send_spec cfg Write.string wire w
  simp only [WriteHalf.transmit, hsend] at h
  obtain ⟨hstatus, rfl⟩ := Prod.mk.inj h
  obtain rfl : status = .ok () := by simpa using hstatus
  exact FramedStream.send_ok hshort hsend

theorem Invariant.transmit {message w wire : Bytes} (h : Invariant channel sessionId key s)
    (sending : (s.endpoint p).sending = some (message, w))
    (transmit : WriteHalf.transmit lib cfg Write.string (s.wire p) w = (.ok (), wire)) :
    Invariant channel sessionId key
      { (s.setEndpoint p { s.endpoint p with sending := none }).setWire p wire with
        sent := Function.update s.sent p (s.sent p ++ [message])
        packets := Function.update s.packets p (s.packets p ++ [w]) } := by
  obtain ⟨due, hflow⟩ := h.flow p
  rw [sending] at hflow
  obtain ⟨hw, hshort⟩ := hflow.packet message w rfl
  have hwire := transmit_ok hshort transmit
  have hhalves := h.halves p
  refine h.update { s.endpoint p with sending := none } (by exact System.setEndpoint_self ..)
    (by exact System.setEndpoint_peer ..) ⟨hhalves.1, hhalves.2, hhalves.3, hhalves.4⟩ (h.keys p)
    (h.wellFormed p) ?_ ?_ ?_ ?_
  · intro x hx
    have hx : x ∈ Function.update s.packets p (s.packets p ++ [w]) p := hx
    rw [Function.update_self] at hx
    rcases List.mem_append.mp hx with hold | hnew
    · exact h.own p x hold
    · obtain rfl : x = w := List.mem_singleton.mp hnew
      exact ⟨_, message, hw⟩
  · exact Function.update_of_ne (Role.peer_ne p) ..
  · refine ⟨due ++ [message], ?_⟩
    show Flow S cfg key _ _ _ none (_ ++ Function.update s.wire p wire p)
      (Function.update s.sent p (s.sent p ++ [message]) p) (s.received p.peer) _
    rw [Function.update_self, Function.update_self, hwire, ← List.append_assoc]
    exact hflow.transmit
  · obtain ⟨due', hflow'⟩ := h.receives p
    refine ⟨due', ?_⟩
    show Flow S cfg key _ _ _ _ ((s.endpoint p).undecoded cfg ++ Function.update s.wire p wire p.peer)
      (Function.update s.sent p (s.sent p ++ [message]) p.peer) (s.received p) _
    rw [Function.update_of_ne (Role.peer_ne p), Function.update_of_ne (Role.peer_ne p)]
    exact hflow'

/-! ### The steps of a receive -/

/-- Steps that decode nothing: bytes go from the wire to the party, and all that it had and was handed
is still undecoded. -/
theorem Invariant.move (e : Endpoint C) {wire : Bytes} (h : Invariant channel sessionId key s)
    (halves : e.Halves p sessionId) (common : e.common = (s.endpoint p).common)
    (sending : e.sending = (s.endpoint p).sending) (wellFormed : e.WellFormed cfg)
    (bytes : e.undecoded cfg ++ wire = (s.endpoint p).undecoded cfg ++ s.wire p.peer) :
    Invariant channel sessionId key ((s.setEndpoint p e).setWire p.peer wire) := by
  refine h.update e (by exact System.setEndpoint_self ..) (by exact System.setEndpoint_peer ..) halves
    (by rw [common]; exact h.keys p) wellFormed (h.own p) rfl ?_ ?_
  · obtain ⟨due, hflow⟩ := h.flow p
    refine ⟨due, ?_⟩
    show Flow S cfg key _ _ _ _ (_ ++ Function.update s.wire p.peer wire p) (s.sent p)
      (s.received p.peer) _
    rw [Function.update_of_ne (Role.ne_peer p), common, sending]
    exact hflow
  · obtain ⟨due, hflow⟩ := h.receives p
    refine ⟨due, ?_⟩
    show Flow S cfg key _ _ _ _ (_ ++ Function.update s.wire p.peer wire p.peer) (s.sent p.peer)
      (s.received p) _
    rw [Function.update_self, common, bytes]
    exact hflow

theorem Invariant.call {buf : Bytes} (h : Invariant channel sessionId key s)
    (idle : (s.endpoint p).receiving = none) :
    Invariant channel sessionId key (s.setEndpoint p
      { s.endpoint p with
        receiving := some (.reading (Progress.start (s.endpoint p).readHalf.deviceIo) buf) }) := by
  have hhalves := h.halves p
  have hwf := h.wellFormed p
  simp only [Endpoint.WellFormed, idle] at hwf
  have hmove := h.move (p := p)
    { s.endpoint p with
      receiving := some (.reading (Progress.start (s.endpoint p).readHalf.deviceIo) buf) }
    ⟨hhalves.1, hhalves.2, hhalves.3, hhalves.4⟩ rfl rfl (Progress.start_wellFormed hwf)
    (show Progress.buffered _ ++ s.wire p.peer = _ by simp only [Endpoint.undecoded, idle]; rfl)
  rwa [System.setWire, show (s.setEndpoint p _).wire = s.wire from rfl, Function.update_eq_self] at hmove

theorem Invariant.read {progress q q' : Progress} {buf wire : Bytes} {space : Nat} {answer : Answer}
    (h : Invariant channel sessionId key s)
    (receiving : (s.endpoint p).receiving = some (.reading progress buf))
    (check : progress.check = .ok (q, .wants space))
    (reads : Reads (s.wire p.peer) space answer wire) (more : q.absorb answer = (q', true)) :
    Invariant channel sessionId key ((s.setEndpoint p
      { s.endpoint p with receiving := some (.reading q' buf) }).setWire p.peer wire) := by
  have hhalves := h.halves p
  have hwf := h.wellFormed p
  simp only [Endpoint.WellFormed, receiving] at hwf
  obtain ⟨hwf', hbytes⟩ := Progress.read_spec hwf check reads
  rw [more] at hwf' hbytes
  apply h.move { s.endpoint p with receiving := some (.reading q' buf) }
    ⟨hhalves.1, hhalves.2, hhalves.3, hhalves.4⟩ rfl rfl hwf'
  simp only [Endpoint.undecoded, receiving]
  exact hbytes

/-- The packet a call leaves the loop with, and what stays in the buffer, are what it had. -/
theorem Progress.Ends.spec {progress q : Progress} {wire wire' : Bytes} {enough : Bool}
    {received : Received} (hwf : progress.WellFormed cfg) (h : progress.Ends wire q enough wire')
    (finish : q.finish enough (ReadHalf.transportBuffer cfg) = .ok received) :
    received.framed.WellFormed cfg ∧
      (∀ used, received.result = .ok used →
        used ≤ received.readBuffer.length ∧ used ≤ cfg.receiverBufferSize) ∧
      received.packet?.toList.flatMap cfg.framing.encode ++ received.framed.pending ++ wire' =
        progress.buffered ++ wire := by
  cases h with
  | enough check =>
    obtain ⟨hsame, hwf₁, w, rest, hnext, hexpected⟩ := check_ok hwf check
    obtain ⟨fs, hfinish, hfs, hpending⟩ := finish_enough (ReadHalf.transportBuffer cfg) hwf₁ hnext
      hexpected (by simp [ReadHalf.transportBuffer])
    obtain rfl := Except.ok.inj (hfinish.symm.trans finish)
    obtain ⟨hcap, hframe⟩ := Framing.next_eq_some.mp hnext
    refine ⟨hfs, ?_, ?_⟩
    · intro used hused
      obtain rfl := Except.ok.inj hused
      exact ⟨by rw [List.length_append]; exact Nat.le_add_right _ _, hcap⟩
    · rw [Received.packet?, FramedStream.payload_delivered, hpending, ← hsame, hframe]
      simp [Except.toOption]
  | full check =>
    obtain ⟨hsame, hwf₁, -⟩ := check_ok hwf check
    obtain rfl := Except.ok.inj ((finish_not_enough hwf₁.within).symm.trans finish)
    exact ⟨⟨hwf₁.size, hwf₁.within⟩, nofun, by rw [← hsame]; rfl⟩
  | read check reads stop =>
    obtain ⟨hwf', hbytes⟩ := read_spec hwf check reads
    rw [stop] at hwf' hbytes
    obtain rfl := Except.ok.inj ((finish_not_enough hwf'.within).symm.trans finish)
    exact ⟨⟨hwf'.size, hwf'.within⟩, nofun, hbytes⟩

theorem Invariant.framed {progress q : Progress} {buf wire : Bytes} {enough : Bool}
    {received : Received} (h : Invariant channel sessionId key s)
    (receiving : (s.endpoint p).receiving = some (.reading progress buf))
    (ends : progress.Ends (s.wire p.peer) q enough wire)
    (finish : q.finish enough (ReadHalf.transportBuffer cfg) = .ok received) :
    Invariant channel sessionId key ((s.setEndpoint p
      { s.endpoint p with
        readHalf := { (s.endpoint p).readHalf with deviceIo := received.framed }
        receiving := some (.decoding received buf) }).setWire p.peer wire) := by
  have hhalves := h.halves p
  have hwf := h.wellFormed p
  simp only [Endpoint.WellFormed, receiving] at hwf
  obtain ⟨hframed, hused, hbytes⟩ := ends.spec hwf finish
  apply h.move
    { s.endpoint p with
      readHalf := { (s.endpoint p).readHalf with deviceIo := received.framed }
      receiving := some (.decoding received buf) }
    ⟨hhalves.1, hhalves.2, hhalves.3, hhalves.4⟩ rfl rfl ⟨hframed, hused⟩
  simp only [Endpoint.undecoded, receiving]
  exact hbytes

/-- Decoding takes the message that is due first, if there is a packet in hand, and nothing
otherwise; what it takes is returned if the buffer has room for it. Only the counter of the peer's
flag is used. -/
theorem Invariant.deliver_flow {received : Received} {buf buf' : Bytes} {result : Res Nat} {common : C}
    (h : Invariant channel sessionId key s)
    (receiving : (s.endpoint p).receiving = some (.decoding received buf))
    (deliver : (s.endpoint p).readHalf.deliver lib (s.endpoint p).common received buf =
      (result, buf', common)) :
    channel.key common sessionId = some key ∧
      channel.counter common sessionId p.isRequester =
        channel.counter (s.endpoint p).common sessionId p.isRequester ∧
      ∃ taken due, taken.length = received.packet?.toList.length ∧
        returned result buf' = taken.filter (fun m => m.length ≤ buf.length) ∧
        Flow S cfg key (!p.isRequester)
          (channel.counter (s.endpoint p.peer).common sessionId (!p.isRequester))
          (channel.counter common sessionId (!p.isRequester))
          (s.endpoint p.peer).sending ((s.endpoint p).readHalf.deviceIo.pending ++ s.wire p.peer)
          (s.sent p.peer) (s.received p ++ taken) due := by
  obtain ⟨hread, hreadSession, -, -⟩ := h.halves p
  have hwf := h.wellFormed p
  simp only [Endpoint.WellFormed, receiving] at hwf
  obtain ⟨due, hflow⟩ := h.receives p
  simp only [Endpoint.undecoded, receiving] at hflow
  unfold ReadHalf.deliver at deliver
  cases hresult : received.result with
  | error e =>
    rw [hresult] at deliver
    obtain ⟨rfl, hrest⟩ := Prod.mk.inj deliver
    obtain ⟨rfl, rfl⟩ := Prod.mk.inj hrest
    have hnone : received.packet? = none := by
      rw [Received.packet?, Received.payload, hresult]
      rfl
    rw [hnone] at hflow
    refine ⟨h.keys p, rfl, [], due, by rw [hnone]; rfl, rfl, ?_⟩
    rw [List.append_nil]
    exact hflow
  | ok used =>
    obtain ⟨hlen, hcap⟩ := hwf.2 used hresult
    have hsome : received.packet? = some (received.readBuffer.take used) := by
      rw [Received.packet?, Received.payload, hresult]
      rfl
    have hshort : (received.readBuffer.take used).length ≤ cfg.receiverBufferSize := by
      rw [List.length_take]
      omega
    rw [hsome] at hflow
    rw [hresult] at deliver
    simp only [slice_ok (Nat.zero_le used) hlen, List.drop_zero, Nat.sub_zero] at deliver
    simp only [Option.toList_some, List.flatMap_cons, List.flatMap_nil, List.append_nil,
      List.append_assoc] at hflow
    obtain ⟨m, due', rfl, hw, hflow'⟩ := hflow.head (Nat.lt_of_le_of_lt hshort cfg.receiverFits)
    have hkey := hreadSession ▸ h.keys p
    have hroom : (packet S key (!(s.endpoint p).readHalf.isRequester)
        (channel.counter (s.endpoint p).common (s.endpoint p).readHalf.sessionId
          (!(s.endpoint p).readHalf.isRequester)) m).length ≤ cfg.receiverBufferSize := by
      rw [hread, hreadSession, ← hw]
      exact hshort
    -- the counter is used whether or not the message fits
    have htaken : returned result buf' = [m].filter (fun m => m.length ≤ buf.length) ∧
        Advanced channel.key channel.counter (s.endpoint p).common common
          (s.endpoint p).readHalf.sessionId (!(s.endpoint p).readHalf.isRequester) := by
      by_cases hfits : m.length ≤ buf.length
      · obtain ⟨common', hdecode, hadvanced⟩ :=
          decode_packet channel (s.endpoint p).readHalf (s.endpoint p).common m buf hkey hroom hfits
        rw [hread, hreadSession, ← hw, deliver] at hdecode
        obtain ⟨rfl, hrest⟩ := Prod.mk.inj hdecode
        obtain ⟨rfl, rfl⟩ := Prod.mk.inj hrest
        exact ⟨by simp [returned, hfits], hadvanced⟩
      · obtain ⟨common', hdecode, hadvanced⟩ :=
          decode_short channel (s.endpoint p).readHalf (s.endpoint p).common m buf hkey hroom
            (Nat.lt_of_not_le hfits)
        rw [hread, hreadSession, ← hw, deliver] at hdecode
        obtain ⟨rfl, hrest⟩ := Prod.mk.inj hdecode
        obtain ⟨rfl, rfl⟩ := Prod.mk.inj hrest
        exact ⟨by simp [returned, Res.fail, hfits], hadvanced⟩
    obtain ⟨hreturned, hadvanced⟩ := htaken
    rw [hread, hreadSession] at hadvanced
    refine ⟨by rw [hadvanced.keys, h.keys p], ?_, [m], due', by rw [hsome]; rfl, hreturned, ?_⟩
    · have := hadvanced.other
      rwa [Bool.not_not] at this
    · rw [hadvanced.used]
      exact hflow'

/-- The invariant counts what is taken, whether or not it is returned. -/
theorem Invariant.take {received : Received} {buf buf' : Bytes} {result : Res Nat} {common : C}
    (h : Invariant channel sessionId key s)
    (receiving : (s.endpoint p).receiving = some (.decoding received buf))
    (deliver : (s.endpoint p).readHalf.deliver lib (s.endpoint p).common received buf =
      (result, buf', common)) :
    ∃ taken, taken.length = received.packet?.toList.length ∧
      returned result buf' = taken.filter (fun m => m.length ≤ buf.length) ∧
      s.received p ++ taken <+: s.sent p.peer ∧
      Invariant channel sessionId key
        { s.setEndpoint p { s.endpoint p with common := common, receiving := none } with
          received := Function.update s.received p (s.received p ++ taken) } := by
  have hhalves := h.halves p
  have hwf := h.wellFormed p
  simp only [Endpoint.WellFormed, receiving] at hwf
  obtain ⟨hkeys, hother, taken, due, hlength, hreturned, hreceives⟩ := h.deliver_flow receiving deliver
  refine ⟨taken, hlength, hreturned, ⟨due, hreceives.sent.symm⟩, ?_⟩
  refine h.update { s.endpoint p with common := common, receiving := none }
    (by exact System.setEndpoint_self ..) (by exact System.setEndpoint_peer ..)
    ⟨hhalves.1, hhalves.2, hhalves.3, hhalves.4⟩ hkeys hwf.1 (h.own p) rfl ?_ ?_
  · obtain ⟨due, hflow⟩ := h.flow p
    refine ⟨due, ?_⟩
    show Flow S cfg key _ (channel.counter common _ _) _ _ (_ ++ s.wire p) (s.sent p)
      (Function.update s.received p (s.received p ++ taken) p.peer) _
    rw [Function.update_of_ne (Role.peer_ne p), hother]
    exact hflow
  · refine ⟨due, ?_⟩
    show Flow S cfg key _ _ (channel.counter common _ _) _
      ((s.endpoint p).readHalf.deviceIo.pending ++ s.wire p.peer) (s.sent p.peer)
      (Function.update s.received p (s.received p ++ taken) p) _
    rw [Function.update_self]
    exact hreceives

/-- With room for the message that is due, all that is taken is returned. -/
theorem Invariant.deliver {received : Received} {buf buf' : Bytes} {result : Res Nat} {common : C}
    (h : Invariant channel sessionId key s)
    (receiving : (s.endpoint p).receiving = some (.decoding received buf))
    (deliver : (s.endpoint p).readHalf.deliver lib (s.endpoint p).common received buf =
      (result, buf', common))
    (room : ∀ m, (s.sent p.peer)[(s.received p).length]? = some m → m.length ≤ buf.length) :
    Invariant channel sessionId key
      { s.setEndpoint p { s.endpoint p with common := common, receiving := none } with
        received := Function.update s.received p (s.received p ++ returned result buf') } := by
  obtain ⟨taken, hlength, hreturned, hprefix, htaken⟩ := h.take receiving deliver
  have hall : taken.filter (fun m => m.length ≤ buf.length) = taken := by
    apply List.filter_eq_self.mpr
    intro m hm
    have hone : taken.length ≤ 1 := by rw [hlength]; exact Option.length_toList_le
    obtain rfl : taken = [m] := by
      cases taken with
      | nil => cases hm
      | cons x rest =>
        obtain rfl : rest = [] := List.eq_nil_of_length_eq_zero (by simpa using hone)
        rw [List.mem_singleton.mp hm]
    obtain ⟨due, hsent⟩ := hprefix
    exact decide_eq_true (room m (by rw [← hsent]; simp))
  rwa [hreturned, hall]

/-! ### Runs -/

theorem Invariant.step {s' : System C} (h : Invariant channel sessionId key s)
    (hstep : Step lib cfg s s') : Invariant channel sessionId key s' := by
  cases hstep with
  | encode p idle encode => exact h.encode idle encode
  | transmit p sending transmit => exact h.transmit sending transmit
  | call p buf idle => exact h.call idle
  | read p receiving check reads more => exact h.read receiving check reads more
  | framed p receiving ends finish => exact h.framed receiving ends finish
  | deliver p receiving deliver room => exact h.deliver receiving deliver room

theorem Invariant.steps {s' : System C} (h : Invariant channel sessionId key s)
    (hsteps : Steps lib cfg s s') : Invariant channel sessionId key s' := by
  induction hsteps with
  | refl => exact h
  | tail _ hstep ih => exact ih.step hstep

/-- The packets of a party are refused by its own read half. -/
theorem Invariant.own_refused (h : Invariant channel sessionId key s) (p : Role) {w : Bytes}
    (hw : w ∈ s.packets p) (buf : Bytes) (used : Nat) :
    ((s.endpoint p).readHalf.decode lib (s.endpoint p).common w buf).1 ≠ .ok used := by
  obtain ⟨hread, hreadSession, -, -⟩ := h.halves p
  obtain ⟨n, m, rfl⟩ := h.own p w hw
  rw [← hread]
  exact decode_own channel (hreadSession ▸ h.keys p)

/-- The two sides of a negotiated session agree: on the session and its keys, and, in each direction,
on what was sent already. The sender's counter is ahead of the receiver's by the messages sent, and
the bytes buffered or on the wire are the frames of their packets. -/
structure Negotiated.Agreed (channel : SecuredChannel lib cfg S) (n : Negotiated C) (sessionId : Nat)
    (key : Key) : Prop where
  sessions : ∀ p, n.sessionId p = some sessionId
  keys : ∀ p, channel.key (n.common p) sessionId = some key
  wellFormed : ∀ p, (n.deviceIo p).WellFormed cfg
  packets : ∀ p, n.packets p =
    packetsFrom S key p.isRequester (channel.counter (n.common p.peer) sessionId p.isRequester) (n.sent p)
  short : ∀ p, ∀ w ∈ n.packets p, w.length ≤ cfg.senderBufferSize
  counters : ∀ p, channel.counter (n.common p) sessionId p.isRequester =
    channel.counter (n.common p.peer) sessionId p.isRequester + (n.sent p).length
  bytes : ∀ p, (n.deviceIo p.peer).pending ++ n.wire p = cfg.framing.encodeAll (n.packets p)

/-- `into_split` succeeds on both sides and keeps what has arrived already. -/
theorem Negotiated.intoSplit_ok (cfg : Config) {n : Negotiated C} (h : ∀ p, n.sessionId p = some sessionId) :
    ∃ s, n.intoSplit cfg = .ok s ∧ s.wire = n.wire ∧ s.sent = n.sent ∧ s.packets = n.packets ∧
      s.received = (fun _ => []) ∧
      ∀ p, s.endpoint p = ⟨n.common p, ⟨p.isRequester, sessionId, n.deviceIo p⟩,
        ⟨p.isRequester, sessionId, FramedStream.new cfg⟩, none, none⟩ := by
  have hrequester : n.requester.sessionId = some sessionId := h .requester
  have hresponder : n.responder.sessionId = some sessionId := h .responder
  unfold Negotiated.intoSplit SpdmRequester.intoSplit SpdmResponder.intoSplit splitHalves
  rw [hrequester, hresponder]
  refine ⟨_, rfl, rfl, rfl, rfl, rfl, fun p => ?_⟩
  cases p <;> rfl

theorem Negotiated.Agreed.invariant {n : Negotiated C} (h : n.Agreed channel sessionId key)
    (hwire : s.wire = n.wire) (hsent : s.sent = n.sent) (hpackets : s.packets = n.packets)
    (hreceived : s.received = fun _ => [])
    (hendpoint : ∀ p, s.endpoint p = ⟨n.common p, ⟨p.isRequester, sessionId, n.deviceIo p⟩,
      ⟨p.isRequester, sessionId, FramedStream.new cfg⟩, none, none⟩) :
    Invariant channel sessionId key s where
  halves := fun p => by rw [hendpoint]; exact ⟨rfl, rfl, rfl, rfl⟩
  keys := fun p => by rw [hendpoint]; exact h.keys p
  wellFormed := fun p => by rw [hendpoint]; exact h.wellFormed p
  own := by
    intro p w hw
    rw [hpackets, h.packets] at hw
    exact exists_of_mem_packetsFrom S hw
  flow := by
    intro p
    refine ⟨n.sent p, ?_⟩
    rw [hendpoint p, hendpoint p.peer, hwire, hsent, hreceived]
    refine ⟨rfl, ?_, ?_, ?_, nofun⟩
    · rw [← h.packets]
      exact h.bytes p
    · intro w hw
      rw [← h.packets] at hw
      exact Nat.lt_of_le_of_lt (h.short p w hw) cfg.senderFits
    · exact h.counters p

end Sessions

/-- **Main theorem.** Requester and responder have negotiated, and each has called `into_split`; messages
may have been sent before, and some of their bytes may be buffered. In every state that any order of
steps of the four halves leads to: what a party has received is what its peer has sent, up to some
point, and the bytes on their way to it are the frames of the packets of the rest; and none of
the packets it has sent is taken by its own read half. -/
theorem duplex_delivery {C Key : Type} (lib : Spdmlib C) (cfg : Config) (S : Sealing Key Bool)
    (channel : SecuredChannel lib cfg S) (n : Negotiated C) (sessionId : Nat) (key : Key)
    (agreed : n.Agreed channel sessionId key) :
    ∃ s₀, n.intoSplit cfg = .ok s₀ ∧ ∀ s, Steps lib cfg s₀ s → ∀ p : Role,
      s.received p <+: s.sent p.peer ∧
      (∃ due, s.sent p.peer = s.received p ++ due ∧
        (s.endpoint p).undecoded cfg ++ s.wire p.peer = cfg.framing.encodeAll (packetsFrom S key
          (!p.isRequester) (channel.counter (s.endpoint p).common sessionId (!p.isRequester)) due)) ∧
      ∀ w ∈ s.packets p, ∀ (buf : Bytes) (used : Nat),
        ((s.endpoint p).readHalf.decode lib (s.endpoint p).common w buf).1 ≠ .ok used := by
  obtain ⟨s₀, hsplit, hwire, hsent, hpackets, hreceived, hendpoint⟩ :=
    Negotiated.intoSplit_ok cfg agreed.sessions
  refine ⟨s₀, hsplit, fun s hsteps p => ?_⟩
  have hinv := (agreed.invariant hwire hsent hpackets hreceived hendpoint).steps hsteps
  obtain ⟨due, hflow⟩ := hinv.receives p
  exact ⟨⟨due, hflow.sent.symm⟩, ⟨due, hflow.sent, hflow.bytes⟩,
    fun w hw buf used => hinv.own_refused p hw buf used⟩

/-- The session when both have split. -/
def plainStart : System PlainContext where
  endpoint
    | .requester => ⟨⟨7, 0, 0⟩, ⟨true, 7, plainSession.requester.deviceIo⟩,
        ⟨true, 7, FramedStream.new plainConfig⟩, none, none⟩
    | .responder => ⟨⟨7, 0, 1⟩, ⟨false, 7, plainSession.responder.deviceIo⟩,
        ⟨false, 7, FramedStream.new plainConfig⟩, none, none⟩
  wire := plainSession.wire
  sent := plainSession.sent
  packets := plainSession.packets
  received := fun _ => []

theorem plainSession_agreed :
    plainSession.Agreed (plainChannel plainConfig) 7 () where
  sessions := fun p => by cases p <;> rfl
  keys := fun p => by cases p <;> rfl
  wellFormed := fun p => by cases p <;> exact ⟨by decide, by decide⟩
  packets := fun p => by cases p <;> rfl
  short := fun p => by cases p <;> decide
  counters := fun p => by cases p <;> rfl
  bytes := fun p => by cases p <;> decide +kernel

/-- The requester receives the byte that was on its way when it split, and sends three. -/
theorem plainSession_delivery :
    ∃ s₀ s, plainSession.intoSplit plainConfig = .ok s₀ ∧
      Steps (Spdmlib.plain plainConfig) plainConfig s₀ s ∧
      s.received .requester = [[8]] ∧ s.sent .requester = [[1, 2, 3]] ∧
      s.received .requester <+: s.sent .responder := by
  obtain ⟨s₀, hsplit, hdelivers⟩ := duplex_delivery (Spdmlib.plain plainConfig) plainConfig
    Sealing.plain (plainChannel plainConfig) plainSession 7 () plainSession_agreed
  obtain rfl : plainStart = s₀ := Except.ok.inj hsplit
  have hreceive := @receive_steps PlainContext Source (Spdmlib.plain plainConfig) plainConfig
    Source.reader Source.rest Source.readInto_reads plainStart .requester [0, 0] [8, 0]
    (Source.new [0, 2, 8] [.give 1]) ⟨[], [], [.ok [0], .ok [2, 8]]⟩ (.ok 1)
    ⟨true, 7, ⟨[0, 0, 0, 5, 1, 0, 0, 2, 8] ++ List.replicate 11 0, 0⟩⟩ ⟨7, 0, 1⟩ rfl rfl
    (by decide) (by decide +kernel) Res.safe_ok
  have hsend : ∀ s, Steps (Spdmlib.plain plainConfig) plainConfig plainStart s →
      (s.endpoint .requester).sending = none →
      (s.endpoint .requester).writeHalf.send (Spdmlib.plain plainConfig) plainConfig Write.string
        (s.endpoint .requester).common (s.wire .requester) [1, 2, 3] =
        (.ok (), ⟨7, 1, 1⟩, [0, 0, 0, 7, 1, 1, 0, 2, 1, 2, 3]) →
      ∃ s', Steps (Spdmlib.plain plainConfig) plainConfig plainStart s' ∧
        s'.received = s.received ∧ s'.sent .requester = s.sent .requester ++ [[1, 2, 3]] := by
    intro s hsteps hidle hcall
    obtain ⟨packet, hsend⟩ := send_steps hidle hcall
    exact ⟨_, hsteps.trans hsend.steps, rfl, by simp⟩
  obtain ⟨s, hsteps, hreceived, hsent⟩ := hsend _ hreceive rfl (by decide +kernel)
  exact ⟨plainStart, s, hsplit, hsteps, by rw [hreceived]; rfl, hsent, (hdelivers s hsteps .requester).1⟩

end RatsRs.Transport
