import RatsRs.Transport.Driven

/-! The tunnel of the example program.

On each side two threads forward between a local stream and the session: one reads the local stream
and sends what it got, the other receives and writes to the local stream. The
client's local stream is its ingress, the server's its upstream. Whatever the steps
of the four threads, and wherever a call fails, the bytes that come out at one end are a first part
of those that went in at the other; but the end of a stream does not come out: a thread that receives
never sees a message without bytes, which is what it takes for the end. -/
namespace RatsRs.Transport
open Lib

/-- What a thread may leave besides `Ok(())`: an error of a local stream, with its context, or
what a call of the session ended in. -/
inductive ThreadError where
  | io (context : Option String) (e : String)
  | fault (f : Fault)
  deriving DecidableEq, Repr

/-- The thread that forwards into the session. -/
inductive Outbound where
  | reading
  | sending (chunk : Bytes)
  | ended (result : Except ThreadError Unit)

/-- The thread that forwards out of it. -/
inductive Inbound where
  | receiving (buf : Bytes)
  | writing (bytes buf : Bytes)
  | ended (result : Except ThreadError Unit)

/-- The thread, and what its local stream has handed out. -/
structure Outgoing where
  thread : Outbound
  localRead : Bytes

/-- The thread, what its local stream has taken, and whether it was shut down for writing. -/
structure Incoming where
  thread : Inbound
  localOut : Bytes
  halfClosed : Bool

/-- `[0; 1024]`. -/
def chunkSize : Nat := 1024

def readFailure : Role → String
  | .requester => "Failed to read from ingress"
  | .responder => "Failed to read from upstream"

namespace Outgoing

/-- The local stream has answered a read; `socket` is the answer to `shutdown`, if it comes to that. -/
def read (o : Outgoing) (p : Role) (socket : Except String Unit) : Answer → Outgoing
  | .error e => { o with thread := .ended (.error (.io (some (readFailure p)) e)) }
  | .ok [] => { o with thread := .ended (Except.mapError .fault (WriteHalf.shutdown (some socket))) }
  | .ok bytes => ⟨.sending bytes, o.localRead ++ bytes⟩

/-- `send` has returned. -/
def sent (o : Outgoing) : Res Unit → Outgoing
  | .ok () => { o with thread := .reading }
  | .error e => { o with thread := .ended (.error (.fault e)) }

end Outgoing

namespace Incoming

/-- `receive` has returned, with this buffer; `socket` is the local stream's answer to its shutdown, if
it comes to that. -/
def received (i : Incoming) (buf : Bytes) (socket : Except String Unit) : Res Nat → Incoming
  | .error e => { i with thread := .ended (.error (.fault e)) }
  | .ok used =>
    if used = 0 then
      { i with thread := .ended (Except.mapError (.io none) socket), halfClosed := true }
    else
      match slice buf 0 used with
      | .error c => { i with thread := .ended (.error (.fault (.crash c))) }
      | .ok bytes => { i with thread := .writing bytes buf }

/-- `write_all` of the local stream has returned, with `front` written if it failed. -/
def wrote (i : Incoming) (bytes front buf : Bytes) : Except String Unit → Incoming
  | .ok () => { i with thread := .receiving buf, localOut := i.localOut ++ bytes }
  | .error e => { i with thread := .ended (.error (.io none e)), localOut := i.localOut ++ front }

end Incoming

structure Tunnel where
  outgoing : Role → Outgoing
  incoming : Role → Incoming

namespace Tunnel

def setOutgoing (t : Tunnel) (p : Role) (o : Outgoing) : Tunnel :=
  { t with outgoing := Function.update t.outgoing p o }

def setIncoming (t : Tunnel) (p : Role) (i : Incoming) : Tunnel :=
  { t with incoming := Function.update t.incoming p i }

@[simp] theorem setOutgoing_self (t : Tunnel) (p : Role) (o : Outgoing) :
    (t.setOutgoing p o).outgoing p = o := Function.update_self ..

@[simp] theorem setOutgoing_peer (t : Tunnel) (p : Role) (o : Outgoing) :
    (t.setOutgoing p o).outgoing p.peer = t.outgoing p.peer := Function.update_of_ne (Role.peer_ne p) ..

@[simp] theorem setIncoming_self (t : Tunnel) (p : Role) (i : Incoming) :
    (t.setIncoming p i).incoming p = i := Function.update_self ..

@[simp] theorem setIncoming_peer (t : Tunnel) (p : Role) (i : Incoming) :
    (t.setIncoming p i).incoming p.peer = t.incoming p.peer := Function.update_of_ne (Role.peer_ne p) ..

/-- A local stream answers: a read with no more than the buffer takes, a write that fails after some front
part of its bytes. -/
inductive Elsewhere (t : Tunnel) : Tunnel → Prop
  | read (p : Role) (socket : Except String Unit) {answer : Answer}
      (reading : (t.outgoing p).thread = .reading)
      (room : ∀ bytes, answer = .ok bytes → bytes.length ≤ chunkSize) :
      Elsewhere t (t.setOutgoing p ((t.outgoing p).read p socket answer))
  | write (p : Role) {bytes front buf : Bytes} (written : Except String Unit)
      (writing : (t.incoming p).thread = .writing bytes buf) (isFront : front <+: bytes) :
      Elsewhere t (t.setIncoming p ((t.incoming p).wrote bytes front buf written))

/-- The four threads. -/
def program : Program Tunnel where
  elsewhere := Elsewhere
  sends t p message := (t.outgoing p).thread = .sending message
  sent t p message result t' := (t.outgoing p).thread = .sending message ∧
    t' = t.setOutgoing p ((t.outgoing p).sent result)
  receives t p buf := (t.incoming p).thread = .receiving buf
  received t p buf result buf' t' := (t.incoming p).thread = .receiving buf ∧
    ∃ socket, t' = t.setIncoming p ((t.incoming p).received buf' socket result)

/-- The threads have started; the messages sent before were read from the local streams. -/
def start (sent : Role → List Bytes) : Tunnel where
  outgoing p := ⟨.reading, (sent p).flatten⟩
  incoming _ := ⟨.receiving (List.replicate chunkSize 0), [], false⟩

/-- A thread that has ended stays so. -/
theorem ended_next {t t' : Tunnel} {p : Role} (ended : ∃ r, (t.outgoing p).thread = .ended r)
    (next : program.Next t t') : ∃ r, (t'.outgoing p).thread = .ended r := by
  obtain ⟨r, hended⟩ := ended
  cases next with
  | elsewhere h =>
    cases h with
    | read q socket reading room =>
      rcases p.eq_or_peer q with rfl | rfl
      · rw [hended] at reading
        cases reading
      · exact ⟨r, by rw [setOutgoing_peer, hended]⟩
    | write q written writing isFront => exact ⟨r, hended⟩
  | sent q h =>
    obtain ⟨hsending, rfl⟩ := h
    rcases p.eq_or_peer q with rfl | rfl
    · rw [hended] at hsending
      cases hsending
    · exact ⟨r, by rw [setOutgoing_peer, hended]⟩
  | received q h =>
    obtain ⟨-, socket, rfl⟩ := h
    exact ⟨r, hended⟩

/-- The thread that sends ends with the first send that fails. -/
theorem stopsAtFailure : program.StopsAtFailure := by
  intro t p message e t' h
  obtain ⟨-, rfl⟩ := h
  refine Program.silent_of_kept (Q := fun t => ∃ r, (t.outgoing p).thread = .ended r)
    ⟨.error (.fault e), by rw [setOutgoing_self]; rfl⟩ ended_next ?_
  intro t message hended hsends
  obtain ⟨r, hended⟩ := hended
  have hsends : (t.outgoing p).thread = .sending message := hsends
  rw [hended] at hsends
  cases hsends

end Tunnel

/-! ### What each thread accounts for -/

/-- All that was read was sent, but for what is in hand: at most one chunk when the thread has ended. -/
def Outgoing.Accounts (o : Outgoing) (sent : List Bytes) (failed : Option Bytes) : Prop :=
  match o.thread with
  | .reading => failed = none ∧ o.localRead = sent.flatten
  | .sending chunk => failed = none ∧ o.localRead = sent.flatten ++ chunk ∧
      chunk ≠ [] ∧ chunk.length ≤ chunkSize
  | .ended _ => ∃ left, o.localRead = (sent ++ failed.toList).flatten ++ left ∧ left.length ≤ chunkSize

/-- What was received is written or in hand. A thread that has ended has failed. -/
def Incoming.Accounts (i : Incoming) (received : List Bytes) : Prop :=
  i.halfClosed = false ∧
  match i.thread with
  | .receiving buf => buf.length = chunkSize ∧ i.localOut = received.flatten
  | .writing bytes buf => buf.length = chunkSize ∧ i.localOut ++ bytes = received.flatten
  | .ended result => (∃ e, result = .error e) ∧ i.localOut <+: received.flatten

/-- What every step of the four threads keeps. -/
structure Tunnel.Invariant {C : Type} (s : Driven C Tunnel) : Prop where
  chunks : ∀ p, ∀ m ∈ s.sent p, m ≠ [] ∧ m.length ≤ chunkSize
  buffers : ∀ p, ∀ room ∈ s.buffers p, room = chunkSize
  outgoing : ∀ p, (s.program.outgoing p).Accounts (s.session.sent p) (s.failed p)
  incoming : ∀ p, (s.program.incoming p).Accounts (s.session.received p)

namespace Outgoing
variable {o : Outgoing} {sent : List Bytes} {failed : Option Bytes}

theorem Accounts.sending {chunk : Bytes} (h : o.Accounts sent failed) (hthread : o.thread = .sending chunk) :
    failed = none ∧ o.localRead = sent.flatten ++ chunk ∧ chunk ≠ [] ∧ chunk.length ≤ chunkSize := by
  unfold Accounts at h
  rwa [hthread] at h

theorem Accounts.read (h : o.Accounts sent failed) (p : Role) (socket : Except String Unit)
    {answer : Answer} (reading : o.thread = .reading)
    (room : ∀ bytes, answer = .ok bytes → bytes.length ≤ chunkSize) :
    (o.read p socket answer).Accounts sent failed := by
  unfold Accounts at h
  rw [reading] at h
  obtain ⟨hfailed, hread⟩ := h
  have hall : o.localRead = (sent ++ failed.toList).flatten ++ [] := by
    rw [hfailed, Option.toList_none, List.append_nil, List.append_nil, hread]
  rcases answer with e | _ | ⟨x, bytes⟩
  · exact ⟨[], hall, Nat.zero_le _⟩
  · exact ⟨[], hall, Nat.zero_le _⟩
  · exact ⟨hfailed, by rw [← hread]; rfl, List.cons_ne_nil x bytes, room _ rfl⟩

end Outgoing

namespace Incoming
variable {i : Incoming} {messages : List Bytes}

theorem Accounts.wrote (h : i.Accounts messages) {bytes front buf : Bytes} (written : Except String Unit)
    (writing : i.thread = .writing bytes buf) (isFront : front <+: bytes) :
    (i.wrote bytes front buf written).Accounts messages := by
  obtain ⟨hopen, h⟩ := h
  rw [writing] at h
  obtain ⟨hbuf, hout⟩ := h
  cases written with
  | ok u => exact ⟨hopen, hbuf, hout⟩
  | error e =>
    refine ⟨hopen, ⟨_, rfl⟩, ?_⟩
    rw [← hout]
    exact (List.prefix_append_right_inj _).mpr isFront

/-- The thread that receives gets bytes, or an error: it never takes the branch of a closed connection. -/
theorem Accounts.received (h : i.Accounts messages) {buf buf' : Bytes} {result : Res Nat}
    (socket : Except String Unit) (receiving : i.thread = .receiving buf)
    (within : ∀ used, result = .ok used → used ≤ buf'.length ∧ buf'.length = buf.length)
    (bytes : ∀ m ∈ returned result buf', m ≠ []) :
    (i.received buf' socket result).Accounts (messages ++ returned result buf') := by
  obtain ⟨hopen, h⟩ := h
  rw [receiving] at h
  obtain ⟨hbuf, hout⟩ := h
  cases result with
  | error e =>
    refine ⟨hopen, ⟨_, rfl⟩, ?_⟩
    show i.localOut <+: _
    rw [hout, returned, List.append_nil]
  | ok used =>
    obtain ⟨hused, hlength⟩ := within used rfl
    have hne : used ≠ 0 := by
      rintro rfl
      exact bytes _ (List.mem_singleton_self _) rfl
    have hslice : slice buf' 0 used = .ok (buf'.take used) := by
      rw [slice_ok (Nat.zero_le used) hused, List.drop_zero, Nat.sub_zero]
    simp only [Incoming.received, if_neg hne, hslice]
    refine ⟨hopen, hlength.trans hbuf, ?_⟩
    show i.localOut ++ buf'.take used = _
    rw [hout, returned, List.flatten_append, List.flatten_singleton]

end Incoming

section Runs
variable {C Key : Type} {lib : Spdmlib C} {cfg : Config} {S : Sealing Key Bool}
  {channel : SecuredChannel lib cfg S} {sessionId : Nat} {key : Key} {s s' : Driven C Tunnel}
  {g : Completion} {p : Role}

/-- Chunks are messages that fit the buffers of the threads that receive. -/
theorem Tunnel.Invariant.received (h : Tunnel.Invariant s)
    (acc : Accounted Tunnel.program channel sessionId key s g) (p : Role) :
    s.session.received p = (s.sent p.peer).take (s.buffers p).length := by
  rw [(acc.due p).2.1]
  apply Roomy.fitting
  intro x hx
  obtain ⟨hmessage, hroom⟩ := List.of_mem_zip hx
  rw [h.buffers p x.2 hroom]
  exact (h.chunks p.peer x.1 hmessage).2

theorem Tunnel.Invariant.elsewhere {t : Tunnel} (h : Tunnel.Invariant s)
    (step : Tunnel.Elsewhere s.program t) : Tunnel.Invariant { s with program := t } := by
  cases step with
  | read p socket reading room =>
    refine ⟨h.chunks, h.buffers, Role.both p ?_ ?_, h.incoming⟩
    · rw [Tunnel.setOutgoing_self]
      exact (h.outgoing p).read p socket reading room
    · rw [Tunnel.setOutgoing_peer]
      exact h.outgoing p.peer
  | write p written writing isFront =>
    refine ⟨h.chunks, h.buffers, h.outgoing, Role.both p ?_ ?_⟩
    · rw [Tunnel.setIncoming_self]
      exact (h.incoming p).wrote written writing isFront
    · rw [Tunnel.setIncoming_peer]
      exact h.incoming p.peer

theorem Tunnel.Invariant.transmit {message packet wire : Bytes} {t : Tunnel} (h : Tunnel.Invariant s)
    (sent : Tunnel.program.sent s.program p message (.ok ()) t) :
    Tunnel.Invariant
      { s with
        session :=
          { (s.session.setEndpoint p
              { s.session.endpoint p with sending := none }).setWire p wire with
            sent := Function.update s.session.sent p (s.session.sent p ++ [message])
            packets := Function.update s.session.packets p (s.session.packets p ++ [packet]) }
        program := t } := by
  obtain ⟨hthread, rfl⟩ := sent
  obtain ⟨hfailed, hread, hne, hshort⟩ := (h.outgoing p).sending hthread
  refine ⟨Role.both p ?_ ?_, h.buffers, Role.both p ?_ ?_, h.incoming⟩
  · intro m hm
    have hm : m ∈ Function.update s.session.sent p (s.session.sent p ++ [message]) p ++
      (s.failed p).toList := hm
    rw [Function.update_self, hfailed, Option.toList_none, List.append_nil] at hm
    rcases List.mem_append.mp hm with hold | hnew
    · exact h.chunks p m (List.mem_append_left _ hold)
    · rw [List.mem_singleton.mp hnew]
      exact ⟨hne, hshort⟩
  · intro m hm
    have hm : m ∈ Function.update s.session.sent p (s.session.sent p ++ [message]) p.peer ++
      (s.failed p.peer).toList := hm
    rw [Function.update_of_ne (Role.peer_ne p)] at hm
    exact h.chunks p.peer m hm
  · show (((s.program.setOutgoing p _).outgoing p)).Accounts
      (Function.update s.session.sent p (s.session.sent p ++ [message]) p) (s.failed p)
    rw [Tunnel.setOutgoing_self, Function.update_self]
    refine ⟨hfailed, ?_⟩
    show (s.program.outgoing p).localRead = _
    rw [hread, List.flatten_append, List.flatten_singleton]
  · show (((s.program.setOutgoing p _).outgoing p.peer)).Accounts
      (Function.update s.session.sent p (s.session.sent p ++ [message]) p.peer) (s.failed p.peer)
    rw [Tunnel.setOutgoing_peer, Function.update_of_ne (Role.peer_ne p)]
    exact h.outgoing p.peer

/-- A send that fails is the end of its thread: the chunk is gone if nothing of it got to the socket. -/
theorem Tunnel.Invariant.sendFails {message : Bytes} {e : Fault} {t : Tunnel} {session : System C}
    {failed : Option Bytes} (h : Tunnel.Invariant s)
    (sent : Tunnel.program.sent s.program p message (.error e) t)
    (unsent : session.sent = s.session.sent) (received : session.received = s.session.received)
    (gone : failed = none ∨ failed = some message) :
    Tunnel.Invariant
      { s with session := session, program := t, failed := Function.update s.failed p failed } := by
  obtain ⟨hthread, rfl⟩ := sent
  obtain ⟨hfailed, hread, hne, hshort⟩ := (h.outgoing p).sending hthread
  refine ⟨Role.both p ?_ ?_, h.buffers, Role.both p ?_ ?_, ?_⟩
  · intro m hm
    have hm : m ∈ session.sent p ++ (Function.update s.failed p failed p).toList := hm
    rw [Function.update_self, unsent] at hm
    rcases List.mem_append.mp hm with hold | hnew
    · exact h.chunks p m (List.mem_append_left _ hold)
    · rcases gone with rfl | rfl
      · cases hnew
      · rw [List.mem_singleton.mp hnew]
        exact ⟨hne, hshort⟩
  · intro m hm
    have hm : m ∈ session.sent p.peer ++ (Function.update s.failed p failed p.peer).toList := hm
    rw [Function.update_of_ne (Role.peer_ne p), unsent] at hm
    exact h.chunks p.peer m hm
  · show ((s.program.setOutgoing p _).outgoing p).Accounts (session.sent p)
      (Function.update s.failed p failed p)
    rw [Tunnel.setOutgoing_self, Function.update_self, unsent]
    rcases gone with rfl | rfl
    · refine ⟨message, ?_, hshort⟩
      rw [Option.toList_none, List.append_nil]
      exact hread
    · refine ⟨[], ?_, Nat.zero_le _⟩
      rw [Option.toList_some, List.flatten_append, List.flatten_singleton, List.append_nil]
      exact hread
  · show ((s.program.setOutgoing p _).outgoing p.peer).Accounts (session.sent p.peer)
      (Function.update s.failed p failed p.peer)
    rw [Tunnel.setOutgoing_peer, Function.update_of_ne (Role.peer_ne p), unsent]
    exact h.outgoing p.peer
  · intro r
    show (s.program.incoming r).Accounts (session.received r)
    rw [received]
    exact h.incoming r

theorem Tunnel.Invariant.deliver {received : Received} {buf buf' : Bytes} {result : Res Nat} {common : C}
    {t : Tunnel} (h : Tunnel.Invariant s)
    (acc : Accounted Tunnel.program channel sessionId key s g)
    (receiving : (s.session.endpoint p).receiving = some (.decoding received buf))
    (deliver : (s.session.endpoint p).readHalf.deliver lib (s.session.endpoint p).common received buf =
      (result, buf', common))
    (returns : Tunnel.program.received s.program p buf result buf' t) :
    Tunnel.Invariant
      { s with
        session :=
          { s.session.setEndpoint p
              { s.session.endpoint p with common := common, receiving := none } with
            received := Function.update s.session.received p
              (s.session.received p ++ returned result buf') }
        buffers := Function.update s.buffers p
          (s.buffers p ++ List.replicate received.packet?.toList.length buf.length)
        program := t } := by
  obtain ⟨g', hafter⟩ := acc.deliver receiving deliver returns
  obtain ⟨hthread, socket, rfl⟩ := returns
  have hbuf : buf.length = chunkSize := by
    have hincoming := (h.incoming p).2
    rw [hthread] at hincoming
    exact hincoming.1
  -- what is returned was sent, so that it has bytes
  have hbytes : ∀ m ∈ returned result buf', m ≠ [] := by
    intro m hm
    have hreceived := (hafter.due p).2.1
    have hreceived : Function.update s.session.received p
      (s.session.received p ++ returned result buf') p = fitting (s.sent p.peer) _ := hreceived
    rw [Function.update_self] at hreceived
    have hmem : m ∈ fitting (s.sent p.peer) _ := hreceived ▸ List.mem_append_right _ hm
    exact (h.chunks p.peer m
      ((fitting_sublist _ _).subset (List.mem_append_left _ hmem))).1
  refine ⟨h.chunks, Role.both p ?_ ?_, h.outgoing, Role.both p ?_ ?_⟩
  · intro room hroom
    have hroom : room ∈ Function.update s.buffers p (s.buffers p ++ List.replicate _ buf.length) p := hroom
    rw [Function.update_self] at hroom
    rcases List.mem_append.mp hroom with hold | hnew
    · exact h.buffers p room hold
    · rw [(List.mem_replicate.mp hnew).2, hbuf]
  · intro room hroom
    have hroom : room ∈ Function.update s.buffers p (s.buffers p ++ List.replicate _ buf.length) p.peer :=
      hroom
    rw [Function.update_of_ne (Role.peer_ne p)] at hroom
    exact h.buffers p.peer room hroom
  · show ((s.program.setIncoming p _).incoming p).Accounts
      (Function.update s.session.received p (s.session.received p ++ returned result buf') p)
    rw [Tunnel.setIncoming_self, Function.update_self]
    refine (h.incoming p).received socket hthread ?_ hbytes
    rintro used rfl
    exact deliver_within channel deliver
  · show ((s.program.setIncoming p _).incoming p.peer).Accounts
      (Function.update s.session.received p (s.session.received p ++ returned result buf') p.peer)
    rw [Tunnel.setIncoming_peer, Function.update_of_ne (Role.peer_ne p)]
    exact h.incoming p.peer

theorem Tunnel.Invariant.step (h : Tunnel.Invariant s)
    (acc : Accounted Tunnel.program channel sessionId key s g)
    (hstep : DrivenStep lib cfg Tunnel.program s s') : Tunnel.Invariant s' := by
  cases hstep with
  | elsewhere next => exact h.elsewhere next
  | encode p sends idle encode => exact ⟨h.chunks, h.buffers, h.outgoing, h.incoming⟩
  | @encodeFails p message e common t sends idle encode sent =>
    have hfailed := ((h.outgoing p).sending sent.1).1
    have hends : Tunnel.Invariant
        { s with
          session := s.session.setEndpoint p { s.session.endpoint p with common := common }
          program := t
          failed := Function.update s.failed p none } := h.sendFails sent rfl rfl (.inl rfl)
    rwa [← hfailed, Function.update_eq_self] at hends
  | transmit p sending transmit sent => exact h.transmit sent
  | transmitFails p keeps sending transmit put sent => exact h.sendFails sent rfl rfl (.inr rfl)
  | call p receives idle => exact ⟨h.chunks, h.buffers, h.outgoing, h.incoming⟩
  | read p receiving check reads more => exact ⟨h.chunks, h.buffers, h.outgoing, h.incoming⟩
  | framed p receiving ends finish => exact ⟨h.chunks, h.buffers, h.outgoing, h.incoming⟩
  | deliver p receiving deliver returns => exact h.deliver acc receiving deliver returns

theorem Tunnel.Invariant.steps (keeps : channel.KeptOnFailure) (h : Tunnel.Invariant s)
    (acc : Accounted Tunnel.program channel sessionId key s g)
    (hsteps : DrivenSteps lib cfg Tunnel.program s s') : Tunnel.Invariant s' := by
  induction hsteps with
  | refl => exact h
  | tail hruns hstep ih =>
    obtain ⟨g', hbetween⟩ := acc.steps Tunnel.stopsAtFailure keeps hruns
    exact ih.step hbetween hstep

theorem Tunnel.invariant_start {session : System C} {sent : Role → List Bytes}
    (hsent : session.sent = sent) (hreceived : session.received = fun _ => [])
    (chunks : ∀ p, ∀ m ∈ sent p, m ≠ [] ∧ m.length ≤ chunkSize) :
    Tunnel.Invariant (Driven.start session (Tunnel.start sent)) where
  chunks := by
    intro p m hm
    have hm : m ∈ session.sent p ++ [] := hm
    rw [hsent, List.append_nil] at hm
    exact chunks p m hm
  buffers := fun p room hroom => absurd hroom List.not_mem_nil
  outgoing := by
    intro p
    show (Outgoing.mk .reading (sent p).flatten).Accounts (session.sent p) none
    rw [hsent]
    exact ⟨rfl, rfl⟩
  incoming := by
    intro p
    show (Incoming.mk (.receiving (List.replicate chunkSize 0)) [] false).Accounts (session.received p)
    rw [hreceived]
    exact ⟨rfl, List.length_replicate, rfl⟩

end Runs

/-- What a thread has received and not written yet. -/
def Inbound.inHand : Inbound → Bytes
  | .writing bytes _ => bytes
  | .receiving _ | .ended _ => []

/-- What the reading thread has in hand or has lost. -/
theorem Outgoing.Accounts.left {o : Outgoing} {sent : List Bytes} {failed : Option Bytes}
    (h : o.Accounts sent failed) :
    ∃ left, o.localRead = (sent ++ failed.toList).flatten ++ left ∧ left.length ≤ chunkSize := by
  unfold Accounts at h
  split at h
  · obtain ⟨hfailed, hread⟩ := h
    exact ⟨[], by simp [hfailed, hread], Nat.zero_le _⟩
  · rename_i chunk hthread
    obtain ⟨hfailed, hread, -, hshort⟩ := h
    exact ⟨chunk, by simp [hfailed, hread], hshort⟩
  · exact h

theorem Incoming.Accounts.written {i : Incoming} {messages : List Bytes} (h : i.Accounts messages) :
    i.localOut <+: messages.flatten ∧
      ((∀ result, i.thread ≠ .ended result) → messages.flatten = i.localOut ++ i.thread.inHand) := by
  obtain ⟨-, h⟩ := h
  cases hthread : i.thread with
  | receiving buf =>
    rw [hthread] at h
    rw [← h.2]
    exact ⟨List.prefix_refl _, fun _ => (List.append_nil _).symm⟩
  | writing bytes buf =>
    rw [hthread] at h
    rw [← h.2]
    exact ⟨List.prefix_append _ _, fun _ => rfl⟩
  | ended result =>
    rw [hthread] at h
    exact ⟨h.2, fun hruns => absurd rfl (hruns result)⟩

section Tunnels
variable {C Key : Type} (lib : Spdmlib C) (cfg : Config) (S : Sealing Key Bool)
  (channel : SecuredChannel lib cfg S) (n : Negotiated C) (sessionId : Nat) (key : Key)
  (agreed : n.Agreed channel sessionId key) (keeps : channel.KeptOnFailure)
  (chunks : ∀ p, ∀ m ∈ n.sent p, m ≠ [] ∧ m.length ≤ chunkSize)
include agreed keeps chunks

/-- **Main theorem.** Both sides of a tunnel have negotiated and called `into_split`, and one may have
forwarded chunks before the other. In every state that any order of steps of the four threads leads to,
whatever calls have failed: what one end has written to its local stream is a first part of what the
other has read from its own. All that was read there was received here, is due, with the frames of its
packets on their way (the last one cut short only by a send that failed), or is less than a buffer
that the reading thread has in hand, or had when it ended; and as long as the thread runs, all that was
received is written or in hand. -/
theorem tunnel_faithful :
    ∃ s₀, n.intoSplit cfg = .ok s₀ ∧
      ∀ s, DrivenSteps lib cfg Tunnel.program (Driven.start s₀ (Tunnel.start n.sent)) s → ∀ p : Role,
        (s.program.incoming p).localOut <+: (s.program.outgoing p.peer).localRead ∧
        (∃ due left tail,
          (s.program.outgoing p.peer).localRead =
            (s.session.received p).flatten ++ due.flatten ++ left ∧
          left.length ≤ chunkSize ∧
          (s.session.endpoint p).undecoded cfg ++ s.session.wire p.peer ++ tail =
            cfg.framing.encodeAll (packetsFrom S key (!p.isRequester)
              (channel.counter (s.session.endpoint p).common sessionId (!p.isRequester)) due) ∧
          (s.failed p.peer = none → tail = [])) ∧
        ((∀ result, (s.program.incoming p).thread ≠ .ended result) →
          (s.session.received p).flatten =
            (s.program.incoming p).localOut ++ (s.program.incoming p).thread.inHand) := by
  obtain ⟨s₀, hsplit, hsent, hreceived, -, hstart⟩ :=
    accounted_start (P := Tunnel.program) agreed (Tunnel.start n.sent)
  refine ⟨s₀, hsplit, fun s hsteps p => ?_⟩
  have hinv := (Tunnel.invariant_start hsent hreceived chunks).steps keeps hstart hsteps
  obtain ⟨g, hacc⟩ := hstart.steps Tunnel.stopsAtFailure keeps hsteps
  obtain ⟨left, hread, hleft⟩ := (hinv.outgoing p.peer).left
  obtain ⟨hwritten, hruns⟩ := (hinv.incoming p).written
  have hall : (s.program.outgoing p.peer).localRead = (s.session.received p).flatten ++
      ((s.sent p.peer).drop (s.buffers p).length).flatten ++ left := by
    rw [hinv.received hacc p, ← List.flatten_append, List.take_append_drop]
    exact hread
  refine ⟨?_, ⟨_, left, g.tails p.peer, hall, hleft, (hacc.due p).2.2, hacc.tails p.peer⟩, hruns⟩
  rw [hall, List.append_assoc]
  exact hwritten.trans (List.prefix_append _ _)

/-- **Main theorem.** In no such state has a local stream been shut down for writing, and a thread that
receives has ended only with an error: the branch for a connection that was closed is never taken. -/
theorem tunnel_never_closes :
    ∃ s₀, n.intoSplit cfg = .ok s₀ ∧
      ∀ s, DrivenSteps lib cfg Tunnel.program (Driven.start s₀ (Tunnel.start n.sent)) s → ∀ p : Role,
        (s.program.incoming p).halfClosed = false ∧
        ∀ result, (s.program.incoming p).thread = .ended result → ∃ e, result = .error e := by
  obtain ⟨s₀, hsplit, hsent, hreceived, -, hstart⟩ :=
    accounted_start (P := Tunnel.program) agreed (Tunnel.start n.sent)
  refine ⟨s₀, hsplit, fun s hsteps p => ?_⟩
  obtain ⟨hopen, h⟩ :=
    ((Tunnel.invariant_start hsent hreceived chunks).steps keeps hstart hsteps).incoming p
  refine ⟨hopen, fun result hended => ?_⟩
  rw [hended] at h
  exact h.1

end Tunnels

/-- The steps of a tunnel over the plain session. -/
abbrev PlainTunnel : Driven PlainContext Tunnel → Driven PlainContext Tunnel → Prop :=
  DrivenSteps (Spdmlib.plain plainConfig) plainConfig Tunnel.program

theorem plainSession_chunks : ∀ p, ∀ m ∈ plainSession.sent p, m ≠ [] ∧ m.length ≤ chunkSize := by
  intro p m hm
  cases p with
  | requester => cases hm
  | responder =>
    obtain rfl := List.mem_singleton.mp hm
    decide

set_option maxRecDepth 10000 in
/-- The requester receives the byte that was on its way when it split, and writes it out. -/
theorem plainTunnel_runs :
    ∃ s, PlainTunnel (Driven.start plainStart (Tunnel.start plainSession.sent)) s ∧
      (s.program.incoming .requester).localOut = [8] ∧
      s.program.outgoing .responder = ⟨.reading, [8]⟩ := by
  have hcall : PlainTunnel (Driven.start plainStart (Tunnel.start plainSession.sent)) _ :=
    .single (@DrivenStep.call _ _ _ _ _ _ .requester (List.replicate chunkSize 0) rfl rfl)
  have hread := hcall.tail (@DrivenStep.read _ _ _ _ _ _ .requester
    ⟨[0, 0, 0, 5, 1, 0] ++ List.replicate 14 0, 6, 0⟩
    ⟨[0, 0, 0, 5, 1, 0] ++ List.replicate 14 0, 6, 9⟩
    ⟨[0, 0, 0, 5, 1, 0, 0, 2, 8] ++ List.replicate 11 0, 9, 9⟩ _ _ _ _
    rfl rfl (.give 3 (by decide)) rfl)
  have hframed := hread.tail (@DrivenStep.framed _ _ _ _ _ _ .requester _
    ⟨[0, 0, 0, 5, 1, 0, 0, 2, 8] ++ List.replicate 11 0, 9, 9⟩ _ _ true
    ⟨.ok 5, [1, 0, 0, 2, 8] ++ List.replicate 11 0,
      ⟨[0, 0, 0, 5, 1, 0, 0, 2, 8] ++ List.replicate 11 0, 0⟩⟩ rfl (.enough rfl) rfl)
  have hdeliver := hframed.tail (@DrivenStep.deliver _ _ _ _ _ _ .requester
    ⟨.ok 5, [1, 0, 0, 2, 8] ++ List.replicate 11 0,
      ⟨[0, 0, 0, 5, 1, 0, 0, 2, 8] ++ List.replicate 11 0, 0⟩⟩ (List.replicate chunkSize 0)
    ([8] ++ List.replicate 1023 0) (.ok 1) ⟨7, 0, 1⟩ _ rfl (by decide +kernel) ⟨rfl, .ok (), rfl⟩)
  have hwrite := hdeliver.tail (.elsewhere (@Tunnel.Elsewhere.write _ .requester [8] []
    ([8] ++ List.replicate 1023 0) (.ok ()) rfl (List.nil_prefix ..)))
  exact ⟨_, hwrite, rfl, rfl⟩

theorem plainTunnel_faithful :
    ∃ s₀ s, plainSession.intoSplit plainConfig = .ok s₀ ∧
      PlainTunnel (Driven.start s₀ (Tunnel.start plainSession.sent)) s ∧
      (s.program.incoming .requester).localOut = [8] ∧
      (s.program.incoming .requester).localOut <+: (s.program.outgoing .responder).localRead := by
  obtain ⟨s₀, hsplit, hfaithful⟩ := tunnel_faithful (Spdmlib.plain plainConfig) plainConfig
    Sealing.plain (plainChannel plainConfig) plainSession 7 () plainSession_agreed
    (plain_keptOnFailure plainConfig) plainSession_chunks
  obtain rfl : plainStart = s₀ := Except.ok.inj hsplit
  obtain ⟨s, hsteps, hout, -⟩ := plainTunnel_runs
  exact ⟨plainStart, s, hsplit, hsteps, hout, (hfaithful s hsteps .requester).1⟩

theorem plainTunnel_never_closes :
    ∃ s₀ s, plainSession.intoSplit plainConfig = .ok s₀ ∧
      PlainTunnel (Driven.start s₀ (Tunnel.start plainSession.sent)) s ∧
      (s.program.incoming .requester).localOut = [8] ∧
      (s.program.incoming .requester).halfClosed = false := by
  obtain ⟨s₀, hsplit, hopen⟩ := tunnel_never_closes (Spdmlib.plain plainConfig) plainConfig
    Sealing.plain (plainChannel plainConfig) plainSession 7 () plainSession_agreed
    (plain_keptOnFailure plainConfig) plainSession_chunks
  obtain rfl : plainStart = s₀ := Except.ok.inj hsplit
  obtain ⟨s, hsteps, hout, -⟩ := plainTunnel_runs
  exact ⟨plainStart, s, hsplit, hsteps, hout, (hopen s hsteps .requester).1⟩

end RatsRs.Transport
