import RatsRs.Transport.Driven

/-! The echo of the example program.

The client sends eight random bytes, receives, and asserts that it got them back, 128 times; the
server sends back what it receives. Neither of the assertions fails, nor is a slice out of range, whatever
calls fail: what the client receives are the first of the messages that it has sent. While both run
there is never more than one message anywhere, and it is the one the client waits for. -/
namespace RatsRs.Transport
open Lib

/-- `0..128`. -/
def rounds : Nat := 128

/-- The bytes of a message of the client. -/
def expectedLen : Nat := 8

inductive EchoClient where
  | looping (i : Nat)
  | sending (i : Nat) (expected : Bytes)
  | receiving (i : Nat) (expected : Bytes)
  | ended (result : Res Unit)

namespace EchoClient

/-- After the last round: `shutdown`, and what it returns. -/
def finish (socket : Except String Unit) : EchoClient := .ended (WriteHalf.shutdown (some socket))

def sent (i : Nat) (expected : Bytes) : Res Unit → EchoClient
  | .ok () => .receiving i expected
  | .error e => .ended (.error e)

/-- `receive` has returned, with the front of the buffer that it was given. -/
def received (i : Nat) (expected buf : Bytes) : Res Nat → EchoClient
  | .ok used =>
    if expectedLen = used ∧ expected = buf then .looping (i + 1) else .ended (.error (.crash .panic))
  | .error e => .ended (.error e)

/-- The message a client waits for. -/
def awaited : EchoClient → List Bytes
  | .receiving _ expected => [expected]
  | .looping _ | .sending _ _ | .ended _ => []

end EchoClient

inductive EchoServer where
  | looping (i : Nat) (buf : Bytes)
  | sending (i : Nat) (chunk buf : Bytes)
  | ended (result : Res Unit)

namespace EchoServer

def finish (socket : Except String Unit) : EchoServer := .ended (WriteHalf.shutdown (some socket))

def received (i : Nat) (buf : Bytes) : Res Nat → EchoServer
  | .ok used =>
    match slice buf 0 used with
    | .ok chunk => .sending i chunk buf
    | .error c => .ended (.error (.crash c))
  | .error e => .ended (.error e)

def sent (i : Nat) (buf : Bytes) : Res Unit → EchoServer
  | .ok () => .looping (i + 1) buf
  | .error e => .ended (.error e)

/-- The message a server has received and not sent back yet. -/
def inHand : EchoServer → List Bytes
  | .sending _ chunk _ => [chunk]
  | .looping _ _ | .ended _ => []

end EchoServer

structure Echo where
  client : EchoClient
  server : EchoServer

namespace Echo

/-- The client fills its next message; a loop is over. -/
inductive Elsewhere (a : Echo) : Echo → Prop
  | fill {i : Nat} {expected : Bytes} (looping : a.client = .looping i) (more : i < rounds)
      (length : expected.length = expectedLen) :
      Elsewhere a { a with client := .sending i expected }
  | clientDone {i : Nat} (socket : Except String Unit) (looping : a.client = .looping i)
      (last : ¬ i < rounds) : Elsewhere a { a with client := .finish socket }
  | serverDone {i : Nat} {buf : Bytes} (socket : Except String Unit)
      (looping : a.server = .looping i buf) (last : ¬ i < rounds) :
      Elsewhere a { a with server := .finish socket }

/-- The requester is the client. It receives into the front of a fresh buffer, the server always into
the same one. -/
def program : Program Echo where
  elsewhere := Elsewhere
  sends a p message := match p with
    | .requester => ∃ i, a.client = .sending i message
    | .responder => ∃ i buf, a.server = .sending i message buf
  sent a p message result a' := match p with
    | .requester => ∃ i, a.client = .sending i message ∧ a' = { a with client := .sent i message result }
    | .responder => ∃ i buf, a.server = .sending i message buf ∧
        a' = { a with server := .sent i buf result }
  receives a p buf := match p with
    | .requester => ∃ i expected, a.client = .receiving i expected ∧ buf = List.replicate expectedLen 0
    | .responder => ∃ i, a.server = .looping i buf ∧ i < rounds
  received a p buf result buf' a' := match p with
    | .requester => ∃ i expected, a.client = .receiving i expected ∧ buf = List.replicate expectedLen 0 ∧
        a' = { a with client := .received i expected buf' result }
    | .responder => ∃ i, a.server = .looping i buf ∧ i < rounds ∧
        a' = { a with server := .received i buf' result }

/-- The client may have sent its first message before the server has split. -/
def start (maxSpdmMsgSize : Nat) (sent : List Bytes) : Echo where
  client := match sent with
    | [] => .looping 0
    | expected :: _ => .receiving 0 expected
  server := .looping 0 (List.replicate maxSpdmMsgSize 0)

/-- Has the thread of a party ended? -/
def Ended (a : Echo) : Role → Prop
  | .requester => ∃ r, a.client = .ended r
  | .responder => ∃ r, a.server = .ended r

theorem Ended.not_sends {a : Echo} {p : Role} {message : Bytes} (h : a.Ended p) :
    ¬ program.sends a p message := by
  intro hsends
  cases p with
  | requester =>
    obtain ⟨r, hended⟩ := h
    obtain ⟨i, hsending⟩ := hsends
    rw [hended] at hsending
    cases hsending
  | responder =>
    obtain ⟨r, hended⟩ := h
    obtain ⟨i, buf, hsending⟩ := hsends
    rw [hended] at hsending
    cases hsending

/-- A thread that has ended stays so. -/
theorem Ended.next {a a' : Echo} {p : Role} (h : a.Ended p) (next : program.Next a a') : a'.Ended p := by
  cases p with
  | requester =>
    obtain ⟨r, hended⟩ := h
    refine ⟨r, ?_⟩
    cases next with
    | elsewhere h =>
      cases h with
      | fill looping more length =>
        rw [hended] at looping
        cases looping
      | clientDone socket looping last =>
        rw [hended] at looping
        cases looping
      | serverDone socket looping last => exact hended
    | sent q h =>
      cases q with
      | requester =>
        obtain ⟨i, hsending, -⟩ := h
        rw [hended] at hsending
        cases hsending
      | responder =>
        obtain ⟨i, buf, -, rfl⟩ := h
        exact hended
    | received q h =>
      cases q with
      | requester =>
        obtain ⟨i, expected, hreceiving, -⟩ := h
        rw [hended] at hreceiving
        cases hreceiving
      | responder =>
        obtain ⟨i, -, -, rfl⟩ := h
        exact hended
  | responder =>
    obtain ⟨r, hended⟩ := h
    refine ⟨r, ?_⟩
    cases next with
    | elsewhere h =>
      cases h with
      | fill looping more length => exact hended
      | clientDone socket looping last => exact hended
      | serverDone socket looping last =>
        rw [hended] at looping
        cases looping
    | sent q h =>
      cases q with
      | requester =>
        obtain ⟨i, -, rfl⟩ := h
        exact hended
      | responder =>
        obtain ⟨i, buf, hsending, -⟩ := h
        rw [hended] at hsending
        cases hsending
    | received q h =>
      cases q with
      | requester =>
        obtain ⟨i, expected, -, -, rfl⟩ := h
        exact hended
      | responder =>
        obtain ⟨i, hlooping, -⟩ := h
        rw [hended] at hlooping
        cases hlooping

theorem stopsAtFailure : program.StopsAtFailure := by
  intro a p message e a' h
  refine Program.silent_of_kept (Q := fun a => a.Ended p) ?_ Ended.next Ended.not_sends
  cases p with
  | requester =>
    obtain ⟨i, -, rfl⟩ := h
    exact ⟨.error e, rfl⟩
  | responder =>
    obtain ⟨i, buf, -, rfl⟩ := h
    exact ⟨.error e, rfl⟩

end Echo

/-! ### What client and server account for -/

/-- All that the client has sent is back, but for the message it waits for. -/
def EchoClient.Accounts (c : EchoClient) (sent received : List Bytes) (failed : Option Bytes) : Prop :=
  match c with
  | .looping i => failed = none ∧ sent = received ∧ received.length = i ∧ i ≤ rounds
  | .sending i expected => failed = none ∧ sent = received ∧ received.length = i ∧ i < rounds ∧
      expected.length = expectedLen
  | .receiving i expected => failed = none ∧ sent = received ++ [expected] ∧ received.length = i ∧
      i < rounds ∧ expected.length = expectedLen
  | .ended r => (∀ c, r ≠ .error (.crash c)) ∧ (r = .ok () → sent = received ∧ received.length = rounds)

/-- All that the server has received it has sent back, but for the message in hand. -/
def EchoServer.Accounts (v : EchoServer) (maxSpdmMsgSize : Nat) (sent received : List Bytes)
    (failed : Option Bytes) : Prop :=
  match v with
  | .looping i buf => buf.length = maxSpdmMsgSize ∧ failed = none ∧ received = sent ∧
      received.length = i ∧ i ≤ rounds
  | .sending i chunk buf => buf.length = maxSpdmMsgSize ∧ failed = none ∧ received = sent ++ [chunk] ∧
      received.length = i + 1 ∧ i < rounds
  | .ended r => (∀ c, r ≠ .error (.crash c)) ∧ sent ++ failed.toList <+: received ∧
      (r = .ok () → sent = received ∧ received.length = rounds)

theorem EchoServer.Accounts.starts {v : EchoServer} {maxSpdmMsgSize : Nat} {sent received : List Bytes}
    {failed : Option Bytes} (h : v.Accounts maxSpdmMsgSize sent received failed) :
    sent ++ failed.toList <+: received := by
  cases v with
  | looping i buf =>
    obtain ⟨-, hfailed, hall, -⟩ := h
    rw [hfailed, hall, Option.toList_none, List.append_nil]
  | sending i chunk buf =>
    obtain ⟨-, hfailed, hall, -⟩ := h
    rw [hfailed, hall, Option.toList_none, List.append_nil]
    exact List.prefix_append _ _
  | ended r => exact h.2.1

theorem EchoClient.Accounts.running {c : EchoClient} {sent received : List Bytes} {failed : Option Bytes}
    (h : c.Accounts sent received failed) (hruns : ∀ r, c ≠ .ended r) :
    failed = none ∧ sent = received ++ c.awaited := by
  cases c with
  | looping i => exact ⟨h.1, h.2.1.trans (List.append_nil _).symm⟩
  | sending i expected => exact ⟨h.1, h.2.1.trans (List.append_nil _).symm⟩
  | receiving i expected => exact ⟨h.1, h.2.1⟩
  | ended r => exact absurd rfl (hruns r)

theorem EchoServer.Accounts.running {v : EchoServer} {maxSpdmMsgSize : Nat} {sent received : List Bytes}
    {failed : Option Bytes} (h : v.Accounts maxSpdmMsgSize sent received failed) (hruns : ∀ r, v ≠ .ended r) :
    failed = none ∧ received = sent ++ v.inHand := by
  cases v with
  | looping i buf => exact ⟨h.2.1, h.2.2.1.trans (List.append_nil _).symm⟩
  | sending i chunk buf => exact ⟨h.2.1, h.2.2.1⟩
  | ended r => exact absurd rfl (hruns r)

/-- What every step of the two keeps. -/
structure Echo.Invariant {C : Type} (maxSpdmMsgSize : Nat) (s : Driven C Echo) : Prop where
  lengths : ∀ p, ∀ m ∈ s.sent p, m.length = expectedLen
  clientRooms : ∀ room ∈ s.buffers .requester, room = expectedLen
  serverRooms : ∀ room ∈ s.buffers .responder, room = maxSpdmMsgSize
  client : s.program.client.Accounts (s.session.sent .requester) (s.session.received .requester)
    (s.failed .requester)
  server : s.program.server.Accounts maxSpdmMsgSize (s.session.sent .responder)
    (s.session.received .responder) (s.failed .responder)

section Runs
variable {C Key : Type} {lib : Spdmlib C} {cfg : Config} {S : Sealing Key Bool}
  {channel : SecuredChannel lib cfg S} {sessionId : Nat} {key : Key} {s s' : Driven C Echo}
  {g : Completion} {maxSpdmMsgSize : Nat} {p : Role}

namespace Echo.Invariant

/-- The room of every buffer. -/
theorem rooms (h : Echo.Invariant maxSpdmMsgSize s) (size : expectedLen ≤ maxSpdmMsgSize) (p : Role) :
    ∀ room ∈ s.buffers p, expectedLen ≤ room := by
  intro room hroom
  cases p with
  | requester => exact Nat.le_of_eq (h.clientRooms room hroom).symm
  | responder => rw [h.serverRooms room hroom]; exact size

/-- Messages of eight bytes fit buffers of eight bytes. -/
theorem received_eq {buffers : List Nat} {messages : List Bytes}
    (lengths : ∀ m ∈ messages, m.length = expectedLen) (rooms : ∀ room ∈ buffers, expectedLen ≤ room) :
    fitting messages buffers = messages.take buffers.length := by
  apply Roomy.fitting
  intro x hx
  obtain ⟨hmessage, hroom⟩ := List.of_mem_zip hx
  rw [lengths x.1 hmessage]
  exact rooms x.2 hroom

theorem received (h : Echo.Invariant maxSpdmMsgSize s) (size : expectedLen ≤ maxSpdmMsgSize)
    (acc : Accounted Echo.program channel sessionId key s g) (p : Role) :
    s.session.received p = (s.sent p.peer).take (s.buffers p).length := by
  rw [(acc.due p).2.1]
  exact received_eq (h.lengths p.peer) (h.rooms size p)

/-- What the client receives the server has sent, and that it has received from the client. -/
theorem echoed (h : Echo.Invariant maxSpdmMsgSize s) (size : expectedLen ≤ maxSpdmMsgSize)
    (acc : Accounted Echo.program channel sessionId key s g) :
    s.sent .responder <+: s.sent .requester := by
  refine h.server.starts.trans ?_
  rw [h.received size acc .responder]
  exact List.take_prefix _ _

theorem elsewhere {a : Echo} (h : Echo.Invariant maxSpdmMsgSize s)
    (step : Echo.Elsewhere s.program a) :
    Echo.Invariant maxSpdmMsgSize { s with program := a } := by
  obtain ⟨hlengths, hclientRooms, hserverRooms, hclient, hserver⟩ := h
  cases step with
  | fill looping more length =>
    rw [looping] at hclient
    obtain ⟨hfailed, hsent, hi, -⟩ := hclient
    exact ⟨hlengths, hclientRooms, hserverRooms, ⟨hfailed, hsent, hi, more, length⟩, hserver⟩
  | clientDone socket looping last =>
    rw [looping] at hclient
    obtain ⟨-, hsent, hi, hle⟩ := hclient
    exact ⟨hlengths, hclientRooms, hserverRooms, ⟨WriteHalf.shutdown_safe _, fun _ =>
      ⟨hsent, hi.trans (Nat.le_antisymm hle (Nat.le_of_not_lt last))⟩⟩, hserver⟩
  | serverDone socket looping last =>
    have hstarts := hserver.starts
    rw [looping] at hserver
    obtain ⟨-, -, hall, hi, hle⟩ := hserver
    exact ⟨hlengths, hclientRooms, hserverRooms, hclient, WriteHalf.shutdown_safe _, hstarts, fun _ =>
      ⟨hall.symm, hi.trans (Nat.le_antisymm hle (Nat.le_of_not_lt last))⟩⟩

theorem transmit {message packet wire : Bytes} {a : Echo} (h : Echo.Invariant maxSpdmMsgSize s)
    (size : expectedLen ≤ maxSpdmMsgSize) (acc : Accounted Echo.program channel sessionId key s g)
    (sent : Echo.program.sent s.program p message (.ok ()) a) :
    Echo.Invariant maxSpdmMsgSize
      { s with
        session :=
          { (s.session.setEndpoint p
              { s.session.endpoint p with sending := none }).setWire p wire with
            sent := Function.update s.session.sent p (s.session.sent p ++ [message])
            packets := Function.update s.session.packets p (s.session.packets p ++ [packet]) }
        program := a } := by
  -- messages of the server were received
  have hechoed := h.received size acc .responder
  obtain ⟨hlengths, hclientRooms, hserverRooms, hclient, hserver⟩ := h
  cases p with
  | requester =>
    obtain ⟨i, hsending, rfl⟩ := sent
    rw [hsending] at hclient
    obtain ⟨hfailed, hsent, hi, hlt, hlength⟩ := hclient
    refine ⟨?_, hclientRooms, hserverRooms, ?_, hserver⟩
    · refine Role.both .requester ?_ (hlengths .responder)
      intro m hm
      have hm : m ∈ s.session.sent .requester ++ [message] ++ (s.failed .requester).toList := hm
      rw [hfailed, Option.toList_none, List.append_nil] at hm
      rcases List.mem_append.mp hm with hold | hnew
      · exact hlengths .requester m (List.mem_append_left _ hold)
      · rw [List.mem_singleton.mp hnew, hlength]
    · exact ⟨hfailed, congrArg (· ++ [message]) hsent, hi, hlt, hlength⟩
  | responder =>
    obtain ⟨i, buf, hsending, rfl⟩ := sent
    rw [hsending] at hserver
    obtain ⟨hbuf, hfailed, hall, hi, hlt⟩ := hserver
    refine ⟨?_, hclientRooms, hserverRooms, hclient, ?_⟩
    · refine Role.both .responder ?_ (hlengths .requester)
      intro m hm
      have hm : m ∈ s.session.sent .responder ++ [message] ++ (s.failed .responder).toList := hm
      rw [hfailed, Option.toList_none, List.append_nil, ← hall, hechoed] at hm
      exact hlengths .requester m (List.mem_of_mem_take hm)
    · exact ⟨hbuf, hfailed, hall, hi, hlt⟩

/-- A send that fails ends its thread. -/
theorem sendFails {message : Bytes} {e : Fault} {a : Echo} {session : System C} {failed : Option Bytes}
    (h : Echo.Invariant maxSpdmMsgSize s) (size : expectedLen ≤ maxSpdmMsgSize)
    (acc : Accounted Echo.program channel sessionId key s g)
    (sent : Echo.program.sent s.program p message (.error e) a) (noCrash : ∀ c, e ≠ .crash c)
    (unsent : session.sent = s.session.sent) (received : session.received = s.session.received)
    (gone : failed = none ∨ failed = some message) :
    Echo.Invariant maxSpdmMsgSize
      { s with session := session, program := a, failed := Function.update s.failed p failed } := by
  have hechoed := h.received size acc .responder
  obtain ⟨hlengths, hclientRooms, hserverRooms, hclient, hserver⟩ := h
  have hsafe : ∀ c, (.error e : Res Unit) ≠ .error (.crash c) := fun c hc => noCrash c (Except.error.inj hc)
  cases p with
  | requester =>
    obtain ⟨i, hsending, rfl⟩ := sent
    rw [hsending] at hclient
    obtain ⟨hfailed, hsent, hi, hlt, hlength⟩ := hclient
    refine ⟨?_, hclientRooms, hserverRooms, ⟨hsafe, fun hok => (by cases hok)⟩, ?_⟩
    · refine Role.both .requester ?_ ?_
      · intro m hm
        have hm : m ∈ session.sent .requester ++ failed.toList := hm
        rw [unsent] at hm
        rcases List.mem_append.mp hm with hold | hnew
        · exact hlengths .requester m (List.mem_append_left _ hold)
        · rcases gone with rfl | rfl
          · cases hnew
          · rw [List.mem_singleton.mp hnew, hlength]
      · intro m hm
        have hm : m ∈ session.sent .responder ++ (s.failed .responder).toList := hm
        rw [unsent] at hm
        exact hlengths .responder m hm
    · show s.program.server.Accounts maxSpdmMsgSize (session.sent .responder)
        (session.received .responder) (s.failed .responder)
      rw [unsent, received]
      exact hserver
  | responder =>
    obtain ⟨i, buf, hsending, rfl⟩ := sent
    rw [hsending] at hserver
    obtain ⟨hbuf, hfailed, hall, hi, hlt⟩ := hserver
    refine ⟨?_, hclientRooms, hserverRooms, ?_, hsafe, ?_, fun hok => (by cases hok)⟩
    · refine Role.both .responder ?_ ?_
      · intro m hm
        have hm : m ∈ session.sent .responder ++ failed.toList := hm
        rw [unsent] at hm
        have hmem : m ∈ s.session.received .responder := by
          rw [hall]
          rcases List.mem_append.mp hm with hold | hnew
          · exact List.mem_append_left _ hold
          · rcases gone with rfl | rfl
            · cases hnew
            · exact List.mem_append_right _ hnew
        rw [hechoed] at hmem
        exact hlengths .requester m (List.mem_of_mem_take hmem)
      · intro m hm
        have hm : m ∈ session.sent .requester ++ (s.failed .requester).toList := hm
        rw [unsent] at hm
        exact hlengths .requester m hm
    · show s.program.client.Accounts (session.sent .requester) (session.received .requester)
        (s.failed .requester)
      rw [unsent, received]
      exact hclient
    · show session.sent .responder ++ failed.toList <+: session.received .responder
      rw [unsent, received, hall]
      rcases gone with rfl | rfl
      · rw [Option.toList_none, List.append_nil]
        exact List.prefix_append _ _
      · exact List.prefix_refl _

/-- What `receive` returns to the client is the message it waits for. -/
theorem returned_expected {i : Nat} {expected buf' : Bytes} {used : Nat} {result : Res Nat}
    (client : s.program.client = .receiving i expected) (h : Echo.Invariant maxSpdmMsgSize s)
    (hstarts : s.session.received .requester ++ returned result buf' <+: s.sent .requester)
    (hresult : result = .ok used) (within : used ≤ buf'.length ∧ buf'.length = expectedLen) :
    expectedLen = used ∧ expected = buf' := by
  have hclient := h.client
  rw [client] at hclient
  obtain ⟨hfailed, hsent, -, -, hlength⟩ := hclient
  subst hresult
  have hall : s.sent .requester = s.session.received .requester ++ [expected] := by
    rw [Driven.sent, hfailed, hsent, Option.toList_none, List.append_nil]
  rw [hall] at hstarts
  have hmessage : buf'.take used = expected := by
    have hone := (List.prefix_append_right_inj _).mp hstarts
    exact (List.cons_prefix_cons.mp hone).1
  have hused : used = expectedLen := by
    have htaken := congrArg List.length hmessage
    rw [List.length_take, Nat.min_eq_left within.1, hlength] at htaken
    exact htaken
  refine ⟨hused.symm, ?_⟩
  rw [← hmessage, hused, ← within.2, List.take_length]

theorem deliver {received : Received} {buf buf' : Bytes} {result : Res Nat} {common : C} {a : Echo}
    (h : Echo.Invariant maxSpdmMsgSize s) (size : expectedLen ≤ maxSpdmMsgSize)
    (acc : Accounted Echo.program channel sessionId key s g)
    (receiving : (s.session.endpoint p).receiving = some (.decoding received buf))
    (deliver : (s.session.endpoint p).readHalf.deliver lib (s.session.endpoint p).common received buf =
      (result, buf', common))
    (returns : Echo.program.received s.program p buf result buf' a) :
    Echo.Invariant maxSpdmMsgSize
      { s with
        session :=
          { s.session.setEndpoint p
              { s.session.endpoint p with common := common, receiving := none } with
            received := Function.update s.session.received p
              (s.session.received p ++ returned result buf') }
        buffers := Function.update s.buffers p
          (s.buffers p ++ List.replicate received.packet?.toList.length buf.length)
        program := a } := by
  obtain ⟨g', hafter⟩ := acc.deliver receiving deliver returns
  have hsafe : result.Safe := by
    have hwf := acc.invariant.wellFormed p
    have hwf : (s.session.endpoint p).WellFormed cfg := hwf
    simp only [Endpoint.WellFormed, receiving] at hwf
    have hdelivered := deliver_safe lib (s.session.endpoint p).readHalf (s.session.endpoint p).common buf
      fun used hused => (hwf.2 used hused).1
    rwa [deliver] at hdelivered
  have hechoed := h.echoed size acc
  obtain ⟨hlengths, hclientRooms, hserverRooms, hclient, hserver⟩ := id h
  cases p with
  | requester =>
    obtain ⟨i, expected, hthread, rfl, rfl⟩ := returns
    have hrooms : ∀ room ∈ s.buffers .requester ++ List.replicate received.packet?.toList.length
        (List.replicate expectedLen (0 : UInt8)).length, room = expectedLen := by
      intro room hroom
      rcases List.mem_append.mp hroom with hold | hnew
      · exact hclientRooms room hold
      · rw [(List.mem_replicate.mp hnew).2, List.length_replicate]
    refine ⟨Role.both .requester (hlengths .requester) (hlengths .responder), hrooms, hserverRooms, ?_,
      hserver⟩
    rw [hthread] at hclient
    obtain ⟨hfailed, hsent, hi, hlt, hlength⟩ := hclient
    cases result with
    | error e =>
      exact ⟨fun c hc => hsafe c (by rw [Except.error.inj hc]), fun hok => (by cases hok)⟩
    | ok used =>
      -- all that the client has received, this message too, it has sent
      have hstarts : s.session.received .requester ++ returned (.ok used) buf' <+: s.sent .requester := by
        have hreceived : s.session.received .requester ++ returned (.ok used) buf' =
          fitting (s.sent .responder) (s.buffers .requester ++ _) := (hafter.due .requester).2.1
        rw [hreceived, received_eq (hlengths .responder)
          (fun room hroom => Nat.le_of_eq (hrooms room hroom).symm)]
        exact (List.take_prefix _ _).trans hechoed
      obtain ⟨hused, rfl⟩ := returned_expected hthread h hstarts rfl (by
        obtain ⟨hwithin, hbuf⟩ := deliver_within channel deliver
        exact ⟨hwithin, hbuf.trans List.length_replicate⟩)
      have hclient' : EchoClient.received i expected expected (.ok used) = .looping (i + 1) :=
        if_pos ⟨hused, rfl⟩
      show (EchoClient.received i expected expected (.ok used)).Accounts (s.session.sent .requester)
        (s.session.received .requester ++ [expected.take used]) (s.failed .requester)
      rw [hclient', ← hused, ← hlength, List.take_length]
      refine ⟨hfailed, hsent, ?_, hlt⟩
      rw [List.length_append, hi, List.length_singleton]
  | responder =>
    obtain ⟨i, hthread, hlt, rfl⟩ := returns
    rw [hthread] at hserver
    obtain ⟨hbuf, hfailed, hall, hi, -⟩ := hserver
    refine ⟨Role.both .requester (hlengths .requester) (hlengths .responder), hclientRooms, ?_, hclient, ?_⟩
    · intro room hroom
      have hroom : room ∈ s.buffers .responder ++
        List.replicate received.packet?.toList.length buf.length := hroom
      rcases List.mem_append.mp hroom with hold | hnew
      · exact hserverRooms room hold
      · rw [(List.mem_replicate.mp hnew).2, hbuf]
    · show (EchoServer.received i buf' result).Accounts maxSpdmMsgSize (s.session.sent .responder)
        (s.session.received .responder ++ returned result buf') (s.failed .responder)
      cases result with
      | error e =>
        refine ⟨fun c hc => hsafe c (by rw [Except.error.inj hc]), ?_, fun hok => (by cases hok)⟩
        rw [hfailed, hall, returned]
        exact List.prefix_refl _
      | ok used =>
        obtain ⟨hwithin, hlength⟩ := deliver_within channel deliver
        have hslice : slice buf' 0 used = .ok (buf'.take used) := by
          rw [slice_ok (Nat.zero_le used) hwithin, List.drop_zero, Nat.sub_zero]
        simp only [EchoServer.received, hslice]
        refine ⟨hlength.trans hbuf, hfailed, by rw [hall]; rfl, ?_, hlt⟩
        rw [List.length_append, hi, returned, List.length_singleton]

theorem step (h : Echo.Invariant maxSpdmMsgSize s) (size : expectedLen ≤ maxSpdmMsgSize)
    (acc : Accounted Echo.program channel sessionId key s g)
    (hstep : DrivenStep lib cfg Echo.program s s') : Echo.Invariant maxSpdmMsgSize s' := by
  cases hstep with
  | elsewhere next => exact h.elsewhere next
  | encode p sends idle encode =>
    exact ⟨h.lengths, h.clientRooms, h.serverRooms, h.client, h.server⟩
  | @encodeFails p message e common a sends idle encode sent =>
    have hends : Echo.Invariant maxSpdmMsgSize
        { s with
          session := s.session.setEndpoint p { s.session.endpoint p with common := common }
          program := a
          failed := Function.update s.failed p none } :=
      h.sendFails size acc sent (encode_fails channel encode).2 rfl rfl (.inl rfl)
    rwa [← (acc.of_sends sends).1, Function.update_eq_self] at hends
  | transmit p sending transmit sent => exact h.transmit size acc sent
  | @transmitFails p message packet front τ W sink sink' e a keeps sending transmit put sent =>
    have hsafe : (WriteHalf.transmit lib cfg W sink packet).1.Safe := transmit_safe lib W sink packet
    rw [transmit] at hsafe
    exact h.sendFails size acc sent (fun c hc => hsafe c (by rw [hc])) rfl rfl (.inr rfl)
  | call p receives idle => exact ⟨h.lengths, h.clientRooms, h.serverRooms, h.client, h.server⟩
  | read p receiving check reads more =>
    exact ⟨h.lengths, h.clientRooms, h.serverRooms, h.client, h.server⟩
  | framed p receiving ends finish =>
    exact ⟨h.lengths, h.clientRooms, h.serverRooms, h.client, h.server⟩
  | deliver p receiving deliver returns => exact h.deliver size acc receiving deliver returns

theorem steps (h : Echo.Invariant maxSpdmMsgSize s) (size : expectedLen ≤ maxSpdmMsgSize)
    (keeps : channel.KeptOnFailure) (acc : Accounted Echo.program channel sessionId key s g)
    (hsteps : DrivenSteps lib cfg Echo.program s s') : Echo.Invariant maxSpdmMsgSize s' := by
  induction hsteps with
  | refl => exact h
  | tail hruns hstep ih =>
    obtain ⟨g', hbetween⟩ := acc.steps Echo.stopsAtFailure keeps hruns
    exact ih.step size hbetween hstep

end Echo.Invariant

/-- At most the client has sent, and one message only. -/
def Echo.Begun (sent : Role → List Bytes) : Prop :=
  sent .responder = [] ∧
    (sent .requester = [] ∨ ∃ expected, sent .requester = [expected] ∧ expected.length = expectedLen)

theorem Echo.invariant_start {session : System C} {sent : Role → List Bytes}
    (hsent : session.sent = sent) (hreceived : session.received = fun _ => []) (begun : Echo.Begun sent) :
    Echo.Invariant maxSpdmMsgSize
      (Driven.start session (Echo.start maxSpdmMsgSize (sent .requester))) := by
  obtain ⟨hserver, hclient⟩ := begun
  have hnone : ∀ p, ∀ room ∈ (Driven.start session
      (Echo.start maxSpdmMsgSize (sent .requester))).buffers p, False :=
    fun p room hroom => absurd hroom List.not_mem_nil
  refine ⟨?_, fun room hroom => (hnone _ room hroom).elim, fun room hroom => (hnone _ room hroom).elim,
    ?_, ?_⟩
  · intro p m hm
    have hm : m ∈ session.sent p ++ [] := hm
    rw [hsent, List.append_nil] at hm
    cases p with
    | requester =>
      rcases hclient with hclient | ⟨expected, hclient, hlength⟩
      · rw [hclient] at hm
        cases hm
      · rw [hclient] at hm
        rw [List.mem_singleton.mp hm, hlength]
    | responder =>
      rw [hserver] at hm
      cases hm
  · show (Echo.start maxSpdmMsgSize (sent .requester)).client.Accounts (session.sent .requester)
      (session.received .requester) none
    rw [hsent, hreceived]
    rcases hclient with hclient | ⟨expected, hclient, hlength⟩
    · rw [hclient]
      exact ⟨rfl, rfl, rfl, Nat.zero_le _⟩
    · rw [hclient]
      exact ⟨rfl, rfl, rfl, by decide, hlength⟩
  · show EchoServer.Accounts (.looping 0 (List.replicate maxSpdmMsgSize 0)) maxSpdmMsgSize
      (session.sent .responder) (session.received .responder) none
    rw [hsent, hreceived, hserver]
    exact ⟨List.length_replicate, rfl, rfl, rfl, Nat.zero_le _⟩

end Runs

section Echoes
variable {C Key : Type} (lib : Spdmlib C) (cfg : Config) (S : Sealing Key Bool)
  (channel : SecuredChannel lib cfg S) (n : Negotiated C) (sessionId : Nat) (key : Key)
  (maxSpdmMsgSize : Nat) (agreed : n.Agreed channel sessionId key) (keeps : channel.KeptOnFailure)
  (begun : Echo.Begun n.sent) (size : expectedLen ≤ maxSpdmMsgSize)
include agreed keeps begun size

/-- **Main theorem.** In no state of an echo has a thread ended with a panic, whatever calls have failed:
no assertion of the client fails. A client that has ended with `Ok` has received all its messages,
128 of them, as it sent them, and a server has sent back as many. -/
theorem echo_never_panics :
    ∃ s₀, n.intoSplit cfg = .ok s₀ ∧
      ∀ s, DrivenSteps lib cfg Echo.program
          (Driven.start s₀ (Echo.start maxSpdmMsgSize (n.sent .requester))) s →
        (∀ r, s.program.client = .ended r → r.Safe ∧
          (r = .ok () → s.session.received .requester = s.session.sent .requester ∧
            (s.session.received .requester).length = rounds)) ∧
        (∀ r, s.program.server = .ended r → r.Safe ∧
          (r = .ok () → s.session.sent .responder = s.session.received .responder ∧
            (s.session.received .responder).length = rounds)) := by
  obtain ⟨s₀, hsplit, hsent, hreceived, -, hstart⟩ := accounted_start (P := Echo.program) agreed
    (Echo.start maxSpdmMsgSize (n.sent .requester))
  refine ⟨s₀, hsplit, fun s hsteps => ?_⟩
  have hinv := (Echo.invariant_start hsent hreceived begun).steps size keeps hstart hsteps
  refine ⟨?_, ?_⟩
  · intro r hended
    have hclient := hinv.client
    rw [hended] at hclient
    exact ⟨hclient.1, fun hok => ⟨(hclient.2 hok).1.symm, (hclient.2 hok).2⟩⟩
  · intro r hended
    have hserver := hinv.server
    rw [hended] at hserver
    exact ⟨hserver.1, hserver.2.2⟩

/-- **Main theorem.** While client and server both run, the frames on their way in the two directions,
without a byte more, and what the server has in hand are the one message the client waits for, if it
waits, and nothing otherwise: the two directions of the session are never used at once, and never
do both wait for a message that is nowhere. -/
theorem echo_lockstep :
    ∃ s₀, n.intoSplit cfg = .ok s₀ ∧
      ∀ s, DrivenSteps lib cfg Echo.program
          (Driven.start s₀ (Echo.start maxSpdmMsgSize (n.sent .requester))) s →
        (∀ p, ¬ s.program.Ended p) →
        ∃ underWay : Role → List Bytes,
          (∀ p : Role, (s.session.endpoint p).undecoded cfg ++ s.session.wire p.peer =
            cfg.framing.encodeAll (packetsFrom S key (!p.isRequester)
              (channel.counter (s.session.endpoint p).common sessionId (!p.isRequester))
              (underWay p))) ∧
          underWay .requester ++ s.program.server.inHand ++ underWay .responder =
            s.program.client.awaited := by
  obtain ⟨s₀, hsplit, hsent, hreceived, -, hstart⟩ := accounted_start (P := Echo.program) agreed
    (Echo.start maxSpdmMsgSize (n.sent .requester))
  refine ⟨s₀, hsplit, fun s hsteps hruns => ?_⟩
  have hinv := (Echo.invariant_start hsent hreceived begun).steps size keeps hstart hsteps
  obtain ⟨g, hacc⟩ := hstart.steps Echo.stopsAtFailure keeps hsteps
  have hclient := hinv.client.running fun r hended => hruns .requester ⟨r, hended⟩
  have hserver := hinv.server.running fun r hended => hruns .responder ⟨r, hended⟩
  have hfailed : ∀ p, s.failed p = none := Role.both .requester hclient.1 hserver.1
  have hall : ∀ p : Role, s.sent p = s.session.sent p := by
    intro p
    rw [Driven.sent, hfailed p, Option.toList_none, List.append_nil]
  refine ⟨fun p => (s.sent p.peer).drop (s.buffers p).length, ?_, ?_⟩
  · intro p
    have hbytes := (hacc.due p).2.2
    rwa [hacc.tails p.peer (hfailed p.peer), List.append_nil] at hbytes
  · -- the client's messages: back, on their way back, in hand, on their way
    have hback := List.take_append_drop (s.buffers .requester).length (s.sent .responder)
    have hforth := List.take_append_drop (s.buffers .responder).length (s.sent .requester)
    have hq : s.session.received .requester = (s.sent .responder).take _ :=
      hinv.received size hacc .requester
    have hr : s.session.received .responder = (s.sent .requester).take _ :=
      hinv.received size hacc .responder
    rw [← hq] at hback
    rw [← hr, hserver.2, ← hall .responder, ← hback] at hforth
    have hsum := hforth.trans ((hall .requester).trans hclient.2)
    simp only [List.append_assoc] at hsum
    rw [List.append_assoc]
    exact List.append_cancel_left hsum

end Echoes

/-! ### A round that has begun -/

/-- Both have split and nothing was sent. -/
def plainIdle : Negotiated PlainContext where
  requester := ⟨⟨7, 0, 0⟩, FramedStream.new plainConfig, some 7⟩
  responder := ⟨⟨7, 0, 0⟩, FramedStream.new plainConfig, some 7⟩
  wire _ := []
  sent _ := []
  packets _ := []

theorem plainIdle_agreed : plainIdle.Agreed (plainChannel plainConfig) 7 () where
  sessions := fun p => by cases p <;> rfl
  keys := fun p => by cases p <;> rfl
  wellFormed := fun p => by cases p <;> exact ⟨by decide, by decide⟩
  packets := fun p => by cases p <;> rfl
  short := fun p w hw => absurd hw List.not_mem_nil
  counters := fun p => by cases p <;> rfl
  bytes := fun p => by cases p <;> rfl

/-- The session when both have split. -/
def plainIdleStart : System PlainContext where
  endpoint
    | .requester => ⟨⟨7, 0, 0⟩, ⟨true, 7, FramedStream.new plainConfig⟩,
        ⟨true, 7, FramedStream.new plainConfig⟩, none, none⟩
    | .responder => ⟨⟨7, 0, 0⟩, ⟨false, 7, FramedStream.new plainConfig⟩,
        ⟨false, 7, FramedStream.new plainConfig⟩, none, none⟩
  wire _ := []
  sent _ := []
  packets _ := []
  received _ := []

/-- The steps of an echo with buffers of 16 bytes. -/
abbrev PlainEcho : Driven PlainContext Echo → Driven PlainContext Echo → Prop :=
  DrivenSteps (Spdmlib.plain plainConfig) plainConfig Echo.program

/-- The client has sent its first message. -/
theorem plainEcho_sends :
    ∃ s, PlainEcho (Driven.start plainIdleStart (Echo.start 16 [])) s ∧
      s.program.client = .receiving 0 [1, 2, 3, 4, 5, 6, 7, 8] ∧
      s.program.server = .looping 0 (List.replicate 16 0) ∧
      s.session.endpoint .responder = plainIdleStart.endpoint .responder ∧
      s.session.wire .requester = [0, 0, 0, 12, 1, 1, 0, 2, 1, 2, 3, 4, 5, 6, 7, 8] := by
  have hfill : PlainEcho (Driven.start plainIdleStart (Echo.start 16 [])) _ :=
    .single (.elsewhere (@Echo.Elsewhere.fill _ 0 [1, 2, 3, 4, 5, 6, 7, 8] rfl (by decide) rfl))
  have hencode := hfill.tail (@DrivenStep.encode _ _ _ _ _ _ .requester [1, 2, 3, 4, 5, 6, 7, 8]
    [1, 1, 0, 2, 1, 2, 3, 4, 5, 6, 7, 8] ⟨7, 1, 0⟩ ⟨0, rfl⟩ rfl (by decide +kernel))
  have htransmit := hencode.tail (@DrivenStep.transmit _ _ _ _ _ _ .requester
    [1, 2, 3, 4, 5, 6, 7, 8] [1, 1, 0, 2, 1, 2, 3, 4, 5, 6, 7, 8]
    [0, 0, 0, 12, 1, 1, 0, 2, 1, 2, 3, 4, 5, 6, 7, 8] _ rfl (by decide +kernel) ⟨0, rfl, rfl⟩)
  exact ⟨_, htransmit, rfl, rfl, rfl, rfl⟩

/-- It is the message the client waits for. -/
theorem plainEcho_lockstep :
    ∃ s₀ s, plainIdle.intoSplit plainConfig = .ok s₀ ∧
      PlainEcho (Driven.start s₀ (Echo.start 16 (plainIdle.sent .requester))) s ∧
      ∃ underWay : Role → List Bytes,
        underWay .requester ++ s.program.server.inHand ++ underWay .responder =
          [[1, 2, 3, 4, 5, 6, 7, 8]] := by
  obtain ⟨s₀, hsplit, hlockstep⟩ := echo_lockstep (Spdmlib.plain plainConfig) plainConfig Sealing.plain
    (plainChannel plainConfig) plainIdle 7 () 16 plainIdle_agreed (plain_keptOnFailure plainConfig)
    ⟨rfl, .inl rfl⟩ (by decide)
  obtain rfl : plainIdleStart = s₀ := by
    refine (Except.ok.inj (hsplit.symm.trans ?_)).symm
    rfl
  obtain ⟨s, hsteps, hclient, hserver, -⟩ := plainEcho_sends
  obtain ⟨underWay, -, hone⟩ := hlockstep s hsteps (Role.both .requester
    (fun h => by obtain ⟨r, hr⟩ := h; rw [hclient] at hr; cases hr)
    (fun h => by obtain ⟨r, hr⟩ := h; rw [hserver] at hr; cases hr))
  rw [hclient] at hone
  exact ⟨plainIdleStart, s, hsplit, hsteps, underWay, hone⟩

/-- A read fails, and the server ends with an error. -/
theorem plainEcho_never_panics :
    ∃ s₀ s r, plainIdle.intoSplit plainConfig = .ok s₀ ∧
      PlainEcho (Driven.start s₀ (Echo.start 16 (plainIdle.sent .requester))) s ∧
      s.program.server = .ended r ∧ r.Safe := by
  obtain ⟨s₀, hsplit, hsafe⟩ := echo_never_panics (Spdmlib.plain plainConfig) plainConfig Sealing.plain
    (plainChannel plainConfig) plainIdle 7 () 16 plainIdle_agreed (plain_keptOnFailure plainConfig)
    ⟨rfl, .inl rfl⟩ (by decide)
  obtain rfl : plainIdleStart = s₀ := by
    refine (Except.ok.inj (hsplit.symm.trans ?_)).symm
    rfl
  have hcall : PlainEcho (Driven.start plainIdleStart (Echo.start 16 [])) _ :=
    .single (@DrivenStep.call _ _ _ _ _ _ .responder (List.replicate 16 0) ⟨0, rfl, by decide⟩ rfl)
  have hframed := hcall.tail (@DrivenStep.framed _ _ _ _ _ _ .responder
    (Progress.start (FramedStream.new plainConfig)) (Progress.start (FramedStream.new plainConfig))
    (List.replicate 16 0) [] false
    ⟨.error 0, List.replicate 16 0, FramedStream.new plainConfig⟩ rfl
    (@Progress.Ends.read _ _ _ _ 20 (.error "timed out") [] rfl (.fail _) rfl) rfl)
  have hdeliver := hframed.tail (@DrivenStep.deliver _ _ _ _ _ _ .responder
    ⟨.error 0, List.replicate 16 0, FramedStream.new plainConfig⟩ (List.replicate 16 0)
    (List.replicate 16 0) _ _ _ rfl rfl ⟨0, rfl, by decide, rfl⟩)
  exact ⟨plainIdleStart, _, _, hsplit, hdeliver, rfl, ((hsafe _ hdeliver).2 _ rfl).1⟩

end RatsRs.Transport
