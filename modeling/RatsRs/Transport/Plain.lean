import RatsRs.Transport.Secured
import RatsRs.Transport.Session

/-! A library that obeys `SecuredChannel`.

One session, a counter for each direction flag, the encapsulation outside and inside the record,
and records that hide nothing (`Sealing.plain`). It shows that what the halves assume of `spdmlib`
can be had, and runs of a session can be computed with it. -/
namespace RatsRs.Transport
open Lib SimpleTransportEncap

/-- The session there is, and the counters of its two directions. -/
structure PlainContext where
  sessionId : Nat
  request : Nat
  response : Nat
  deriving DecidableEq, Repr

namespace PlainContext

def key (context : PlainContext) (sessionId : Nat) : Option Unit :=
  if sessionId = context.sessionId then some () else none

def counter (context : PlainContext) (sessionId : Nat) (flag : Bool) : Nat :=
  if sessionId = context.sessionId then (if flag then context.request else context.response) else 0

def advance (context : PlainContext) (flag : Bool) : PlainContext :=
  if flag then { context with request := context.request + 1 }
  else { context with response := context.response + 1 }

theorem advanced (context : PlainContext) (flag : Bool) :
    Advanced key counter context (context.advance flag) context.sessionId flag where
  keys := by
    intro id
    cases flag <;> rfl
  used := by cases flag <;> simp [counter, advance]
  others := by
    intro id d hne
    by_cases hid : id = context.sessionId
    · have hd : d ≠ flag := fun hd => hne (by rw [hid, hd])
      cases flag <;> cases d <;> simp_all [counter, advance]
    · cases flag <;> simp [counter, advance, hid]

end PlainContext

def Spdmlib.plain (cfg : Config) : Spdmlib PlainContext where
  rspDataTransferSizeSel _ := 0
  encodeSecuredMessage context sessionId sendBuffer transportBuffer isRequester isAppMessage :=
    if sessionId ≠ context.sessionId then (.error (.other 1), transportBuffer, context)
    else
      match encapApp sendBuffer (List.replicate cfg.senderBufferSize 0) isAppMessage with
      | (.error e, _) => (.error e, transportBuffer, context)
      | (.ok n, app) =>
        let record := plainRecord isRequester (context.counter sessionId isRequester) (app.take n)
        let (used, transportBuffer) := encap record transportBuffer true
        (used, transportBuffer, context.advance isRequester)
  decodeSecuredMessage context sessionId packet receiveBuffer isRequester :=
    if sessionId ≠ context.sessionId then (.error (.other 1), receiveBuffer, context)
    else
      match decap packet (List.replicate cfg.receiverBufferSize 0) with
      | (.error e, _) => (.error e, receiveBuffer, context)
      | (.ok (_, false), _) => (.error .decapFail, receiveBuffer, context)
      | (.ok (n, true), record) =>
        match plainOpen isRequester (context.counter sessionId isRequester) (record.take n) with
        | none => (.error (.other 2), receiveBuffer, context)
        | some app =>
          let (used, receiveBuffer) := decapApp app receiveBuffer
          (used, receiveBuffer, context.advance isRequester)
  debug status := reprStr status

def plainChannel (cfg : Config) : SecuredChannel (Spdmlib.plain cfg) cfg Sealing.plain where
  key := PlainContext.key
  counter := PlainContext.counter
  encode := by
    intro context sessionId message buffer flag used buffer' context' h
    simp only [Spdmlib.plain] at h
    split at h
    · cases (Prod.mk.inj h).1
    · rename_i hsession
      obtain rfl : sessionId = context.sessionId := by simpa using hsession
      split at h
      · cases (Prod.mk.inj h).1
      · rename_i n app happ
        obtain ⟨hused, hrest⟩ := Prod.mk.inj h
        obtain ⟨hbuffer, rfl⟩ := Prod.mk.inj hrest
        exact ⟨⟨(), _, app, n, if_pos rfl, happ, Prod.ext hused hbuffer⟩, context.advanced flag⟩
  decode := by
    intro context sessionId k packet n record app flag buffer hkey hdecap hopens
    obtain rfl : sessionId = context.sessionId := by
      by_contra hne
      rw [PlainContext.key, if_neg hne] at hkey
      cases hkey
    have hopen : plainOpen flag (context.counter context.sessionId flag) (record.take n) = some app := hopens
    refine ⟨context.advance flag, ?_, context.advanced flag⟩
    simp only [Spdmlib.plain, hdecap, hopen]
    rw [if_neg (not_not_intro rfl)]
  refuse := by
    intro context sessionId packet buffer flag decoded buffer' context' h
    simp only [Spdmlib.plain] at h
    split at h
    · cases (Prod.mk.inj h).1
    · rename_i hsession
      split at h
      · cases (Prod.mk.inj h).1
      · cases (Prod.mk.inj h).1
      · rename_i n record hdecap
        split at h
        · cases (Prod.mk.inj h).1
        · rename_i app hopens
          exact ⟨(), n, record, app, if_pos (by simpa using hsession), hdecap, hopens⟩

/-! ### A session under way -/

def plainConfig : Config := ⟨16, 16, by decide, by decide⟩

/-- The responder has split first and sent a message of one byte; six bytes of its frame are in the
requester's buffer and three on the wire. -/
def plainSession : Negotiated PlainContext where
  requester := ⟨⟨7, 0, 0⟩, ⟨[0, 0, 0, 5, 1, 0] ++ List.replicate 14 0, 6⟩, some 7⟩
  responder := ⟨⟨7, 0, 1⟩, FramedStream.new plainConfig, some 7⟩
  wire
    | .requester => []
    | .responder => [0, 2, 8]
  sent
    | .requester => []
    | .responder => [[8]]
  packets
    | .requester => []
    | .responder => [[1, 0, 0, 2, 8]]

end RatsRs.Transport
