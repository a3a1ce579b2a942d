import RatsRs.Transport.MutualAuth

/-! The session id a responder keeps.

`negotiate` stores the id of the session that a packet named when that session is established, and
nothing takes it back: a later call that fails leaves the id of an earlier one, whether its session is
still there or not. `into_split` asks only whether there is an id. The check that would tell,
`ensure_session_established`, is not called. -/
namespace RatsRs.Transport
open Lib

section SessionId
variable {C E M : Type} (lib : ResponderLib C E M) (cfg : Config)

namespace SpdmResponder

def ensureSessionEstablished (self : SpdmResponder C) (sessionId : Nat) : Res Unit :=
  match lib.sessionState self.common sessionId with
  | none => Res.fail .spdmBrokenSession s!"failed to get session of session_id: {sessionId}"
  | some state =>
    Res.ensure (state = .established) .spdmSessionNotReady
      s!"the session is not ready, session_id: {sessionId}"

@[simp] theorem ensureSessionEstablished_eq_ok {self : SpdmResponder C} {sessionId : Nat} {u : Unit} :
    self.ensureSessionEstablished lib sessionId = .ok u ↔
      lib.sessionState self.common sessionId = some .established := by
  unfold ensureSessionEstablished
  split
  · rename_i hnone
    simp [hnone, Res.fail]
  · rename_i state hsome
    simp [hsome]

end SpdmResponder

/-! ### Calls -/

/-- A call of `negotiate` that has returned. -/
structure NegotiateCall (C E : Type) where
  before : SpdmResponder C
  events : List E
  result : Except Error Unit
  after : SpdmResponder C

/-- Calls one after the other, each with the events that come during it. One that waits for more, or
panics, has not returned, and no other follows it. -/
def SpdmResponder.negotiateAll (self : SpdmResponder C) : List (List E) → List (NegotiateCall C E)
  | [] => []
  | events :: more =>
    let negotiation := self.negotiate lib cfg events
    match negotiation.result with
    | some (.ok ()) =>
      ⟨self, events, .ok (), negotiation.responder⟩ :: negotiation.responder.negotiateAll more
    | some (.error (.error e)) =>
      ⟨self, events, .error e, negotiation.responder⟩ :: negotiation.responder.negotiateAll more
    | some (.error (.crash _)) | none => []

/-- What the id is for: it names an established session, the halves are of one, and after a call that
failed there are none. -/
structure NegotiateCall.Sound (call : NegotiateCall C E) : Prop where
  established : ∀ sessionId, call.after.sessionId = some sessionId →
    call.after.ensureSessionEstablished lib sessionId = .ok ()
  split : ∀ readHalf writeHalf common, call.after.intoSplit cfg = .ok (readHalf, writeHalf, common) →
    lib.sessionState common readHalf.sessionId = some .established ∧
      lib.sessionState common writeHalf.sessionId = some .established
  refused : ∀ e, call.result = .error e →
    call.after.intoSplit cfg = Res.fail .spdmSessionNotReady "session not ready, unknown session_id"

/-- Of the packets processed, one names an established session before anything goes wrong. -/
inductive Establishes : C → FramedStream → Bytes → List E → Prop
  | now {common : C} {deviceIo : FramedStream} {rawPacket : Bytes} {event : E} {events : List E}
      {result : ProcessMessageResult} {sessionId : Nat}
      (outcome : (lib.processMessage common deviceIo rawPacket event).outcome = .ok result)
      (named : concluded lib (lib.processMessage common deviceIo rawPacket event).common
        (lib.processMessage common deviceIo rawPacket event).rawPacket result = some (.ok sessionId)) :
      Establishes common deviceIo rawPacket (event :: events)
  | later {common : C} {deviceIo : FramedStream} {rawPacket : Bytes} {event : E} {events : List E}
      {result : ProcessMessageResult}
      (outcome : (lib.processMessage common deviceIo rawPacket event).outcome = .ok result)
      (undecided : concluded lib (lib.processMessage common deviceIo rawPacket event).common
        (lib.processMessage common deviceIo rawPacket event).rawPacket result = none)
      (rest : Establishes (lib.processMessage common deviceIo rawPacket event).common
        (lib.processMessage common deviceIo rawPacket event).deviceIo
        (lib.processMessage common deviceIo rawPacket event).rawPacket events) :
      Establishes common deviceIo rawPacket (event :: events)

end SessionId

section Proofs
variable {C E M : Type} {lib : ResponderLib C E M} {cfg : Config}

/-! ### One call -/

theorem concluded_established {common : C} {rawPacket : Bytes} {result : ProcessMessageResult}
    {sessionId : Nat} (h : concluded lib common rawPacket result = some (.ok sessionId)) :
    lib.sessionState common sessionId = some .established := by
  unfold concluded at h
  split at h
  case h_3 => cases h
  case h_4 => cases h
  all_goals
    split at h
    · cases h
    · split at h
      · cases h
      · split at h
        · rename_i hstate
          obtain rfl := Except.ok.inj (Option.some.inj h)
          exact hstate
        all_goals cases h

/-- What a call that returns leaves: the id of a session that is established, or what there was. -/
theorem negotiateFrom_returned {self : SpdmResponder C} {rawPacket : Bytes} {events : List E}
    {result : Res Unit} (h : (self.negotiateFrom lib rawPacket events).result = some result) :
    (result = .ok () ∧ Establishes lib self.common self.deviceIo rawPacket events ∧
      ∃ sessionId, (self.negotiateFrom lib rawPacket events).responder.sessionId = some sessionId ∧
        lib.sessionState (self.negotiateFrom lib rawPacket events).responder.common sessionId =
          some .established) ∨
    (result ≠ .ok () ∧ ¬ Establishes lib self.common self.deviceIo rawPacket events ∧
      (self.negotiateFrom lib rawPacket events).responder.sessionId = self.sessionId) := by
  induction events generalizing self rawPacket with
  | nil => cases h
  | cons event events ih =>
    rw [SpdmResponder.negotiateFrom] at h ⊢
    cases houtcome : (lib.processMessage self.common self.deviceIo rawPacket event).outcome with
    | error c =>
      simp only [houtcome] at h ⊢
      obtain rfl := Option.some.inj h
      refine .inr ⟨fun hok => (by cases hok), ?_, trivial⟩
      intro hestablishes
      cases hestablishes with
      | now outcome named => cases houtcome.symm.trans outcome
      | later outcome undecided rest => cases houtcome.symm.trans outcome
    | ok processed =>
      cases hconcluded : concluded lib (lib.processMessage self.common self.deviceIo rawPacket event).common
          (lib.processMessage self.common self.deviceIo rawPacket event).rawPacket processed with
      | none =>
        simp only [houtcome, hconcluded] at h ⊢
        rcases ih h with ⟨hok, hestablishes, hid⟩ | ⟨herror, hnot, hid⟩
        · exact .inl ⟨hok, .later houtcome hconcluded hestablishes, hid⟩
        · refine .inr ⟨herror, ?_, hid⟩
          intro hestablishes
          cases hestablishes with
          | now outcome named =>
            obtain rfl := Except.ok.inj (houtcome.symm.trans outcome)
            cases hconcluded.symm.trans named
          | later outcome undecided rest => exact hnot rest
      | some concluded =>
        cases concluded with
        | ok sessionId =>
          simp only [houtcome, hconcluded] at h ⊢
          obtain rfl := Option.some.inj h
          exact .inl ⟨rfl, .now houtcome hconcluded, sessionId, rfl, concluded_established hconcluded⟩
        | error e =>
          simp only [houtcome, hconcluded] at h ⊢
          obtain rfl := Option.some.inj h
          refine .inr ⟨fun hok => (by cases hok), ?_, trivial⟩
          intro hestablishes
          cases hestablishes with
          | now outcome named =>
            obtain rfl := Except.ok.inj (houtcome.symm.trans outcome)
            cases hconcluded.symm.trans named
          | later outcome undecided rest =>
            obtain rfl := Except.ok.inj (houtcome.symm.trans outcome)
            cases hconcluded.symm.trans undecided

/-- A call that has returned, by the responder it was made on and its events. -/
structure NegotiateCall.Made (lib : ResponderLib C E M) (cfg : Config) (call : NegotiateCall C E) : Prop where
  responder : (call.before.negotiate lib cfg call.events).responder = call.after
  result : (call.before.negotiate lib cfg call.events).result = some (call.result.mapError Fault.error)

theorem negotiateAll_made {self : SpdmResponder C} {runs : List (List E)} {call : NegotiateCall C E}
    (h : call ∈ self.negotiateAll lib cfg runs) : call.Made lib cfg := by
  induction runs generalizing self with
  | nil => cases h
  | cons events more ih =>
    rw [SpdmResponder.negotiateAll] at h
    split at h
    · rename_i hresult
      rcases List.mem_cons.mp h with rfl | h
      · exact ⟨rfl, hresult⟩
      · exact ih h
    · rename_i e hresult
      rcases List.mem_cons.mp h with rfl | h
      · exact ⟨rfl, hresult⟩
      · exact ih h
    · cases h
    · cases h

theorem intoSplit_none {responder : SpdmResponder C} (h : responder.sessionId = none) :
    responder.intoSplit cfg = Res.fail .spdmSessionNotReady "session not ready, unknown session_id" := by
  rw [SpdmResponder.intoSplit, h]
  rfl

theorem intoSplit_some {responder : SpdmResponder C} {sessionId : Nat}
    (h : responder.sessionId = some sessionId) :
    responder.intoSplit cfg = .ok (⟨false, sessionId, responder.deviceIo⟩,
      ⟨false, sessionId, FramedStream.new cfg⟩, responder.common) := by
  rw [SpdmResponder.intoSplit, h]
  rfl

/-- The id of a session that is established. -/
theorem NegotiateCall.sound_ok {call : NegotiateCall C E} {sessionId : Nat} (hresult : call.result = .ok ())
    (hid : call.after.sessionId = some sessionId)
    (hstate : lib.sessionState call.after.common sessionId = some .established) : call.Sound lib cfg where
  established := by
    intro id hsome
    obtain rfl := Option.some.inj (hid.symm.trans hsome)
    rw [SpdmResponder.ensureSessionEstablished_eq_ok]
    exact hstate
  split := by
    intro readHalf writeHalf common hsplit
    rw [intoSplit_some hid] at hsplit
    obtain ⟨rfl, rfl, rfl⟩ := ok_triple_inj hsplit
    exact ⟨hstate, hstate⟩
  refused := by
    intro e herror
    cases hresult.symm.trans herror

/-- No id. -/
theorem NegotiateCall.sound_none {call : NegotiateCall C E} (h : call.after.sessionId = none) :
    call.Sound lib cfg where
  established := by
    intro id hsome
    cases h.symm.trans hsome
  split := by
    intro readHalf writeHalf common hsplit
    rw [intoSplit_none h] at hsplit
    cases hsplit
  refused := fun _ _ => intoSplit_none h

/-- The id is as it should be after a call exactly if the call was made on a responder that has none, or
establishes a session. -/
theorem NegotiateCall.Made.sound_iff {call : NegotiateCall C E} (h : call.Made lib cfg) :
    call.Sound lib cfg ↔ call.before.sessionId = none ∨
      Establishes lib call.before.common call.before.deviceIo (List.replicate cfg.receiverBufferSize 0)
        call.events := by
  have hreturned := negotiateFrom_returned h.result
  rw [show call.before.negotiateFrom lib (List.replicate cfg.receiverBufferSize 0) call.events =
    call.before.negotiate lib cfg call.events from rfl, h.responder] at hreturned
  rcases hreturned with ⟨hok, hestablishes, sessionId, hid, hstate⟩ | ⟨herror, hnot, hid⟩
  · have hresult : call.result = .ok () := by
      cases hcall : call.result with
      | ok u => rfl
      | error e => rw [hcall] at hok; cases hok
    exact ⟨fun _ => .inr hestablishes, fun _ => NegotiateCall.sound_ok hresult hid hstate⟩
  · constructor
    · intro hsound
      cases hbefore : call.before.sessionId with
      | none => exact .inl rfl
      | some sessionId =>
        -- the call has failed, and there still are halves
        cases hcall : call.result with
        | ok u => exact absurd (by rw [hcall]; rfl) herror
        | error e =>
          have hrefused := hsound.refused e hcall
          rw [intoSplit_some (hid.trans hbefore)] at hrefused
          cases hrefused
    · intro hcond
      exact NegotiateCall.sound_none (hid.trans (hcond.resolve_right hnot))

/-- **Main theorem.** However often `negotiate` is called on a new responder, and whatever comes from the
peer: after every call that returns the id is as it should be, exactly if every such call was made on a
responder without an id or had an established session named to it. -/
theorem session_id_established_iff (lib : ResponderLib C E M) (cfg : Config) (build : Build)
    (strategy : CertValidationStrategy) (material : M) (runs : List (List E)) :
    (∀ call ∈ (SpdmResponder.new lib cfg build strategy material).negotiateAll lib cfg runs,
        call.Sound lib cfg) ↔
      ∀ call ∈ (SpdmResponder.new lib cfg build strategy material).negotiateAll lib cfg runs,
        call.before.sessionId = none ∨
          Establishes lib call.before.common call.before.deviceIo
            (List.replicate cfg.receiverBufferSize 0) call.events := by
  constructor
  · intro h call hcall
    exact (negotiateAll_made hcall).sound_iff.mp (h call hcall)
  · intro h call hcall
    exact (negotiateAll_made hcall).sound_iff.mpr (h call hcall)

/-- A session is set up; in the next call the peer starts another and fails to finish it. -/
def startedAgain : List (List HandshakeMessage) := [anonymously, [.keyExchange 9, .finish 8]]

/-- The session of the first call is gone, and the second has failed; there still are halves, of that
session. -/
theorem stale_session_id :
    ∃ first second, (SpdmResponder.new refusing plainConfig spdmBuild .rats ()).negotiateAll refusing
        plainConfig startedAgain = [first, second] ∧
      first.result = .ok () ∧ (∃ e, second.result = .error e) ∧
      second.after.sessionId = some 7 ∧
      second.after.ensureSessionEstablished refusing 7 =
        Res.fail .spdmBrokenSession "failed to get session of session_id: 7" ∧
      (∃ readHalf writeHalf common, second.after.intoSplit plainConfig = .ok (readHalf, writeHalf, common) ∧
        readHalf.sessionId = 7 ∧ writeHalf.sessionId = 7) ∧
      ¬ second.Sound refusing plainConfig := by
  refine ⟨_, _, rfl, rfl, ⟨_, rfl⟩, rfl, rfl, ⟨_, _, _, rfl, rfl, rfl⟩, ?_⟩
  intro hsound
  have hok := hsound.established 7 rfl
  cases hok

end Proofs

end RatsRs.Transport
