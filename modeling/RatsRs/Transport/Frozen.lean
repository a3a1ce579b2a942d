import RatsRs.Transport.ShortReceive

/-! Contexts with a frozen counter.

A `send` whose encoding fails may have used up a counter for a record that never leaves the party. A
party that does not send again afterwards is as good as one whose counter has stayed: `frozen`
is a library that remembers the counter of such a party and encodes nothing for it any more. It is
an authenticated channel if the one behind it is, and it receives as that one does. -/
namespace RatsRs.Transport
open Lib SimpleTransportEncap

/-- A context, and the flag and counter a party has stopped sending at. -/
structure Frozen (C : Type) where
  context : C
  stopped : Option (Bool × Nat)

section Frozen
variable {C Key : Type} {lib : Spdmlib C} {cfg : Config} {S : Sealing Key Bool}
  (channel : SecuredChannel lib cfg S) (sessionId : Nat)

def Frozen.counter (x : Frozen C) (id : Nat) (flag : Bool) : Nat :=
  match x.stopped with
  | some (stopped, count) =>
    if id = sessionId ∧ flag = stopped then count else channel.counter x.context id flag
  | none => channel.counter x.context id flag

/-- A packet of the flag that has stopped, opened with the counter it has stopped at. -/
def Frozen.open (x : Frozen C) (stopped : Bool) (count : Nat) (packet buffer : Bytes) :
    Except SpdmStatus (Nat × Bool) × Bytes × Frozen C :=
  match channel.key x.context sessionId, decap packet (List.replicate cfg.receiverBufferSize 0) with
  | some key, (.ok (n, true), record) =>
    match S.opens key stopped count (record.take n) with
    | some app =>
      ((decapApp app buffer).1, (decapApp app buffer).2, { x with stopped := some (stopped, count + 1) })
    | none => (.error .decapFail, buffer, x)
  | _, _ => (.error .decapFail, buffer, x)

def Spdmlib.frozen : Spdmlib (Frozen C) where
  rspDataTransferSizeSel x := lib.rspDataTransferSizeSel x.context
  encodeSecuredMessage x id sendBuffer transportBuffer isRequester isAppMessage :=
    match x.stopped with
    | some _ => (.error .sendFail, transportBuffer, x)
    | none =>
      let (used, transportBuffer, context) :=
        lib.encodeSecuredMessage x.context id sendBuffer transportBuffer isRequester isAppMessage
      (used, transportBuffer, ⟨context, none⟩)
  decodeSecuredMessage x id packet receiveBuffer isRequester :=
    match x.stopped with
    | some (stopped, count) =>
      if id = sessionId ∧ isRequester = stopped then
        x.open channel sessionId stopped count packet receiveBuffer
      else
        let (decoded, receiveBuffer, context) :=
          lib.decodeSecuredMessage x.context id packet receiveBuffer isRequester
        (decoded, receiveBuffer, ⟨context, some (stopped, count)⟩)
    | none =>
      let (decoded, receiveBuffer, context) :=
        lib.decodeSecuredMessage x.context id packet receiveBuffer isRequester
      (decoded, receiveBuffer, ⟨context, none⟩)
  debug := lib.debug

variable {channel sessionId}

/-- Counters that are not frozen are used as before. -/
theorem Advanced.frozen {context context' : C} {id : Nat} {flag : Bool} {stopped : Option (Bool × Nat)}
    (h : Advanced channel.key channel.counter context context' id flag)
    (other : ∀ x, stopped = some x → ¬ (id = sessionId ∧ flag = x.1)) :
    Advanced (fun x : Frozen C => channel.key x.context) (Frozen.counter channel sessionId)
      ⟨context, stopped⟩ ⟨context', stopped⟩ id flag where
  keys := h.keys
  used := by
    cases stopped with
    | none => exact h.used
    | some x =>
      simp only [Frozen.counter, if_neg (other x rfl)]
      exact h.used
  others := by
    intro id' d hne
    cases stopped with
    | none => exact h.others id' d hne
    | some x =>
      simp only [Frozen.counter]
      split
      · rfl
      · exact h.others id' d hne

theorem Frozen.open_ok {x : Frozen C} {key : Key} {stopped : Bool} {count n : Nat}
    {packet record app : Bytes} (buffer : Bytes) (hstopped : x.stopped = some (stopped, count))
    (hkey : channel.key x.context sessionId = some key)
    (hdecap : decap packet (List.replicate cfg.receiverBufferSize 0) = (.ok (n, true), record))
    (hopens : S.opens key stopped count (record.take n) = some app) :
    ∃ x', x.open channel sessionId stopped count packet buffer =
        ((decapApp app buffer).1, (decapApp app buffer).2, x') ∧
      Advanced (fun x : Frozen C => channel.key x.context) (Frozen.counter channel sessionId) x x'
        sessionId stopped := by
  refine ⟨{ x with stopped := some (stopped, count + 1) }, ?_, fun _ => rfl, ?_, ?_⟩
  · simp only [Frozen.open, hkey, hdecap, hopens]
  · simp only [Frozen.counter, hstopped, and_self, if_true]
  · intro id d hne
    have hother : ¬ (id = sessionId ∧ d = stopped) := fun h => hne (by rw [h.1, h.2])
    simp only [Frozen.counter, hstopped, if_neg hother]

theorem Frozen.opened {x x' : Frozen C} {stopped : Bool} {count : Nat} {packet buffer buffer' : Bytes}
    {decoded : Nat × Bool}
    (h : x.open channel sessionId stopped count packet buffer = (.ok decoded, buffer', x')) :
    ∃ k n record app, channel.key x.context sessionId = some k ∧
      decap packet (List.replicate cfg.receiverBufferSize 0) = (.ok (n, true), record) ∧
      S.opens k stopped count (record.take n) = some app := by
  unfold Frozen.open at h
  split at h
  · rename_i key n record hkey hdecap
    split at h
    · rename_i app hopens
      exact ⟨key, n, record, app, hkey, hdecap, hopens⟩
    · cases (Prod.mk.inj h).1
  · cases (Prod.mk.inj h).1

/-- Freezing a counter keeps an authenticated channel. -/
def SecuredChannel.frozen (channel : SecuredChannel lib cfg S) (sessionId : Nat) :
    SecuredChannel (Spdmlib.frozen channel sessionId) cfg S where
  key x := channel.key x.context
  counter := Frozen.counter channel sessionId
  encode := by
    rintro ⟨context, stopped⟩ id message buffer flag used buffer' ⟨context', stopped'⟩ h
    cases stopped with
    | some x => cases (Prod.mk.inj h).1
    | none =>
      obtain ⟨hused, hrest⟩ := Prod.mk.inj h
      obtain ⟨hbuffer, hcontext⟩ := Prod.mk.inj hrest
      obtain ⟨rfl, rfl⟩ := Frozen.mk.inj hcontext
      obtain ⟨hpacket, hadvanced⟩ := channel.encode (Prod.ext hused (Prod.ext hbuffer rfl))
      exact ⟨hpacket, hadvanced.frozen (fun x hx => (by cases hx))⟩
  decode := by
    rintro ⟨context, stopped⟩ id k packet n record app flag buffer hkey hdecap hopens
    cases stopped with
    | none =>
      obtain ⟨context', hdecode, hadvanced⟩ := channel.decode buffer hkey hdecap hopens
      refine ⟨⟨context', none⟩, ?_, hadvanced.frozen (fun x hx => (by cases hx))⟩
      simp only [Spdmlib.frozen, hdecode]
    | some x =>
      obtain ⟨stopped, count⟩ := x
      by_cases hown : id = sessionId ∧ flag = stopped
      · obtain ⟨rfl, rfl⟩ := hown
        simp only [Frozen.counter, and_self, if_true] at hopens
        obtain ⟨x', hopen, hadvanced⟩ := @Frozen.open_ok _ _ _ _ _ channel _
          ⟨context, some (flag, count)⟩ _ _ _ _ _ _ _ buffer rfl hkey hdecap hopens
        refine ⟨x', ?_, hadvanced⟩
        simp only [Spdmlib.frozen, and_self, if_true, hopen]
      · simp only [Frozen.counter, if_neg hown] at hopens
        obtain ⟨context', hdecode, hadvanced⟩ := channel.decode buffer hkey hdecap hopens
        refine ⟨⟨context', some (stopped, count)⟩, ?_, hadvanced.frozen ?_⟩
        · simp only [Spdmlib.frozen, if_neg hown, hdecode]
        · intro x hx
          obtain rfl := Option.some.inj hx
          exact hown
  refuse := by
    rintro ⟨context, stopped⟩ id packet buffer flag decoded buffer' ⟨context', stopped'⟩ h
    cases stopped with
    | none =>
      obtain ⟨hdecoded, hrest⟩ := Prod.mk.inj h
      exact channel.refuse (Prod.ext hdecoded rfl)
    | some x =>
      obtain ⟨stopped, count⟩ := x
      by_cases hown : id = sessionId ∧ flag = stopped
      · obtain ⟨rfl, rfl⟩ := hown
        simp only [Spdmlib.frozen, and_self, if_true] at h
        simp only [Frozen.counter, and_self, if_true]
        exact Frozen.opened h
      · simp only [Spdmlib.frozen, if_neg hown] at h
        simp only [Frozen.counter, if_neg hown]
        exact channel.refuse (Prod.ext (Prod.mk.inj h).1 rfl)

/-! ### The halves over frozen contexts -/

theorem encode_frozen (half : WriteHalf) (common : C) (message : Bytes) :
    half.encode (Spdmlib.frozen channel sessionId) cfg ⟨common, none⟩ message =
      ((half.encode lib cfg common message).1, ⟨(half.encode lib cfg common message).2, none⟩) := by
  unfold WriteHalf.encode
  dsimp only [Spdmlib.frozen]
  split <;> rfl

/-- A party that has stopped sending with its own flag receives as before. -/
theorem deliver_frozen (half : ReadHalf) (common : C) (received : Received) (buf : Bytes)
    {stopped : Option (Bool × Nat)} (own : ∀ x, stopped = some x → x.1 = half.isRequester) :
    half.deliver (Spdmlib.frozen channel sessionId) ⟨common, stopped⟩ received buf =
      ((half.deliver lib common received buf).1, (half.deliver lib common received buf).2.1,
        ⟨(half.deliver lib common received buf).2.2, stopped⟩) := by
  unfold ReadHalf.deliver
  split
  · rfl
  · split
    · rfl
    · rename_i packet hslice
      unfold ReadHalf.decode
      cases stopped with
      | none => rfl
      | some x =>
        have hother : ¬ (half.sessionId = sessionId ∧ (!half.isRequester) = x.1) := by
          rintro ⟨-, hflag⟩
          rw [own x rfl] at hflag
          simp at hflag
        simp only [Spdmlib.frozen, if_neg hother]
        rfl

end Frozen

end RatsRs.Transport
