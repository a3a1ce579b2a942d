import RatsRs.Transport.FramedStream

/-! `SimpleTransportEncap`: a byte in front of each message that says what it is.

The four functions write into a buffer of the caller, or copy out of a packet into one; what
they return is how much of the buffer is used. They are `put` and `take` with the type, the
accepted types and the status of each. -/
namespace RatsRs.Transport
open Lib

inductive SimpleTransportMessageType where
  | spdm
  | secured
  | app
  /-- A byte that is none of them. -/
  | unknown (x : UInt8)
  deriving DecidableEq, Repr

namespace SimpleTransportMessageType

def toByte : SimpleTransportMessageType → UInt8
  | .spdm => 0x00
  | .secured => 0x01
  | .app => 0x02
  | .unknown x => x

def ofByte (x : UInt8) : SimpleTransportMessageType :=
  if x = 0x00 then .spdm else if x = 0x01 then .secured else if x = 0x02 then .app else .unknown x

end SimpleTransportMessageType

structure SimpleTransportMessageHeader where
  type : SimpleTransportMessageType

namespace SimpleTransportMessageHeader

def encode (h : SimpleTransportMessageHeader) : Bytes := [h.type.toByte]

/-- The header and what follows it. -/
def read : Bytes → Option (SimpleTransportMessageHeader × Bytes)
  | [] => none
  | x :: rest => some (⟨.ofByte x⟩, rest)

end SimpleTransportMessageHeader

namespace SimpleTransportEncap

/-- Header and payload into `buffer`; the header is written before the room for both is checked. -/
def put (type : SimpleTransportMessageType) (fail : SpdmStatus) (payload buffer : Bytes) :
    Except SpdmStatus Nat × Bytes :=
  let header := (SimpleTransportMessageHeader.mk type).encode
  if buffer.length < header.length then (.error fail, buffer)
  else
    let written := splice buffer 0 header
    if buffer.length < header.length + payload.length then (.error fail, written)
    else (.ok (header.length + payload.length), splice written header.length payload)

/-- What follows the header into `buffer`, with what the type is taken for. -/
def take (accepts : SimpleTransportMessageType → Option Bool) (fail : SpdmStatus) (packet buffer : Bytes) :
    Except SpdmStatus (Nat × Bool) × Bytes :=
  match SimpleTransportMessageHeader.read packet with
  | none => (.error fail, buffer)
  | some (header, payload) =>
    match accepts header.type with
    | none => (.error fail, buffer)
    | some flag =>
      if buffer.length < payload.length then (.error fail, buffer)
      else (.ok (payload.length, flag), splice buffer 0 payload)

def encap (spdmBuffer transportBuffer : Bytes) (securedMessage : Bool) : Except SpdmStatus Nat × Bytes :=
  put (if securedMessage then .secured else .spdm) .encapFail spdmBuffer transportBuffer

def decap (transportBuffer spdmBuffer : Bytes) : Except SpdmStatus (Nat × Bool) × Bytes :=
  take (fun type => match type with
    | .spdm => some false
    | .secured => some true
    | .app | .unknown _ => none) .decapFail transportBuffer spdmBuffer

def encapApp (spdmBuffer appBuffer : Bytes) (isAppMessage : Bool) : Except SpdmStatus Nat × Bytes :=
  put (if isAppMessage then .app else .spdm) .encapAppFail spdmBuffer appBuffer

def decapApp (appBuffer spdmBuffer : Bytes) : Except SpdmStatus (Nat × Bool) × Bytes :=
  take (fun type => match type with
    | .spdm => some false
    | .app => some true
    | .secured | .unknown _ => none) .decapAppFail appBuffer spdmBuffer

/-! ### What they write and take -/

/-- `put` succeeds when there is room, and then header and payload stand in front of the buffer. -/
theorem put_eq_ok {type : SimpleTransportMessageType} {fail : SpdmStatus} {payload buffer buffer' : Bytes}
    {used : Nat} (h : put type fail payload buffer = (.ok used, buffer')) :
    used = payload.length + 1 ∧ used ≤ buffer'.length ∧ buffer'.length = buffer.length ∧
      buffer'.take used = type.toByte :: payload := by
  unfold put at h
  dsimp only [SimpleTransportMessageHeader.encode, List.length_singleton] at h
  split at h
  · cases (Prod.mk.inj h).1
  · split at h
    · cases (Prod.mk.inj h).1
    · rename_i hheader hroom
      obtain ⟨hused, rfl⟩ := Prod.mk.inj h
      obtain rfl := Except.ok.inj hused
      have hlen : (splice (splice buffer 0 [type.toByte]) 1 payload).length = buffer.length := by
        rw [length_splice, length_splice]
      have hone : (splice buffer 0 [type.toByte]).take 1 = [type.toByte] := by
        have hroom' : [type.toByte].length ≤ buffer.length := by simp; omega
        exact take_splice_zero hroom'
      refine ⟨Nat.add_comm _ _, by omega, hlen, ?_⟩
      rw [take_splice (by rw [length_splice]; omega), hone]
      rfl

/-- `take` of a packet with an accepted type is its payload, in a buffer with room for it. -/
theorem take_cons {accepts : SimpleTransportMessageType → Option Bool} {fail : SpdmStatus}
    {x : UInt8} {flag : Bool} {payload buffer : Bytes} (haccepts : accepts (.ofByte x) = some flag)
    (hroom : payload.length ≤ buffer.length) :
    take accepts fail (x :: payload) buffer = (.ok (payload.length, flag), splice buffer 0 payload) := by
  unfold take
  simp only [SimpleTransportMessageHeader.read, haccepts]
  rw [if_neg (by omega)]

/-- And nothing in one without. -/
theorem take_short {accepts : SimpleTransportMessageType → Option Bool} {fail : SpdmStatus}
    {x : UInt8} {flag : Bool} {payload buffer : Bytes} (haccepts : accepts (.ofByte x) = some flag)
    (hshort : buffer.length < payload.length) :
    take accepts fail (x :: payload) buffer = (.error fail, buffer) := by
  unfold take
  simp only [SimpleTransportMessageHeader.read, haccepts]
  exact if_pos hshort

/-- What `take` puts in front of the buffer is the payload of the packet. -/
theorem take_eq_ok {accepts : SimpleTransportMessageType → Option Bool} {fail : SpdmStatus}
    {packet buffer buffer' : Bytes} {n : Nat} {flag : Bool}
    (h : take accepts fail packet buffer = (.ok (n, flag), buffer')) :
    ∃ x payload, packet = x :: payload ∧ accepts (.ofByte x) = some flag ∧ n = payload.length ∧
      buffer'.take n = payload := by
  unfold take at h
  cases packet with
  | nil => cases (Prod.mk.inj h).1
  | cons x payload =>
    simp only [SimpleTransportMessageHeader.read] at h
    cases haccepts : accepts (.ofByte x) with
    | none =>
      rw [haccepts] at h
      cases (Prod.mk.inj h).1
    | some taken =>
      simp only [haccepts] at h
      split at h
      · cases (Prod.mk.inj h).1
      · rename_i hroom
        obtain ⟨hresult, rfl⟩ := Prod.mk.inj h
        obtain ⟨rfl, rfl⟩ := Prod.mk.inj (Except.ok.inj hresult)
        exact ⟨x, payload, rfl, haccepts, rfl, take_splice_zero (by omega)⟩

/-- And it says no more than there is room for. -/
theorem take_within {accepts : SimpleTransportMessageType → Option Bool} {fail : SpdmStatus}
    {packet buffer buffer' : Bytes} {n : Nat} {flag : Bool}
    (h : take accepts fail packet buffer = (.ok (n, flag), buffer')) :
    n ≤ buffer'.length ∧ buffer'.length = buffer.length := by
  obtain ⟨x, payload, rfl, haccepts, rfl, -⟩ := take_eq_ok h
  by_cases hroom : payload.length ≤ buffer.length
  · rw [take_cons haccepts hroom] at h
    obtain ⟨-, rfl⟩ := Prod.mk.inj h
    rw [length_splice]
    exact ⟨hroom, rfl⟩
  · rw [take_short haccepts (by omega)] at h
    cases (Prod.mk.inj h).1

end SimpleTransportEncap

end RatsRs.Transport
