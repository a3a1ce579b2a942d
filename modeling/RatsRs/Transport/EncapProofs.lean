import RatsRs.Transport.Encap

/-! The two layers of the message codec.

`encap` and `decap` are the outer layer, `encapApp` and `decapApp` the inner one. A layer has a
type for each value of its flag, and what it takes apart is exactly what it puts together
(`Exact`); the types of the raised flags are different, and so neither layer takes the other's
messages. -/
namespace RatsRs.Transport
open Lib

namespace SimpleTransportEncap

/-- What putting together and taking apart owe to each other, for messages and packets of any length
and buffers of any size. -/
structure Exact (own : SimpleTransportMessageType)
    (encap : (message buffer : Bytes) → (flag : Bool) → Except SpdmStatus Nat × Bytes)
    (decap : (packet buffer : Bytes) → Except SpdmStatus (Nat × Bool) × Bytes) : Prop where
  /-- The header and the message fit. -/
  succeeds : ∀ message buffer flag,
    (∃ used buffer', encap message buffer flag = (.ok used, buffer')) ↔ 1 + message.length ≤ buffer.length
  /-- The message, its length and its flag come back. -/
  returns : ∀ {message buffer flag used packet}, encap message buffer flag = (.ok used, packet) →
    ∀ out : Bytes, message.length ≤ out.length →
      decap (packet.take used) out = (.ok (message.length, flag), message ++ out.drop message.length)
  accepts : ∀ packet out, (∃ n flag out', decap packet out = (.ok (n, flag), out')) ↔
    ∃ x payload, packet = x :: payload ∧
      (x = SimpleTransportMessageType.spdm.toByte ∨ x = own.toByte) ∧ payload.length ≤ out.length
  /-- What was taken out makes the packet again, in any buffer that has room for it. -/
  restores : ∀ {packet out n flag out'}, decap packet out = (.ok (n, flag), out') →
    ∀ buffer : Bytes, packet.length ≤ buffer.length →
      ∃ buffer', encap (out'.take n) buffer flag = (.ok packet.length, buffer') ∧
        buffer'.take packet.length = packet
  untouched : ∀ {packet out e out'}, decap packet out = (.error e, out') → out' = out

/-! ### One layer -/

theorem put_ok_iff {type : SimpleTransportMessageType} {fail : SpdmStatus} {message buffer : Bytes} :
    (∃ used buffer', put type fail message buffer = (.ok used, buffer')) ↔
      1 + message.length ≤ buffer.length := by
  constructor
  · intro h
    obtain ⟨used, buffer', h⟩ := h
    obtain ⟨hused, hwithin, hlen, -⟩ := put_eq_ok h
    omega
  · intro hroom
    unfold put
    dsimp only [SimpleTransportMessageHeader.encode, List.length_singleton]
    rw [if_neg (by omega), if_neg (by omega)]
    exact ⟨_, _, rfl⟩

theorem take_ok_iff {accepts : SimpleTransportMessageType → Option Bool} {fail : SpdmStatus}
    {packet out : Bytes} :
    (∃ n flag out', take accepts fail packet out = (.ok (n, flag), out')) ↔
      ∃ x payload, packet = x :: payload ∧ (∃ flag, accepts (.ofByte x) = some flag) ∧
        payload.length ≤ out.length := by
  constructor
  · intro h
    obtain ⟨n, flag, out', h⟩ := h
    obtain ⟨x, payload, rfl, haccepts, rfl, hpayload⟩ := take_eq_ok h
    refine ⟨x, payload, rfl, ⟨flag, haccepts⟩, ?_⟩
    by_contra hroom
    unfold take at h
    simp only [SimpleTransportMessageHeader.read, haccepts] at h
    rw [if_pos (by omega)] at h
    cases (Prod.mk.inj h).1
  · intro h
    obtain ⟨x, payload, rfl, ⟨flag, haccepts⟩, hroom⟩ := h
    exact ⟨_, _, _, take_cons haccepts hroom⟩

/-- No way out of `take` with an error comes after the copy. -/
theorem take_untouched {accepts : SimpleTransportMessageType → Option Bool} {fail e : SpdmStatus}
    {packet out out' : Bytes} (h : take accepts fail packet out = (.error e, out')) : out' = out := by
  unfold take at h
  split at h
  · exact (Prod.mk.inj h).2.symm
  · split at h
    · exact (Prod.mk.inj h).2.symm
    · split at h
      · exact (Prod.mk.inj h).2.symm
      · cases (Prod.mk.inj h).1

/-- A layer is exact when it accepts the type it writes for each flag and no other. -/
theorem exact_of_accepts {own : SimpleTransportMessageType}
    {encap : (message buffer : Bytes) → (flag : Bool) → Except SpdmStatus Nat × Bytes}
    {decap : (packet buffer : Bytes) → Except SpdmStatus (Nat × Bool) × Bytes}
    {accepts : SimpleTransportMessageType → Option Bool} {onPut onTake : SpdmStatus}
    (hencap : ∀ message buffer flag,
      encap message buffer flag = put (if flag then own else .spdm) onPut message buffer)
    (hdecap : ∀ packet buffer, decap packet buffer = take accepts onTake packet buffer)
    (h : ∀ x flag, accepts (.ofByte x) = some flag ↔
      x = (if flag then own else SimpleTransportMessageType.spdm).toByte) :
    Exact own encap decap where
  succeeds := by
    intro message buffer flag
    simp only [hencap, put_ok_iff]
  returns := by
    intro message buffer flag used packet hput out hroom
    rw [hencap] at hput
    obtain ⟨-, -, -, hpacket⟩ := put_eq_ok hput
    rw [hpacket, hdecap, ← splice_zero hroom]
    exact take_cons ((h _ flag).mpr rfl) hroom
  accepts := by
    intro packet out
    have hflag : ∀ x, (∃ flag, accepts (.ofByte x) = some flag) ↔
        x = SimpleTransportMessageType.spdm.toByte ∨ x = own.toByte := by
      intro x
      simp only [h, Bool.exists_bool, if_true, Bool.false_eq_true, if_false]
    simp only [hdecap, take_ok_iff, hflag]
  restores := by
    intro packet out n flag out' htake buffer hroom
    rw [hdecap] at htake
    obtain ⟨x, payload, rfl, haccepts, -, hpayload⟩ := take_eq_ok htake
    obtain rfl := (h x flag).mp haccepts
    rw [List.length_cons] at hroom
    obtain ⟨used, buffer', hput⟩ := put_ok_iff.mpr (by omega : 1 + payload.length ≤ buffer.length)
    obtain ⟨rfl, -, -, hbuffer⟩ := put_eq_ok hput
    refine ⟨buffer', ?_, hbuffer⟩
    rw [hencap, hpayload]
    exact hput
  untouched := by
    intro packet out e out' htake
    rw [hdecap] at htake
    exact take_untouched htake

/-! ### The two -/

theorem ofByte_eq_iff {x : UInt8} {type : SimpleTransportMessageType} (h : ∀ y, type ≠ .unknown y) :
    SimpleTransportMessageType.ofByte x = type ↔ x = type.toByte := by
  unfold SimpleTransportMessageType.ofByte
  cases type with
  | unknown y => exact absurd rfl (h y)
  | _ => split_ifs <;> simp_all [SimpleTransportMessageType.toByte]

theorem exact_outer : Exact .secured encap decap := by
  refine exact_of_accepts (fun _ _ _ => rfl) (fun _ _ => rfl) ?_
  intro x flag
  rw [← ofByte_eq_iff (by cases flag <;> nofun)]
  cases SimpleTransportMessageType.ofByte x <;> cases flag <;> simp

theorem exact_inner : Exact .app encapApp decapApp := by
  refine exact_of_accepts (fun _ _ _ => rfl) (fun _ _ => rfl) ?_
  intro x flag
  rw [← ofByte_eq_iff (by cases flag <;> nofun)]
  cases SimpleTransportMessageType.ofByte x <;> cases flag <;> simp

/-- A packet whose type is neither the plain one nor a layer's own is refused, the output as it was. -/
theorem Exact.refuses {own : SimpleTransportMessageType}
    {encap : (message buffer : Bytes) → (flag : Bool) → Except SpdmStatus Nat × Bytes}
    {decap : (packet buffer : Bytes) → Except SpdmStatus (Nat × Bool) × Bytes} (h : Exact own encap decap)
    {x : UInt8} {payload : Bytes} (hspdm : x ≠ SimpleTransportMessageType.spdm.toByte)
    (hown : x ≠ own.toByte) (out : Bytes) : ∃ e, decap (x :: payload) out = (.error e, out) := by
  cases hdecap : decap (x :: payload) out with
  | mk result out' =>
    cases result with
    | error e => exact ⟨e, by rw [h.untouched hdecap]⟩
    | ok taken =>
      obtain ⟨y, rest, heq, htype, -⟩ := (h.accepts _ _).mp ⟨taken.1, taken.2, out', hdecap⟩
      obtain ⟨rfl, -⟩ := List.cons.inj heq
      exact absurd htype (not_or.mpr ⟨hspdm, hown⟩)

/-- Both layers are exact, and neither takes apart what the other marks as its own. -/
theorem layers_exact_and_apart :
    Exact .secured encap decap ∧ Exact .app encapApp decapApp ∧
      (∀ {message buffer used packet}, encapApp message buffer true = (.ok used, packet) →
        ∀ out, ∃ e, decap (packet.take used) out = (.error e, out)) ∧
      (∀ {message buffer used packet}, encap message buffer true = (.ok used, packet) →
        ∀ out, ∃ e, decapApp (packet.take used) out = (.error e, out)) := by
  refine ⟨exact_outer, exact_inner, ?_, ?_⟩
  · intro message buffer used packet hput out
    obtain ⟨-, -, -, hpacket⟩ := put_eq_ok hput
    rw [hpacket]
    exact exact_outer.refuses (by decide) (by decide) out
  · intro message buffer used packet hput out
    obtain ⟨-, -, -, hpacket⟩ := put_eq_ok hput
    rw [hpacket]
    exact exact_inner.refuses (by decide) (by decide) out

end SimpleTransportEncap

end RatsRs.Transport
