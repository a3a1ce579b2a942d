import RatsRs.Lib.Sealing
import RatsRs.Transport.FramedStreamProofs
import RatsRs.Transport.Half

/-! What the halves owe to `spdmlib`, and what they make of it.

`SecuredChannel` is the assumption: sealing and opening are those of an authenticated channel,
with one key and one counter for each session and direction flag, and the transport
encapsulation around and inside the record. Under it the packet of a message is a function of
key, flag and counter (`packet`), the write half puts out these packets (`encode_ok`), and the
read half takes back the message from the packet of the other flag (`decode_packet`) and
nothing from a packet of its own (`decode_own`). -/
namespace RatsRs.Transport
open Lib SimpleTransportEncap

/-- One use of the counter of a session and a flag; nothing else about keys and counters changes. -/
structure Advanced {C Key : Type} (key : C → Nat → Option Key) (counter : C → Nat → Bool → Nat)
    (context context' : C) (sessionId : Nat) (flag : Bool) : Prop where
  keys : ∀ id, key context' id = key context id
  used : counter context' sessionId flag = counter context sessionId flag + 1
  others : ∀ id d, (id, d) ≠ (sessionId, flag) → counter context' id d = counter context id d

/-- `spdmlib` as an authenticated channel. -/
structure SecuredChannel {C Key : Type} (lib : Spdmlib C) (cfg : Config) (S : Sealing Key Bool) where
  /-- The key of a session, if there is one. -/
  key : C → Nat → Option Key
  counter : C → Nat → Bool → Nat
  /-- An encoded message went through `encap_app`, was sealed and went through `encap`. -/
  encode : ∀ {context sessionId message buffer flag used buffer' context'},
    lib.encodeSecuredMessage context sessionId message buffer flag true = (.ok used, buffer', context') →
    (∃ k appBuffer app n, key context sessionId = some k ∧ encapApp message appBuffer true = (.ok n, app) ∧
      encap (S.seals k flag (counter context sessionId flag) (app.take n)) buffer true =
        (.ok used, buffer')) ∧
    Advanced key counter context context' sessionId flag
  /-- A packet whose record opens is decoded to what `decap_app` makes of the plaintext. -/
  decode : ∀ {context sessionId k packet n record app flag} (buffer : Bytes),
    key context sessionId = some k →
    decap packet (List.replicate cfg.receiverBufferSize 0) = (.ok (n, true), record) →
    S.opens k flag (counter context sessionId flag) (record.take n) = some app →
    ∃ context', lib.decodeSecuredMessage context sessionId packet buffer flag =
        ((decapApp app buffer).1, (decapApp app buffer).2, context') ∧
      Advanced key counter context context' sessionId flag
  /-- No other packet is decoded. -/
  refuse : ∀ {context sessionId packet buffer flag decoded buffer' context'},
    lib.decodeSecuredMessage context sessionId packet buffer flag = (.ok decoded, buffer', context') →
    ∃ k n record app, key context sessionId = some k ∧
      decap packet (List.replicate cfg.receiverBufferSize 0) = (.ok (n, true), record) ∧
      S.opens k flag (counter context sessionId flag) (record.take n) = some app

section Packets
variable {Key : Type} (S : Sealing Key Bool)

/-- The packet of a message. -/
def packet (key : Key) (flag : Bool) (counter : Nat) (message : Bytes) : Bytes :=
  SimpleTransportMessageType.secured.toByte ::
    S.seals key flag counter (SimpleTransportMessageType.app.toByte :: message)

/-- The packets of messages, from a counter on. -/
def packetsFrom (key : Key) (flag : Bool) : Nat → List Bytes → List Bytes
  | _, [] => []
  | counter, message :: messages =>
    packet S key flag counter message :: packetsFrom key flag (counter + 1) messages

theorem packetsFrom_append (key : Key) (flag : Bool) (counter : Nat) (a b : List Bytes) :
    packetsFrom S key flag counter (a ++ b) =
      packetsFrom S key flag counter a ++ packetsFrom S key flag (counter + a.length) b := by
  induction a generalizing counter with
  | nil => rfl
  | cons message a ih =>
    simp only [List.cons_append, packetsFrom, ih, List.length_cons]
    rw [Nat.add_right_comm, Nat.add_assoc]

theorem exists_of_mem_packetsFrom {key : Key} {flag : Bool} {counter : Nat} {messages : List Bytes}
    {w : Bytes} (h : w ∈ packetsFrom S key flag counter messages) :
    ∃ n m, w = packet S key flag n m := by
  induction messages generalizing counter with
  | nil => cases h
  | cons message messages ih =>
    rcases List.mem_cons.mp h with hfirst | hrest
    · exact ⟨counter, message, hfirst⟩
    · exact ih hrest

end Packets

/-- Taking apart a packet of `encap`. -/
theorem decap_secured (record : Bytes) (room : Nat) (h : record.length ≤ room) :
    decap (SimpleTransportMessageType.secured.toByte :: record) (List.replicate room 0) =
        (.ok (record.length, true), splice (List.replicate room 0) 0 record) ∧
      (splice (List.replicate room 0) 0 record).take record.length = record := by
  constructor
  · exact take_cons rfl (by simpa using h)
  · exact take_splice_zero (by simpa using h)

section Halves
variable {C Key : Type} {lib : Spdmlib C} {cfg : Config} {S : Sealing Key Bool}
  (channel : SecuredChannel lib cfg S) {key : Key}

/-- What the write half puts out is the packet of its flag and counter. -/
theorem encode_ok {half : WriteHalf} {common common' : C} {message w : Bytes}
    (hkey : channel.key common half.sessionId = some key)
    (h : half.encode lib cfg common message = (.ok w, common')) :
    w = packet S key half.isRequester (channel.counter common half.sessionId half.isRequester) message ∧
      w.length ≤ cfg.senderBufferSize ∧
      Advanced channel.key channel.counter common common' half.sessionId half.isRequester := by
  cases hencoded : lib.encodeSecuredMessage common half.sessionId message
    (List.replicate cfg.senderBufferSize 0) half.isRequester true with
  | mk encoded rest =>
    obtain ⟨buffer, context⟩ := rest
    simp only [WriteHalf.encode, hencoded] at h
    split at h
    · cases (Prod.mk.inj h).1
    · obtain ⟨hpacket, rfl⟩ := Prod.mk.inj h
      obtain ⟨used, hused, hslice⟩ := bind_eq_ok.mp hpacket
      obtain rfl : encoded = .ok used := by simpa using hused
      obtain ⟨⟨k, appBuffer, app, n, hk, happ, hencap⟩, hadvanced⟩ := channel.encode hencoded
      obtain rfl : key = k := Option.some.inj (hkey.symm.trans hk)
      obtain ⟨-, -, -, happ⟩ := put_eq_ok happ
      obtain ⟨-, hwithin, hlen, hbuffer⟩ := put_eq_ok hencap
      have hw : w = buffer.take used := by
        have hcopy := Res.ofCrash_eq_ok.mp hslice
        rw [slice_ok (Nat.zero_le _) hwithin] at hcopy
        exact (Except.ok.inj hcopy).symm
      refine ⟨?_, ?_, hadvanced⟩
      · rw [hw, hbuffer, happ]
        rfl
      · rw [List.length_replicate] at hlen
        rw [hw, List.length_take, Nat.min_eq_left hwithin]
        omega

include channel in
/-- An encoding that fails does so before the library is called, or in it. -/
theorem encode_fails {half : WriteHalf} {common common' : C} {message : Bytes} {e : Fault}
    (h : half.encode lib cfg common message = (.error e, common')) :
    (common' = common ∨ ∃ status buffer, lib.encodeSecuredMessage common half.sessionId message
      (List.replicate cfg.senderBufferSize 0) half.isRequester true = (.error status, buffer, common')) ∧
      ∀ c, e ≠ .crash c := by
  cases hencoded : lib.encodeSecuredMessage common half.sessionId message
    (List.replicate cfg.senderBufferSize 0) half.isRequester true with
  | mk encoded rest =>
    obtain ⟨buffer, context⟩ := rest
    simp only [WriteHalf.encode, hencoded] at h
    split at h
    · obtain ⟨hresult, rfl⟩ := Prod.mk.inj h
      refine ⟨.inl rfl, fun c hc => ?_⟩
      rw [hc] at hresult
      exact Res.safe_fail c hresult
    · obtain ⟨hresult, rfl⟩ := Prod.mk.inj h
      cases encoded with
      | error status =>
        refine ⟨.inr ⟨status, buffer, rfl⟩, fun c hc => ?_⟩
        rw [hc] at hresult
        cases hresult
      | ok used =>
        -- what was encoded is within the buffer, so that the packet can be cut out of it
        obtain ⟨⟨k, appBuffer, app, n, -, -, hencap⟩, -⟩ := channel.encode hencoded
        obtain ⟨-, hwithin, -, -⟩ := put_eq_ok hencap
        have hok : Res.ofCrash (slice buffer 0 used) = .error e := hresult
        rw [slice_ok (Nat.zero_le used) hwithin] at hok
        cases hok

/-- The packet of the other flag and the own counter is opened and its counter used, whatever
`decap_app` makes of the message. -/
theorem decode_sealed (half : ReadHalf) (common : C) (message buf : Bytes)
    (hkey : channel.key common half.sessionId = some key)
    (hroom : (packet S key (!half.isRequester)
      (channel.counter common half.sessionId (!half.isRequester)) message).length ≤ cfg.receiverBufferSize) :
    ∃ common', lib.decodeSecuredMessage common half.sessionId (packet S key (!half.isRequester)
        (channel.counter common half.sessionId (!half.isRequester)) message) buf (!half.isRequester) =
        ((decapApp (SimpleTransportMessageType.app.toByte :: message) buf).1,
          (decapApp (SimpleTransportMessageType.app.toByte :: message) buf).2, common') ∧
      Advanced channel.key channel.counter common common' half.sessionId (!half.isRequester) := by
  obtain ⟨hdecap, hrecord⟩ := decap_secured
    (S.seals key (!half.isRequester)
      (channel.counter common half.sessionId (!half.isRequester))
      (SimpleTransportMessageType.app.toByte :: message)) cfg.receiverBufferSize (by
    rw [packet, List.length_cons] at hroom
    omega)
  have hopens := S.opens_seals key (!half.isRequester)
    (channel.counter common half.sessionId (!half.isRequester))
    (SimpleTransportMessageType.app.toByte :: message)
  exact channel.decode buf hkey hdecap (by rw [hrecord]; exact hopens)

/-- The read half gives back its message, in a buffer with room for it. -/
theorem decode_packet (half : ReadHalf) (common : C) (message buf : Bytes)
    (hkey : channel.key common half.sessionId = some key)
    (hroom : (packet S key (!half.isRequester)
      (channel.counter common half.sessionId (!half.isRequester)) message).length ≤ cfg.receiverBufferSize)
    (hbuf : message.length ≤ buf.length) :
    ∃ common', half.decode lib common (packet S key (!half.isRequester)
        (channel.counter common half.sessionId (!half.isRequester)) message) buf =
        (.ok message.length, message ++ buf.drop message.length, common') ∧
      Advanced channel.key channel.counter common common' half.sessionId (!half.isRequester) := by
  obtain ⟨common', hdecode, hadvanced⟩ := decode_sealed channel half common message buf hkey hroom
  refine ⟨common', ?_, hadvanced⟩
  have happ : decapApp (SimpleTransportMessageType.app.toByte :: message) buf =
      (.ok (message.length, true), message ++ buf.drop message.length) := by
    rw [← splice_zero hbuf]
    exact take_cons rfl hbuf
  simp only [ReadHalf.decode, hdecode, happ]
  rfl

/-- In a shorter one the call fails, but the counter is used all the same. -/
theorem decode_short (half : ReadHalf) (common : C) (message buf : Bytes)
    (hkey : channel.key common half.sessionId = some key)
    (hroom : (packet S key (!half.isRequester)
      (channel.counter common half.sessionId (!half.isRequester)) message).length ≤ cfg.receiverBufferSize)
    (hbuf : buf.length < message.length) :
    ∃ common', half.decode lib common (packet S key (!half.isRequester)
        (channel.counter common half.sessionId (!half.isRequester)) message) buf =
        (Res.fail .spdmReceive ("Failed to decode as secured message: " ++ lib.debug .decapAppFail),
          buf, common') ∧
      Advanced channel.key channel.counter common common' half.sessionId (!half.isRequester) := by
  obtain ⟨common', hdecode, hadvanced⟩ := decode_sealed channel half common message buf hkey hroom
  refine ⟨common', ?_, hadvanced⟩
  have happ : decapApp (SimpleTransportMessageType.app.toByte :: message) buf =
      (.error .decapAppFail, buf) := take_short rfl hbuf
  simp only [ReadHalf.decode, hdecode, happ]
  rfl

/-- A packet of the own flag is refused, whatever its counter. -/
theorem decode_own {half : ReadHalf} {common : C} {message buf : Bytes} {counter used : Nat}
    (hkey : channel.key common half.sessionId = some key) :
    (half.decode lib common (packet S key half.isRequester counter message) buf).1 ≠ .ok used := by
  intro h
  cases hdecoded : lib.decodeSecuredMessage common half.sessionId
    (packet S key half.isRequester counter message) buf (!half.isRequester) with
  | mk decoded rest =>
    obtain ⟨buffer, context⟩ := rest
    simp only [ReadHalf.decode, hdecoded] at h
    obtain ⟨taken, htaken, -⟩ := bind_eq_ok.mp h
    obtain rfl : decoded = .ok taken := by simpa using htaken
    obtain ⟨k, n, record, app, hk, hdecap, hopens⟩ := channel.refuse hdecoded
    obtain rfl : key = k := Option.some.inj (hkey.symm.trans hk)
    obtain ⟨x, payload, hpacket, -, -, hrecord⟩ := take_eq_ok hdecap
    obtain ⟨-, hpayload⟩ := List.cons.inj hpacket
    rw [hrecord, ← hpayload, S.opens_other (by simp)] at hopens
    cases hopens

end Halves

end RatsRs.Transport
