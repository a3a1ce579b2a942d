import RatsRs.Errors
import RatsRs.Lib.Bytes

/-! The OpenSSL transports.

`Client` and `Server` keep the session, once there is one, and send by one `SSL_write`, whose
length argument and whose result are 32 bits wide. `SslWrite` is that function by its
documentation. A send keeps its word (`Honest`) when `Ok` means that the whole string was given
and taken and every failure is an `Err`; `send_honest_iff` says for which strings and which
answers of `SSL_write` it does. -/
namespace RatsRs.Transport.Tls
open Lib

/-- `SSL_write`: a positive result is how much of the buffer was written, zero and the negative
ones are failures. `written` is what a session has taken so far. -/
structure SslWrite (S : Type) where
  write : (session : S) → (buf : Bytes) → (num : Int32) → Int32 × S
  written : S → Bytes
  taken : ∀ {session buf num res session'}, write session buf num = (res, session') → 0 < res →
    res ≤ num ∧ written session' = written session ++ buf.take res.toInt.toNat
  refused : ∀ {session buf num res session'}, write session buf num = (res, session') → res ≤ 0 →
    written session' = written session

/-- `len as i32`. -/
def asI32 (len : Nat) : Int32 := Int32.ofNat len

theorem asI32_eq_iff {len : Nat} : (asI32 len).toInt = len ↔ len < 2 ^ 31 := by
  constructor
  · intro h
    have := (asI32 len).toInt_lt
    omega
  · exact Int32.toInt_ofNat_of_lt

/-- Narrowing wraps around, and never to a larger number. -/
theorem asI32_le (len : Nat) : (asI32 len).toInt ≤ len := by
  by_cases h : len < 2 ^ 31
  · exact Int.le_of_eq (asI32_eq_iff.mpr h)
  · have := (asI32 len).toInt_lt
    omega

/-- A session that takes whatever it is given. -/
def SslWrite.open : SslWrite Bytes where
  write session buf num := (num, if 0 < num then session ++ buf.take num.toInt.toNat else session)
  written session := session
  taken := by
    intro session buf num res session' h hpos
    obtain ⟨rfl, rfl⟩ := Prod.mk.inj h
    exact ⟨Int32.le_refl _, if_pos hpos⟩
  refused := by
    intro session buf num res session' h hle
    obtain ⟨rfl, rfl⟩ := Prod.mk.inj h
    exact if_neg (Int32.not_lt.mpr hle)

/-- A session whose peer is gone. -/
def SslWrite.closed : SslWrite Bytes where
  write session _ _ := (0, session)
  written session := session
  taken := by
    intro session buf num res session' h hpos
    obtain ⟨rfl, -⟩ := Prod.mk.inj h
    exact absurd hpos (by decide)
  refused := by
    intro session buf num res session' h hle
    exact (Prod.mk.inj h).2.symm

section Send
variable {S : Type} (W : SslWrite S)

/-- `send`, which both transports have: the result and the session it leaves. -/
def sslSend (sslSession : Option S) (bytes : Bytes) : Res Unit × Option S :=
  match sslSession with
  | none => (.error (.error (.ofKind .osslCtxOrSessionUninitialized)), none)
  | some session =>
    let (res, session) := W.write session bytes (asI32 bytes.length)
    if res < 0 then (.error (.error (.ofKind .osslSendFail)), some session)
    else (.ok (), some session)

structure Client (S : Type) where
  sslSession : Option S

def Client.send (self : Client S) (bytes : Bytes) : Res Unit × Client S :=
  let (result, sslSession) := sslSend W self.sslSession bytes
  (result, { self with sslSession })

structure Server (S : Type) where
  sslSession : Option S

def Server.send (self : Server S) (bytes : Bytes) : Res Unit × Server S :=
  let (result, sslSession) := sslSend W self.sslSession bytes
  (result, { self with sslSession })

theorem Client.send_result (self : Client S) (bytes : Bytes) :
    (self.send W bytes).1 = (sslSend W self.sslSession bytes).1 := rfl

theorem Server.send_result (self : Server S) (bytes : Bytes) :
    (self.send W bytes).1 = (sslSend W self.sslSession bytes).1 := rfl

/-! ### What a send owes -/

/-- The call of `SSL_write` a send makes. -/
def SslWrite.answer (session : S) (bytes : Bytes) : Int32 × S := W.write session bytes (asI32 bytes.length)

/-- The word of a send: `Ok` only when the length passed was the length there is and the session has
taken every byte; an `Err` for every failure and for a length that does not fit. -/
structure Honest (sslSession : Option S) (bytes : Bytes) (result : Res Unit) : Prop where
  ok : result = .ok () → ∃ session, sslSession = some session ∧ (asI32 bytes.length).toInt = bytes.length ∧
    W.written (W.answer session bytes).2 = W.written session ++ bytes
  failure : ∀ session, sslSession = some session → (W.answer session bytes).1 ≤ 0 →
    ∃ e, result = .error (.error e)
  unfit : 2 ^ 31 ≤ bytes.length → ∃ e, result = .error (.error e)

/-- Without a session, or for an answer below zero, or for a positive answer that is the length. -/
def Kept (sslSession : Option S) (bytes : Bytes) : Prop :=
  ∀ session, sslSession = some session →
    (W.answer session bytes).1 < 0 ∨
      (0 < (W.answer session bytes).1 ∧ bytes.length < 2 ^ 31 ∧
        (W.answer session bytes).1.toInt = bytes.length)

variable {W}

theorem sslSend_negative {session : S} {bytes : Bytes} (h : (W.answer session bytes).1 < 0) :
    (sslSend W (some session) bytes).1 = .error (.error (.ofKind .osslSendFail)) := by
  show (if (W.answer session bytes).1 < 0 then _ else _ : Res Unit × Option S).1 = _
  rw [if_pos h]

theorem sslSend_ok {session : S} {bytes : Bytes} (h : ¬ (W.answer session bytes).1 < 0) :
    (sslSend W (some session) bytes).1 = .ok () := by
  show (if (W.answer session bytes).1 < 0 then _ else _ : Res Unit × Option S).1 = _
  rw [if_neg h]

/-- Whatever was taken is at most what was there, and all of it only for an answer that says so. -/
theorem answer_eq_length {session : S} {bytes : Bytes} (hpos : 0 < (W.answer session bytes).1)
    (hwritten : W.written (W.answer session bytes).2 = W.written session ++ bytes) :
    (W.answer session bytes).1.toInt = bytes.length := by
  obtain ⟨hnum, htaken⟩ := W.taken (Prod.mk.eta (p := W.answer session bytes)).symm hpos
  rw [Int32.lt_iff_toInt_lt, Int32.toInt_zero] at hpos
  rw [Int32.le_iff_toInt_le] at hnum
  have hle := asI32_le bytes.length
  have hall : bytes.take (W.answer session bytes).1.toInt.toNat = bytes :=
    List.append_cancel_left (htaken.symm.trans hwritten)
  rw [List.take_eq_self_iff] at hall
  omega

theorem sslSend_honest_iff {sslSession : Option S} {bytes : Bytes} :
    Honest W sslSession bytes (sslSend W sslSession bytes).1 ↔ Kept W sslSession bytes := by
  constructor
  · intro h session hsession
    subst hsession
    by_cases hneg : (W.answer session bytes).1 < 0
    · exact .inl hneg
    · have hok := sslSend_ok hneg
      obtain ⟨session', hsession', hfits, hwritten⟩ := h.ok hok
      obtain rfl := Option.some.inj hsession'
      have hpos : 0 < (W.answer session bytes).1 := by
        by_contra hzero
        obtain ⟨e, he⟩ := h.failure session rfl (Int32.not_lt.mp hzero)
        rw [hok] at he
        cases he
      exact .inr ⟨hpos, asI32_eq_iff.mp hfits, answer_eq_length hpos hwritten⟩
  · intro h
    cases sslSession with
    | none => exact ⟨nofun, nofun, fun _ => ⟨_, rfl⟩⟩
    | some session =>
      obtain hneg | ⟨hpos, hfits, hall⟩ := h session rfl
      · have herr := sslSend_negative hneg
        refine ⟨fun hok => ?_, fun _ _ _ => ⟨_, herr⟩, fun _ => ⟨_, herr⟩⟩
        rw [herr] at hok
        cases hok
      · refine ⟨fun _ => ⟨session, rfl, asI32_eq_iff.mpr hfits, ?_⟩, ?_, ?_⟩
        · obtain ⟨-, htaken⟩ := W.taken (Prod.mk.eta (p := W.answer session bytes)).symm hpos
          rw [htaken, hall, Int.toNat_natCast, List.take_length]
        · intro session' hsession' hle
          obtain rfl := Option.some.inj hsession'
          exact absurd hpos (Int32.not_lt.mpr hle)
        · intro hlong
          omega

end Send

/-- **Main theorem.** A send of a client or a server keeps its word exactly when there is no session,
or `SSL_write` answers below zero, or the length fits its argument and it answers that length, not
zero. -/
theorem send_honest_iff {S : Type} (W : SslWrite S) (bytes : Bytes) :
    (∀ client : Client S,
      Honest W client.sslSession bytes (client.send W bytes).1 ↔ Kept W client.sslSession bytes) ∧
    (∀ server : Server S,
      Honest W server.sslSession bytes (server.send W bytes).1 ↔ Kept W server.sslSession bytes) := by
  constructor
  · intro client
    rw [Client.send_result]
    exact sslSend_honest_iff
  · intro server
    rw [Server.send_result]
    exact sslSend_honest_iff

/-- Five bytes more than 32 bits can count are five bytes to `SSL_write`. -/
theorem sslSend_wraps {bytes : Bytes} (hlen : bytes.length = 2 ^ 32 + 5) :
    ((⟨some []⟩ : Client Bytes).send .open bytes).1 = .ok () ∧
      ¬ Honest .open (some []) bytes ((⟨some []⟩ : Client Bytes).send .open bytes).1 ∧
      ¬ Honest .open (some []) bytes ((⟨some []⟩ : Server Bytes).send .open bytes).1 := by
  have hanswer : (SslWrite.answer .open [] bytes).1 = 5 := by
    show asI32 bytes.length = 5
    rw [hlen]
    decide
  have hkept : ¬ Kept .open (some []) bytes := by
    intro h
    obtain hneg | ⟨-, hfits, -⟩ := h [] rfl
    · rw [hanswer] at hneg
      exact absurd hneg (by decide)
    · omega
  have hok : (sslSend .open (some []) bytes).1 = .ok () := by
    apply sslSend_ok
    rw [hanswer]
    decide
  rw [Client.send_result, Server.send_result]
  exact ⟨hok, mt sslSend_honest_iff.mp hkept, mt sslSend_honest_iff.mp hkept⟩

/-- A byte to a peer that is gone, and five bytes more than 32 bits can count: of the first nothing
is sent, of the second five bytes, and both are `Ok`, for a client and for a server. -/
theorem send_ok_unsent :
    (((⟨some []⟩ : Client Bytes).send .closed [1]).1 = .ok () ∧
      ¬ Honest .closed (some []) [1] ((⟨some []⟩ : Client Bytes).send .closed [1]).1 ∧
      ¬ Honest .closed (some []) [1] ((⟨some []⟩ : Server Bytes).send .closed [1]).1) ∧
    (((⟨some []⟩ : Client Bytes).send .open (List.replicate (2 ^ 32 + 5) 0)).1 = .ok () ∧
      ¬ Honest .open (some []) (List.replicate (2 ^ 32 + 5) 0)
        ((⟨some []⟩ : Client Bytes).send .open (List.replicate (2 ^ 32 + 5) 0)).1 ∧
      ¬ Honest .open (some []) (List.replicate (2 ^ 32 + 5) 0)
        ((⟨some []⟩ : Server Bytes).send .open (List.replicate (2 ^ 32 + 5) 0)).1) := by
  have hclosed : ¬ Kept .closed (some []) [1] := by
    intro h
    obtain hneg | ⟨hpos, -⟩ := h [] rfl
    · exact absurd hneg (by decide)
    · exact absurd hpos (by decide)
  exact ⟨⟨rfl, mt sslSend_honest_iff.mp hclosed, mt sslSend_honest_iff.mp hclosed⟩,
    sslSend_wraps List.length_replicate⟩

end RatsRs.Transport.Tls
