import RatsRs.Errors
import RatsRs.Lib.ByteStream

/-! The rustls transports.

`RustlsClient` and `RustlsServer` keep the write half of a TLS stream, and `send` makes one
`write` on it. A write may take less than it is given and be `Ok`; `send` drops the
number. What two sends that are `Ok` have put on the stream is therefore what their
messages are only when every write took its message whole (`sends_lossless_iff`). -/
namespace RatsRs.Transport
open Lib

/-- `writer.write(bytes).await?; Ok(())`, which both transports make. -/
def writeOnce {τ : Type} (W : AsyncWrite τ) (writer : τ) (bytes : Bytes) : Res Unit × τ :=
  let (written, writer) := W.write writer bytes
  (Res.ofForeign written >>= fun _ => .ok (), writer)

/-! ### The client -/

/-- The write half there is after `negotiate`. -/
structure RustlsClient (τ : Type) where
  writer : Option τ

namespace RustlsClient
variable {τ : Type}

/-- `negotiate`, by what connecting and the handshake come to. -/
def negotiate (self : RustlsClient τ) (connect : Except String τ) : Res Unit × RustlsClient τ :=
  match connect with
  | .ok writer => (.ok (), { self with writer := some writer })
  | .error e => (Res.ofForeign (.error e), self)

def send (W : AsyncWrite τ) (self : RustlsClient τ) (bytes : Bytes) : Res Unit × RustlsClient τ :=
  match self.writer with
  | none => (.error (.crash .panic), self)
  | some writer =>
    let (result, writer) := writeOnce W writer bytes
    (result, { self with writer := some writer })

end RustlsClient

/-! ### The server -/

structure NegotiateInner (τ : Type) where
  writer : τ

structure RustlsServer (σ τ : Type) where
  stream : Option σ
  inner : Option (NegotiateInner τ)

namespace RustlsServer
variable {σ τ : Type}

/-- `negotiate`: the stream is taken, so that a second call panics. -/
def negotiate (self : RustlsServer σ τ) (accept : σ → Except String τ) :
    Res Unit × RustlsServer σ τ :=
  match self.stream with
  | none => (.error (.crash .panic), self)
  | some stream =>
    match accept stream with
    | .ok writer => (.ok (), ⟨none, some ⟨writer⟩⟩)
    | .error e => (Res.ofForeign (.error e), { self with stream := none })

def send (W : AsyncWrite τ) (self : RustlsServer σ τ) (bytes : Bytes) : Res Unit × RustlsServer σ τ :=
  match self.inner with
  | none => (.error (.crash .panic), self)
  | some inner =>
    let (result, writer) := writeOnce W inner.writer bytes
    (result, { self with inner := some ⟨writer⟩ })

end RustlsServer

/-! ### Sends one after the other -/

/-- All of the messages are sent, and all sends are `Ok`. -/
inductive AllOk {σ : Type} (send : σ → Bytes → Res Unit × σ) : σ → List Bytes → σ → Prop
  | none (s : σ) : AllOk send s [] s
  | more {s s' s'' : σ} {message : Bytes} {messages : List Bytes} (ok : send s message = (.ok (), s'))
      (rest : AllOk send s' messages s'') : AllOk send s (message :: messages) s''

section Sends
variable {τ : Type} {W : AsyncWrite τ}

theorem writeOnce_eq_ok {writer writer' : τ} {bytes : Bytes} :
    writeOnce W writer bytes = (.ok (), writer') ↔ ∃ n, W.write writer bytes = (.ok n, writer') := by
  unfold writeOnce
  cases W.write writer bytes with
  | mk written after =>
    cases written with
    | ok n => simp [Res.ofForeign]
    | error e => simp [Res.ofForeign]

/-- The sends of a transport that keeps its writer under `put` are writes of the writer. -/
theorem AllOk.writes {σ : Type} {send : σ → Bytes → Res Unit × σ} {writer : τ} {messages : List Bytes}
    {s : σ} (put : τ → σ)
    (hsend : ∀ w bytes, send (put w) bytes = ((writeOnce W w bytes).1, put (writeOnce W w bytes).2))
    (h : AllOk send (put writer) messages s) :
    ∃ writer', s = put writer' ∧ AllOk (writeOnce W) writer messages writer' := by
  generalize hstart : put writer = start at h
  induction h generalizing writer with
  | none s => exact ⟨writer, hstart.symm, .none writer⟩
  | @more s s' s'' message messages ok rest ih =>
    rw [← hstart, hsend] at ok
    obtain ⟨hok, hput⟩ := Prod.mk.inj ok
    obtain ⟨writer', hs, hwrites⟩ := ih hput
    exact ⟨writer', hs, .more (Prod.ext hok rfl) hwrites⟩

/-- Writes that are `Ok` put no more on the stream than their messages, and less if one of
them is not whole. -/
theorem length_accepted {writer writer' : τ} {messages : List Bytes}
    (h : AllOk (writeOnce W) writer messages writer') :
    (W.accepted writer').length ≤ (W.accepted writer).length + messages.flatten.length ∧
      ((W.accepted writer').length = (W.accepted writer).length + messages.flatten.length →
        W.Whole writer messages) := by
  induction h with
  | none writer => exact ⟨Nat.le_refl _, fun _ => trivial⟩
  | @more writer writer₁ writer' message messages ok rest ih =>
    obtain ⟨hle, hwhole⟩ := ih
    obtain ⟨n, hwrite⟩ := writeOnce_eq_ok.mp ok
    obtain ⟨hn, haccepted⟩ := W.write_ok hwrite
    have hlen : (W.accepted writer₁).length = (W.accepted writer).length + n := by
      rw [haccepted, List.length_append, List.length_take, Nat.min_eq_left hn]
    rw [List.flatten_cons, List.length_append]
    refine ⟨by omega, fun heq => ?_⟩
    have hall : n = message.length := by omega
    refine ⟨by rw [hwrite, hall], ?_⟩
    rw [hwrite]
    exact hwhole (by omega)

/-- Writes that are all whole put their messages on the stream. -/
theorem accepted_of_whole {writer writer' : τ} {messages : List Bytes}
    (h : AllOk (writeOnce W) writer messages writer') (hwhole : W.Whole writer messages) :
    W.accepted writer' = W.accepted writer ++ messages.flatten := by
  induction h with
  | none writer => simp
  | @more writer writer₁ writer' message messages ok rest ih =>
    obtain ⟨n, hwrite⟩ := writeOnce_eq_ok.mp ok
    obtain ⟨hfirst, hrest⟩ := hwhole
    rw [hwrite] at hfirst hrest
    obtain rfl : n = message.length := Except.ok.inj hfirst
    rw [ih hrest, (W.write_ok hwrite).2, List.take_length, List.flatten_cons, List.append_assoc]

theorem accepted_iff {writer writer' : τ} {messages : List Bytes}
    (h : AllOk (writeOnce W) writer messages writer') :
    W.accepted writer' = W.accepted writer ++ messages.flatten ↔ W.Whole writer messages := by
  constructor
  · intro haccepted
    exact (length_accepted h).2 (by rw [haccepted, List.length_append])
  · exact accepted_of_whole h

end Sends

/-- **Main theorem.** After any run of sends that are all `Ok`, by a client or a server that has
negotiated, the writer has accepted exactly the messages, in order, if and only if each write took
its message whole. -/
theorem sends_lossless_iff {σ τ : Type} (W : AsyncWrite τ) (writer : τ) (messages : List Bytes) :
    (∀ client client' : RustlsClient τ,
      AllOk (RustlsClient.send W) (client.negotiate (.ok writer)).2 messages client' →
      ∃ writer', client'.writer = some writer' ∧
        (W.accepted writer' = W.accepted writer ++ messages.flatten ↔ W.Whole writer messages)) ∧
    (∀ (stream : σ) (accept : σ → Except String τ) (inner : Option (NegotiateInner τ))
        (server' : RustlsServer σ τ), accept stream = .ok writer →
      AllOk (RustlsServer.send W) (RustlsServer.negotiate ⟨some stream, inner⟩ accept).2 messages server' →
      ∃ writer', server'.inner = some ⟨writer'⟩ ∧
        (W.accepted writer' = W.accepted writer ++ messages.flatten ↔ W.Whole writer messages)) := by
  constructor
  · intro client client' hsends
    obtain ⟨writer', rfl, hwrites⟩ :=
      AllOk.writes (fun w => (⟨some w⟩ : RustlsClient τ)) (fun _ _ => rfl) hsends
    exact ⟨writer', rfl, accepted_iff hwrites⟩
  · intro stream accept inner server' haccept hsends
    unfold RustlsServer.negotiate at hsends
    simp only [haccept] at hsends
    obtain ⟨writer', rfl, hwrites⟩ :=
      AllOk.writes (fun w => (⟨none, some ⟨w⟩⟩ : RustlsServer σ τ)) (fun _ _ => rfl) hsends
    exact ⟨writer', rfl, accepted_iff hwrites⟩

/-- Two short messages on a writer that takes four bytes at a time. -/
theorem short_sends_lossless :
    ∃ writer', (⟨some [1, 2, 3, 4]⟩ : RustlsClient Bytes).writer = some writer' ∧
      (AsyncWrite.upTo 4).accepted writer' = ([[1, 2, 3], [4]] : List Bytes).flatten := by
  have hsends : AllOk (RustlsClient.send (.upTo 4)) (RustlsClient.negotiate ⟨none⟩ (.ok [])).2
      [[1, 2, 3], [4]] ⟨some [1, 2, 3, 4]⟩ := .more rfl (.more rfl (.none _))
  obtain ⟨writer', hwriter, hiff⟩ :=
    (sends_lossless_iff (σ := Unit) (.upTo 4) [] [[1, 2, 3], [4]]).1 _ _ hsends
  exact ⟨writer', hwriter, hiff.mpr ⟨rfl, rfl, trivial⟩⟩

/-- A message of six bytes on the same writer: client and server return `Ok`, two bytes are gone,
and the next message follows the other four. -/
theorem long_send_loses :
    AllOk (RustlsClient.send (.upTo 4)) (RustlsClient.negotiate ⟨none⟩ (.ok [])).2
        [[1, 2, 3, 4, 5, 6], [7]] ⟨some [1, 2, 3, 4, 7]⟩ ∧
      AllOk (RustlsServer.send (.upTo 4)) (RustlsServer.negotiate ⟨some (), none⟩ fun _ => .ok []).2
        [[1, 2, 3, 4, 5, 6], [7]] ⟨none, some ⟨[1, 2, 3, 4, 7]⟩⟩ ∧
      (AsyncWrite.upTo 4).accepted [1, 2, 3, 4, 7] ≠
        (AsyncWrite.upTo 4).accepted [] ++ ([[1, 2, 3, 4, 5, 6], [7]] : List Bytes).flatten :=
  ⟨.more rfl (.more rfl (.none _)), .more rfl (.more rfl (.none _)), by decide⟩

end RatsRs.Transport
