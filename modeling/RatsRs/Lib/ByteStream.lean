import RatsRs.Lib.Bytes

/-! Byte streams as the calls that read and write them see them.

`Read` and `Write` are the two standard traits by their contracts. What a run of reads
was answered is a list of `Answer`s, and `Asked` says that a stream gave them; a proof
about code that reads is a proof about the answers it was given. `Source` is a stream
with a given content: `turns` decides how much each read gets and where one fails, and
every answer is logged. -/
namespace RatsRs.Lib

/-- What a read returns: an error, or the bytes it put in front of the buffer. -/
abbrev Answer := Except String Bytes

/-- The bytes some reads handed out. -/
def handed : List Answer → Bytes
  | [] => []
  | .ok bytes :: more => bytes ++ handed more
  | .error _ :: more => handed more

@[simp] theorem handed_append (a b : List Answer) : handed (a ++ b) = handed a ++ handed b := by
  induction a with
  | nil => rfl
  | cons answer more ih => cases answer <;> simp [handed, ih]

@[simp] theorem handed_singleton_ok (bytes : Bytes) : handed [.ok bytes] = bytes := List.append_nil _

@[simp] theorem handed_singleton_error (e : String) : handed [.error e] = [] := rfl

/-- `Read`: a read fills at most the buffer it is given. -/
structure Read (σ : Type) where
  read : σ → Nat → Answer × σ
  within : ∀ {s n bytes s'}, read s n = (.ok bytes, s') → bytes.length ≤ n

/-- Reads into buffers that are not empty, one after the other, were answered so. -/
inductive Read.Asked {σ : Type} (R : Read σ) : σ → List Answer → σ → Prop
  | none (s : σ) : Asked R s [] s
  | more {s s' s'' : σ} {n : Nat} {answer : Answer} {answers : List Answer} (room : 0 < n)
      (read : R.read s n = (answer, s')) (rest : Asked R s' answers s'') :
      Asked R s (answer :: answers) s''

/-! ### A log of the reads -/

/-- A read as the stream saw it: the room there was, and the answer. -/
structure Ask where
  room : Nat
  answer : Answer
  deriving DecidableEq

/-- The same stream, with a log of its reads. -/
def Read.logged {σ : Type} (R : Read σ) : Read (σ × List Ask) where
  read s n := ((R.read s.1 n).1, (R.read s.1 n).2, s.2 ++ [⟨n, (R.read s.1 n).1⟩])
  within := by
    intro s n bytes s' h
    exact R.within (Prod.ext (Prod.mk.inj h).1 rfl)

/-- What the bytes were that logged reads handed out. -/
def askedBytes (asks : List Ask) : Bytes := handed (asks.map Ask.answer)

@[simp] theorem askedBytes_cons (ask : Ask) (asks : List Ask) :
    askedBytes (ask :: asks) = handed [ask.answer] ++ askedBytes asks := handed_append [ask.answer] _

/-- A read of a stream whose content, so far, is `stream`, and what it leaves: it fails, or hands out
some front part that fits the room there is. -/
inductive Reads (stream : Bytes) (room : Nat) : Answer → Bytes → Prop
  | fail (e : String) : Reads stream room (.error e) stream
  | give (n : Nat) (h : n ≤ room) : Reads stream room (.ok (stream.take n)) (stream.drop n)

theorem Reads.split {stream rest : Bytes} {room : Nat} {answer : Answer}
    (h : Reads stream room answer rest) : stream = handed [answer] ++ rest := by
  cases h with
  | fail e => rfl
  | give n h => rw [handed_singleton_ok, List.take_append_drop]

theorem Reads.within {stream rest bytes : Bytes} {room : Nat}
    (h : Reads stream room (.ok bytes) rest) : bytes.length ≤ room := by
  cases h with
  | give n h => exact Nat.le_trans (List.length_take_le _ _) h

/-- What is read of a stream could be read of a longer one. -/
theorem Reads.append {stream rest : Bytes} {room : Nat} {answer : Answer} (tail : Bytes)
    (h : Reads stream room answer rest) : Reads (stream ++ tail) room answer (rest ++ tail) := by
  cases h with
  | fail e => exact .fail e
  | give n hroom =>
    have hread : Reads (stream ++ tail) room _ _ :=
      .give (min n stream.length) (Nat.le_trans (Nat.min_le_left _ _) hroom)
    rw [List.take_append_of_le_length (Nat.min_le_right _ _),
      List.drop_append_of_le_length (Nat.min_le_right _ _)] at hread
    rcases Nat.le_total n stream.length with hle | hle
    · rwa [Nat.min_eq_left hle] at hread
    · rw [Nat.min_eq_right hle, List.take_length, List.drop_length] at hread
      rwa [List.take_of_length_le hle, List.drop_eq_nil_of_le hle]

/-- `Write`, as far as whole buffers go: when `write_all` returns without an error the buffer
has been written, and a flush writes nothing new. -/
structure Write (τ : Type) where
  writeAll : τ → Bytes → Except String Unit × τ
  flush : τ → Except String Unit × τ
  written : τ → Bytes
  writeAll_ok : ∀ {t bytes t'}, writeAll t bytes = (.ok (), t') → written t' = written t ++ bytes
  flush_written : ∀ {t r t'}, flush t = (r, t') → written t' = written t

/-- A write of a whole buffer that fails has written some front part of it. -/
def Write.KeepsFront {τ : Type} (W : Write τ) : Prop :=
  ∀ {t bytes e t'}, W.writeAll t bytes = (.error e, t') →
    ∃ front, front <+: bytes ∧ W.written t' = W.written t ++ front

/-- A string that can always be appended to. -/
def Write.string : Write Bytes where
  writeAll t bytes := (.ok (), t ++ bytes)
  flush t := (.ok (), t)
  written t := t
  writeAll_ok := by
    intro t bytes t' h
    exact (Prod.mk.inj h).2.symm
  flush_written := by
    intro t r t' h
    exact (Prod.mk.inj h).2.symm

/-- A string that fails: each write of a whole buffer has a limit, while there are any, and a longer
buffer is cut there. -/
structure Faulty where
  written : Bytes
  limits : List Nat
  deriving DecidableEq

namespace Faulty

def writeAll (t : Faulty) (bytes : Bytes) : Except String Unit × Faulty :=
  match t.limits with
  | [] => (.ok (), ⟨t.written ++ bytes, []⟩)
  | limit :: limits =>
    if bytes.length ≤ limit then (.ok (), ⟨t.written ++ bytes, limits⟩)
    else (.error "timed out", ⟨t.written ++ bytes.take limit, limits⟩)

def writer : Write Faulty where
  writeAll := writeAll
  flush t := (.ok (), t)
  written t := t.written
  writeAll_ok := by
    intro t bytes t' h
    unfold writeAll at h
    split at h
    · rw [← (Prod.mk.inj h).2]
    · split at h
      · rw [← (Prod.mk.inj h).2]
      · cases (Prod.mk.inj h).1
  flush_written := by
    intro t r t' h
    rw [(Prod.mk.inj h).2]

theorem writer_keeps : writer.KeepsFront := by
  intro t bytes e t' h
  have h : writeAll t bytes = (.error e, t') := h
  unfold writeAll at h
  split at h
  · cases (Prod.mk.inj h).1
  · split at h
    · cases (Prod.mk.inj h).1
    · rename_i limit limits hlimits hlong
      obtain ⟨-, rfl⟩ := Prod.mk.inj h
      exact ⟨bytes.take limit, List.take_prefix _ _, rfl⟩

end Faulty

/-! ### Single writes -/

/-- `AsyncWrite`: a write takes some front part of the buffer and says how long it is, or fails
and takes nothing. -/
structure AsyncWrite (τ : Type) where
  write : τ → Bytes → Except String Nat × τ
  accepted : τ → Bytes
  write_ok : ∀ {t buf n t'}, write t buf = (.ok n, t') →
    n ≤ buf.length ∧ accepted t' = accepted t ++ buf.take n
  write_error : ∀ {t buf e t'}, write t buf = (.error e, t') → accepted t' = accepted t

namespace AsyncWrite
variable {τ : Type} (W : AsyncWrite τ)

/-- Written one after the other, each of the buffers is taken whole. -/
def Whole : τ → List Bytes → Prop
  | _, [] => True
  | t, buf :: more => (W.write t buf).1 = .ok buf.length ∧ Whole (W.write t buf).2 more

/-- A writer that takes at most `limit` bytes at a time, and keeps them. -/
def upTo (limit : Nat) : AsyncWrite Bytes where
  write t buf := (.ok (min limit buf.length), t ++ buf.take limit)
  accepted t := t
  write_ok := by
    intro t buf n t' h
    obtain ⟨hn, ht⟩ := Prod.mk.inj h
    obtain rfl := Except.ok.inj hn
    refine ⟨Nat.min_le_right _ _, ?_⟩
    rw [← ht]
    simp
  write_error := by
    intro t buf e t' h
    cases (Prod.mk.inj h).1

end AsyncWrite

/-! ### A stream with a given content -/

/-- What happens at a read. -/
inductive Turn where
  | fail (e : String)
  /-- At most this many bytes are there. -/
  | give (n : Nat)
  deriving DecidableEq, Repr

structure Source where
  rest : Bytes
  /-- What is decided for the reads to come; after the last, all there is can be read. -/
  turns : List Turn
  log : List Answer
  deriving DecidableEq

namespace Source

def new (content : Bytes) (turns : List Turn) : Source := ⟨content, turns, []⟩

/-- Hand out `n` bytes, or what there is. -/
def hand (s : Source) (n : Nat) (turns : List Turn) : Answer × Source :=
  (.ok (s.rest.take n), ⟨s.rest.drop n, turns, s.log ++ [.ok (s.rest.take n)]⟩)

def readInto (s : Source) (n : Nat) : Answer × Source :=
  match s.turns with
  | [] => s.hand n []
  | .give k :: turns => s.hand (min k n) turns
  | .fail e :: turns => (.error e, { s with turns := turns, log := s.log ++ [.error e] })

def reader : Read Source where
  read := readInto
  within := by
    intro s n bytes s' h
    unfold readInto hand at h
    split at h
    · obtain ⟨h, -⟩ := Prod.mk.inj h
      obtain rfl := Except.ok.inj h
      simp
    · obtain ⟨h, -⟩ := Prod.mk.inj h
      obtain rfl := Except.ok.inj h
      simp only [List.length_take]
      omega
    · cases (Prod.mk.inj h).1

/-- Each read of a `Source` is one of its rest. -/
theorem readInto_reads {s s' : Source} {n : Nat} {answer : Answer}
    (h : s.readInto n = (answer, s')) : Reads s.rest n answer s'.rest := by
  unfold readInto hand at h
  split at h
  all_goals obtain ⟨rfl, rfl⟩ := Prod.mk.inj h
  · exact .give n (Nat.le_refl n)
  · exact .give _ (Nat.min_le_right _ n)
  · exact .fail _

/-- How many of the reads to come fail. -/
def failures (turns : List Turn) : Nat :=
  turns.countP fun turn => match turn with | .fail _ => true | .give _ => false

def errors (answers : List Answer) : Nat :=
  answers.countP fun answer => match answer with | .error _ => true | .ok _ => false

/-- No read gets nothing while there is something. -/
def Lively (turns : List Turn) : Prop := ∀ turn ∈ turns, turn ≠ .give 0

theorem Lively.tail {turn : Turn} {turns : List Turn} (h : Lively (turn :: turns)) : Lively turns :=
  fun t ht => h t (List.mem_cons_of_mem turn ht)

/-- One read: what it hands out leaves the front of the rest, and its answer is logged. -/
theorem readInto_spec {s s' : Source} {n : Nat} {answer : Answer}
    (h : s.readInto n = (answer, s')) :
    s'.log = s.log ++ [answer] ∧ s.rest = handed [answer] ++ s'.rest ∧
      failures s.turns = errors [answer] + failures s'.turns := by
  unfold readInto hand at h
  split at h
  all_goals obtain ⟨rfl, rfl⟩ := Prod.mk.inj h
  all_goals simp_all [failures, errors, Nat.add_comm]

theorem readInto_lively {s s' : Source} {n : Nat} {answer : Answer} (room : 0 < n)
    (lively : Lively s.turns) (h : s.readInto n = (answer, s')) :
    Lively s'.turns ∧ (answer = .ok [] → s'.rest = []) := by
  unfold readInto hand at h
  split at h
  case h_1 hturns =>
    obtain ⟨rfl, rfl⟩ := Prod.mk.inj h
    refine ⟨nofun, fun hnil => ?_⟩
    have htake : s.rest.take n = [] := Except.ok.inj hnil
    rcases List.take_eq_nil_iff.mp htake with hzero | hrest
    · omega
    · show s.rest.drop n = []
      rw [hrest, List.drop_nil]
  case h_2 k turns hturns =>
    obtain ⟨rfl, rfl⟩ := Prod.mk.inj h
    rw [hturns] at lively
    refine ⟨lively.tail, fun hnil => ?_⟩
    have htake : s.rest.take (min k n) = [] := Except.ok.inj hnil
    have hk : k ≠ 0 := fun hk => lively (.give k) (List.mem_cons_self ..) (by rw [hk])
    rcases List.take_eq_nil_iff.mp htake with hzero | hrest
    · omega
    · show s.rest.drop (min k n) = []
      rw [hrest, List.drop_nil]
  case h_3 e turns hturns =>
    obtain ⟨rfl, rfl⟩ := Prod.mk.inj h
    rw [hturns] at lively
    exact ⟨lively.tail, nofun⟩

/-- A run of reads: what they hand out leaves the front of the rest, in order, and every failure
that was to come and is no longer was an answer. -/
theorem asked_spec {s s' : Source} {answers : List Answer} (h : reader.Asked s answers s') :
    s'.log = s.log ++ answers ∧ s.rest = handed answers ++ s'.rest ∧
      failures s.turns = errors answers + failures s'.turns := by
  induction h with
  | none s => simp [handed, errors]
  | @more s s₁ s' n answer answers room read rest ih =>
    obtain ⟨hlog, hrest, hfail⟩ := ih
    obtain ⟨hlog₁, hrest₁, hfail₁⟩ := readInto_spec read
    have hsplit : answer :: answers = [answer] ++ answers := rfl
    refine ⟨by rw [hlog, hlog₁, List.append_assoc, ← hsplit], ?_, ?_⟩
    · rw [hrest₁, hrest, hsplit, handed_append, List.append_assoc]
    · rw [hfail₁, hfail, hsplit, errors, errors, errors, List.countP_append, Nat.add_assoc]

theorem asked_lively {s s' : Source} {answers : List Answer} (lively : Lively s.turns)
    (h : reader.Asked s answers s') :
    Lively s'.turns ∧ (.ok [] ∈ answers → s'.rest = []) := by
  induction h with
  | none s => exact ⟨lively, nofun⟩
  | @more s s₁ s' n answer answers room read rest ih =>
    obtain ⟨lively₁, hdry₁⟩ := readInto_lively room lively read
    obtain ⟨lively', hdry⟩ := ih lively₁
    refine ⟨lively', fun hmem => ?_⟩
    rcases List.mem_cons.mp hmem with hhead | htail
    · -- nothing comes after the end of the content
      have hrest := (asked_spec rest).2.1
      rw [hdry₁ hhead.symm] at hrest
      exact (List.append_eq_nil_iff.mp hrest.symm).2
    · exact hdry htail

end Source

end RatsRs.Lib
