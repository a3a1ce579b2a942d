import RatsRs.Transport.FramedStream

/-! What one call of `receive` does.

`pending` is what a `FramedStream` holds between two calls. A call is judged by the bytes it
began with and the answers its reads got: `Served` says that it hands over the frame at their
front, if they have one, and keeps everything else, and that each of its reads was needed. -/
namespace RatsRs.Transport
open Lib

/-- The frames of the code: a four-byte header, payloads up to the receive buffer. -/
def Config.framing (cfg : Config) : Framing where
  width := frameHeaderSize
  cap := cfg.receiverBufferSize
  positive := by decide
  holds := cfg.receiverFits

/-- Their headers hold any `u32`. -/
theorem Config.framing_lengths (cfg : Config) : 256 ^ cfg.framing.width = 2 ^ 32 := by
  show 256 ^ 4 = 2 ^ 32
  norm_num

theorem slice_ok {buf : Bytes} {lo hi : Nat} (h : lo ≤ hi) (h' : hi ≤ buf.length) :
    slice buf lo hi = .ok ((buf.drop lo).take (hi - lo)) := if_pos ⟨h, h'⟩

/-- Reading the bytes of a number in the other order. -/
theorem toBe_leNat {bytes : Bytes} (h : bytes.length = 4) : toBe (leNat bytes) = beNat bytes := by
  rw [toBe, ← h, leBytes_leNat]

theorem leBytes_toBe (n : Nat) : leBytes 4 (toBe n) = beBytes 4 n := by
  have h := leBytes_leNat (leBytes 4 n).reverse
  rw [List.length_reverse, length_leBytes] at h
  exact h

/-! ### The invariants -/

/-- What is received and not yet handed over. -/
def FramedStream.pending (fs : FramedStream) : Bytes := fs.readBuffer.take fs.readRemain

/-- The buffer has the size it was made with, and the remainder lies inside it. -/
structure FramedStream.WellFormed (cfg : Config) (fs : FramedStream) : Prop where
  size : fs.readBuffer.length = frameHeaderSize + cfg.receiverBufferSize
  remain : fs.readRemain ≤ fs.readBuffer.length

theorem FramedStream.new_wellFormed (cfg : Config) : (FramedStream.new cfg).WellFormed cfg :=
  ⟨by simp [new], Nat.zero_le _⟩

namespace Progress

def buffered (p : Progress) : Bytes := p.readBuffer.take p.bufferSize

/-- The same inside a call, where the size, once it is known, is the one the header in front announces. -/
structure WellFormed (cfg : Config) (p : Progress) : Prop where
  size : p.readBuffer.length = frameHeaderSize + cfg.receiverBufferSize
  within : p.bufferSize ≤ p.readBuffer.length
  expected : p.expectedSize = 0 ∨ frameHeaderSize ≤ p.bufferSize ∧
    p.expectedSize = beNat (p.buffered.take frameHeaderSize) + frameHeaderSize

variable {cfg : Config} {p : Progress}

theorem WellFormed.length_buffered (h : p.WellFormed cfg) : p.buffered.length = p.bufferSize := by
  rw [buffered, List.length_take, Nat.min_eq_left h.within]

theorem start_wellFormed {fs : FramedStream} (h : fs.WellFormed cfg) : (start fs).WellFormed cfg :=
  ⟨h.size, h.remain, .inl rfl⟩

/-! ### An iteration up to its read -/

/-- With a header in front and the size not yet known, it is the one the header announces. -/
theorem expect_header (hzero : p.expectedSize = 0) (hfour : frameHeaderSize ≤ p.bufferSize)
    (hwithin : p.bufferSize ≤ p.readBuffer.length) :
    p.expect = .ok { p with expectedSize := beNat (p.buffered.take frameHeaderSize) + frameHeaderSize } := by
  have hroom : frameHeaderSize ≤ p.readBuffer.length := Nat.le_trans hfour hwithin
  have hslice := slice_ok (Nat.zero_le frameHeaderSize) hroom
  have hlen : (p.readBuffer.take frameHeaderSize).length = 4 := by
    rw [List.length_take, Nat.min_eq_left hroom]
    rfl
  have hheader : FrameHeader.read (p.readBuffer.take frameHeaderSize) =
      some ⟨leNat (p.readBuffer.take frameHeaderSize)⟩ := by
    rw [FrameHeader.read, if_neg (by omega), List.take_of_length_le (Nat.le_of_eq hlen)]
  have hfront : p.buffered.take frameHeaderSize = p.readBuffer.take frameHeaderSize := by
    rw [buffered, List.take_take, Nat.min_eq_left hfour]
  rw [expect, if_pos ⟨hzero, hfour⟩, hslice, ok_bind, hfront]
  simp only [List.drop_zero, Nat.sub_zero, hheader, toBe_leNat hlen]

/-- The header is read when there is one, and only once. -/
theorem expect_spec (h : p.WellFormed cfg) :
    ∃ q, p.expect = .ok q ∧ q.readBuffer = p.readBuffer ∧ q.bufferSize = p.bufferSize ∧
      q.WellFormed cfg ∧ (q.expectedSize = 0 → q.bufferSize < frameHeaderSize) := by
  by_cases hread : p.expectedSize = 0 ∧ frameHeaderSize ≤ p.bufferSize
  · refine ⟨_, expect_header hread.1 hread.2 h.within, rfl, rfl,
      ⟨h.size, h.within, .inr ⟨hread.2, rfl⟩⟩, ?_⟩
    intro hzero
    have : beNat (p.buffered.take frameHeaderSize) + frameHeaderSize = 0 := hzero
    have : (0 : Nat) < frameHeaderSize := by decide
    omega
  · refine ⟨p, by rw [expect, if_neg hread], rfl, rfl, h, fun hzero => ?_⟩
    exact Nat.lt_of_not_le fun hsize => hread ⟨hzero, hsize⟩

/-- A verdict, by the bytes there are. -/
def Judged (cfg : Config) (p : Progress) : Verdict → Prop
  | .enough => ∃ payload rest, cfg.framing.next p.buffered = some (payload, rest) ∧
      p.expectedSize = frameHeaderSize + payload.length
  | .full => cfg.framing.next p.buffered = none ∧ p.bufferSize = p.readBuffer.length
  | .wants space => cfg.framing.next p.buffered = none ∧ 0 < space ∧
      p.bufferSize + space = p.readBuffer.length

/-- The known size is there: the bytes begin with a frame of that size. -/
theorem next_of_enough (h : p.WellFormed cfg) (hne : p.expectedSize ≠ 0)
    (hle : p.expectedSize ≤ p.bufferSize) :
    ∃ payload rest, cfg.framing.next p.buffered = some (payload, rest) ∧
      p.expectedSize = frameHeaderSize + payload.length := by
  obtain ⟨_, hexpected⟩ := h.expected.resolve_left hne
  have hlen := h.length_buffered
  have hcap : beNat (p.buffered.take frameHeaderSize) ≤ cfg.receiverBufferSize := by
    have := h.within
    have := h.size
    omega
  have hall : frameHeaderSize + beNat (p.buffered.take frameHeaderSize) ≤ p.buffered.length := by
    omega
  obtain ⟨payload, rest, hnext, hpayload⟩ := Framing.next_complete (f := cfg.framing) hcap hall
  refine ⟨payload, rest, hnext, ?_⟩
  rw [hpayload, hexpected, Nat.add_comm]
  rfl

/-- There is no header yet, or less than it announces. -/
theorem next_of_not_enough (h : p.WellFormed cfg)
    (hheader : p.expectedSize = 0 → p.bufferSize < frameHeaderSize)
    (hnot : ¬ (p.expectedSize ≠ 0 ∧ p.expectedSize ≤ p.bufferSize)) :
    cfg.framing.next p.buffered = none := by
  have hlen := h.length_buffered
  apply Framing.next_incomplete
  intro hfour
  show p.buffered.length < frameHeaderSize + beNat (p.buffered.take frameHeaderSize)
  rcases h.expected with hzero | ⟨_, hexpected⟩
  · have := hheader hzero
    have : frameHeaderSize ≤ p.buffered.length := hfour
    omega
  · have hpos : 0 < frameHeaderSize := by decide
    by_contra hle
    exact hnot ⟨by omega, by omega⟩

/-- The bytes stay as they are, and the verdict is right about them. -/
theorem check_spec (h : p.WellFormed cfg) :
    ∃ q verdict, p.check = .ok (q, verdict) ∧ q.readBuffer = p.readBuffer ∧
      q.bufferSize = p.bufferSize ∧ q.WellFormed cfg ∧ Judged cfg q verdict := by
  obtain ⟨q, hexpect, hbuffer, hsize, hwf, hheader⟩ := expect_spec h
  have hwithin := hwf.within
  by_cases henough : q.expectedSize ≠ 0 ∧ q.expectedSize ≤ q.bufferSize
  · refine ⟨q, .enough, ?_, hbuffer, hsize, hwf, next_of_enough hwf henough.1 henough.2⟩
    rw [check, hexpect, ok_bind, if_pos henough]
  · have hnext := next_of_not_enough hwf hheader henough
    by_cases hfull : q.readBuffer.length ≤ q.bufferSize
    · refine ⟨q, .full, ?_, hbuffer, hsize, hwf, hnext, by omega⟩
      rw [check, hexpect, ok_bind, if_neg henough, if_pos hfull]
    · refine ⟨q, .wants (q.readBuffer.length - q.bufferSize), ?_, hbuffer, hsize, hwf, hnext,
        by omega, by omega⟩
      rw [check, hexpect, ok_bind, if_neg henough, if_neg hfull]

theorem check_ok {q : Progress} {verdict : Verdict} (h : p.WellFormed cfg)
    (hcheck : p.check = .ok (q, verdict)) :
    q.buffered = p.buffered ∧ q.WellFormed cfg ∧ Judged cfg q verdict := by
  obtain ⟨q₁, verdict₁, hcheck₁, hbuffer, hsize, hwf, hjudged⟩ := check_spec h
  obtain ⟨rfl, rfl⟩ := Prod.mk.inj (Except.ok.inj (hcheck₁.symm.trans hcheck))
  exact ⟨by rw [buffered, hbuffer, hsize, ← buffered], hwf, hjudged⟩

/-! ### An answer -/

/-- What an answer adds is behind what was there. -/
theorem absorb_spec (answer : Answer) (h : p.WellFormed cfg)
    (hroom : ∀ bytes, answer = .ok bytes → p.bufferSize + bytes.length ≤ p.readBuffer.length) :
    (p.absorb answer).1.WellFormed cfg ∧
      (p.absorb answer).1.buffered = p.buffered ++ handed [answer] ∧
      ((p.absorb answer).2 = true → p.bufferSize < (p.absorb answer).1.bufferSize) ∧
      ((p.absorb answer).2 = false → answer = .ok [] ∨ ∃ e, answer = .error e) := by
  cases answer with
  | error e => exact ⟨h, (List.append_nil _).symm, nofun, fun _ => .inr ⟨e, rfl⟩⟩
  | ok bytes =>
    have hroom := hroom bytes rfl
    have hbuffered : (p.absorb (.ok bytes)).1.buffered = p.buffered ++ bytes := take_splice hroom
    refine ⟨⟨?_, ?_, ?_⟩, by simpa using hbuffered, ?_, ?_⟩
    · show (splice _ _ _).length = _
      rw [length_splice, h.size]
    · show p.bufferSize + bytes.length ≤ (splice _ _ _).length
      rw [length_splice]
      exact hroom
    · rcases h.expected with hzero | ⟨hfour, hexpected⟩
      · exact .inl hzero
      · refine .inr ⟨Nat.le_add_right_of_le hfour, ?_⟩
        rw [hbuffered, List.take_append_of_le_length (by rw [h.length_buffered]; exact hfour)]
        exact hexpected
    · intro hmore
      have : bytes.length ≠ 0 := by simpa [absorb] using hmore
      show p.bufferSize < p.bufferSize + bytes.length
      omega
    · intro hstop
      have : bytes = [] := by simpa [absorb] using hstop
      exact .inl (by rw [this])

/-- An iteration with its read moves bytes from the stream to behind those there were. -/
theorem read_spec {q : Progress} {space : Nat} {answer : Answer} {stream rest : Bytes}
    (h : p.WellFormed cfg) (hcheck : p.check = .ok (q, .wants space))
    (hreads : Reads stream space answer rest) :
    (q.absorb answer).1.WellFormed cfg ∧
      (q.absorb answer).1.buffered ++ rest = p.buffered ++ stream := by
  obtain ⟨hsame, hwf, -, -, hspace⟩ := check_ok h hcheck
  obtain ⟨hwf', hbuffered, -, -⟩ := absorb_spec answer hwf fun bytes hbytes => by
    have := (hbytes ▸ hreads).within
    omega
  exact ⟨hwf', by rw [hbuffered, hsame, List.append_assoc, ← hreads.split]⟩

/-! ### After the loop -/

/-- The payload goes to the caller, if there is room for it, and what follows it to the front. -/
theorem finish_frame (hheader : frameHeaderSize ≤ p.expectedSize) (hthere : p.expectedSize ≤ p.bufferSize)
    (hwithin : p.bufferSize ≤ p.readBuffer.length) (out : Bytes) :
    p.finish true out = (do
      let _ ← slice out 0 (p.expectedSize - frameHeaderSize)
      .ok ⟨.ok (p.expectedSize - frameHeaderSize),
        splice out 0 ((p.readBuffer.drop frameHeaderSize).take (p.expectedSize - frameHeaderSize)),
        ⟨splice p.readBuffer 0 ((p.readBuffer.drop p.expectedSize).take (p.bufferSize - p.expectedSize)),
          p.bufferSize - p.expectedSize⟩⟩) := by
  have hmin : min p.bufferSize p.expectedSize = p.expectedSize := Nat.min_eq_right hthere
  have hfour : min p.expectedSize frameHeaderSize = frameHeaderSize := Nat.min_eq_right hheader
  have hpayload := slice_ok hheader (Nat.le_trans hthere hwithin)
  have hremain := slice_ok hthere hwithin
  rw [finish, hmin, hfour, slice_ok (Nat.zero_le _) (by omega), ok_bind, hpayload, ok_bind, if_pos rfl,
    ok_bind, hremain]
  rfl

/-- With a frame in front of the buffer and room enough these are the frame's payload and the rest. -/
theorem finish_enough {payload rest : Bytes} (out : Bytes) (h : p.WellFormed cfg)
    (hnext : cfg.framing.next p.buffered = some (payload, rest))
    (hexpected : p.expectedSize = frameHeaderSize + payload.length)
    (hout : cfg.receiverBufferSize ≤ out.length) :
    ∃ fs, p.finish true out = .ok ⟨.ok payload.length, payload ++ out.drop payload.length, fs⟩ ∧
      fs.WellFormed cfg ∧ fs.pending = rest := by
  obtain ⟨hcap, hframe⟩ := Framing.next_eq_some.mp hnext
  have hcap : payload.length ≤ cfg.receiverBufferSize := hcap
  have hlen : p.bufferSize = frameHeaderSize + payload.length + rest.length := by
    rw [← h.length_buffered, hframe, List.length_append, Framing.length_encode]
    rfl
  -- the buffer: header, payload, what follows it and the bytes not yet filled
  have hbuffer : p.readBuffer = beBytes frameHeaderSize payload.length ++
      (payload ++ (rest ++ p.readBuffer.drop p.bufferSize)) := by
    have hsplit := List.take_append_drop p.bufferSize p.readBuffer
    rw [show p.readBuffer.take p.bufferSize = p.buffered from rfl, hframe] at hsplit
    rw [← List.append_assoc payload, ← List.append_assoc, ← List.append_assoc (beBytes _ _)]
    exact hsplit.symm
  have hfront : p.readBuffer.drop frameHeaderSize =
      payload ++ (rest ++ p.readBuffer.drop p.bufferSize) := by
    conv_lhs => rw [hbuffer]
    exact List.drop_left' (length_beBytes _ _)
  have hused : p.expectedSize - frameHeaderSize = payload.length := by omega
  have hleft : p.bufferSize - p.expectedSize = rest.length := by omega
  have hpayload : (p.readBuffer.drop frameHeaderSize).take payload.length = payload := by
    rw [hfront, List.take_left]
  have hremain : (p.readBuffer.drop p.expectedSize).take rest.length = rest := by
    rw [hexpected, ← List.drop_drop, hfront, List.drop_left, List.take_left]
  have hwithin := h.within
  have hrest : rest.length ≤ p.readBuffer.length := by omega
  refine ⟨⟨splice p.readBuffer 0 rest, rest.length⟩, ?_, ⟨?_, ?_⟩, take_splice_zero hrest⟩
  · rw [finish_frame (by omega) (by omega) hwithin, hused, hleft, hpayload, hremain,
      slice_ok (Nat.zero_le _) (by omega), ok_bind, splice_zero (by omega)]
  · rw [length_splice, h.size]
  · rw [length_splice]
    exact hrest

theorem finish_not_enough {out : Bytes} (hwithin : p.bufferSize ≤ p.readBuffer.length) :
    p.finish false out = .ok ⟨.error 0, out, ⟨p.readBuffer, p.bufferSize⟩⟩ := by
  rw [finish, slice_ok (by omega) (by omega), slice_ok (by omega) (by omega)]
  rfl

/-! ### The loop -/

/-- What the loop leaves, by the bytes it began with and the answers to its reads. -/
structure Looped (cfg : Config) (before : Bytes) (answers : List Answer) (p : Progress)
    (enough : Bool) : Prop where
  wellFormed : p.WellFormed cfg
  buffered : p.buffered = before ++ handed answers
  /-- At none of the reads was there a frame already. -/
  thrifty : ∀ earlier answer later, answers = earlier ++ answer :: later →
    cfg.framing.next (before ++ handed earlier) = none
  framed : enough = true → Judged cfg p .enough
  /-- Without a frame the loop ends for a full buffer, at the end of the stream or on an error. -/
  stalled : enough = false → cfg.framing.next p.buffered = none ∧
    (p.bufferSize = p.readBuffer.length ∨ .ok [] ∈ answers ∨ ∃ e, .error e ∈ answers)

/-- No read at all. -/
theorem Looped.stop {enough : Bool} (h : p.WellFormed cfg) (henough : enough = true → Judged cfg p .enough)
    (hfull : enough = false → Judged cfg p .full) : Looped cfg p.buffered [] p enough where
  wellFormed := h
  buffered := (List.append_nil _).symm
  thrifty := by
    intro earlier answer later hsplit
    cases earlier <;> cases hsplit
  framed := henough
  stalled := fun hnot => ⟨(hfull hnot).1, .inl (hfull hnot).2⟩

/-- One read more in front of those of the rest of the loop. -/
theorem Looped.read {before : Bytes} {answer : Answer} {answers : List Answer} {enough : Bool}
    (hnone : cfg.framing.next before = none)
    (h : Looped cfg (before ++ handed [answer]) answers p enough) :
    Looped cfg before (answer :: answers) p enough where
  wellFormed := h.wellFormed
  buffered := by
    rw [h.buffered, List.append_assoc, ← handed_append]
    rfl
  thrifty := by
    intro earlier a later hsplit
    cases earlier with
    | nil => simpa [handed] using hnone
    | cons first earlier =>
      obtain ⟨rfl, htail⟩ := List.cons.inj hsplit
      have := h.thrifty earlier a later htail
      rwa [List.append_assoc, ← handed_append] at this
  framed := h.framed
  stalled := by
    intro hnot
    obtain ⟨hnext, hfull | hend | ⟨e, herror⟩⟩ := h.stalled hnot
    · exact ⟨hnext, .inl hfull⟩
    · exact ⟨hnext, .inr (.inl (List.mem_cons_of_mem _ hend))⟩
    · exact ⟨hnext, .inr (.inr ⟨e, List.mem_cons_of_mem _ herror⟩)⟩

theorem receiveLoop_read {σ : Type} {R : Read σ} {fuel : Nat} {q : Progress} {stream stream' : σ}
    {space : Nat} {answer : Answer} (hcheck : p.check = .ok (q, .wants space))
    (hread : R.read stream space = (answer, stream')) :
    receiveLoop R (fuel + 1) p stream =
      if (q.absorb answer).2 then receiveLoop R fuel (q.absorb answer).1 stream'
      else .ok ((q.absorb answer).1, false, stream') := by
  rw [receiveLoop, hcheck, ok_bind]
  simp only [hread]

theorem receiveLoop_spec {σ : Type} (R : Read σ) (fuel : Nat) (p : Progress) (stream : σ)
    (h : p.WellFormed cfg) (hfuel : p.readBuffer.length - p.bufferSize < fuel) :
    ∃ answers q enough stream', receiveLoop R fuel p stream = .ok (q, enough, stream') ∧
      R.Asked stream answers stream' ∧ Looped cfg p.buffered answers q enough := by
  induction fuel generalizing p stream with
  | zero => omega
  | succ fuel ih =>
    obtain ⟨q, verdict, hcheck, hbuffer, hsize, hwf, hjudged⟩ := check_spec h
    have hbuffered : q.buffered = p.buffered := by rw [buffered, hbuffer, hsize, ← buffered]
    rw [← hbuffered]
    cases verdict with
    | enough =>
      refine ⟨[], q, true, stream, ?_, .none stream, Looped.stop hwf (fun _ => hjudged) nofun⟩
      rw [receiveLoop, hcheck, ok_bind]
    | full =>
      refine ⟨[], q, false, stream, ?_, .none stream, Looped.stop hwf nofun fun _ => hjudged⟩
      rw [receiveLoop, hcheck, ok_bind]
    | wants space =>
      obtain ⟨hnone, hspace, hroom⟩ := hjudged
      cases hread : R.read stream space with
      | mk answer stream₁ =>
        have habsorb := absorb_spec answer hwf fun bytes hbytes => by
          have := R.within (hbytes ▸ hread)
          omega
        rw [receiveLoop_read hcheck hread]
        generalize q.absorb answer = absorbed at *
        obtain ⟨p₁, more⟩ := absorbed
        obtain ⟨hwf₁, hbuffered₁, hmore, hstop⟩ := habsorb
        cases more with
        | true =>
          have hlonger : q.bufferSize < p₁.bufferSize := hmore rfl
          have hlen : p₁.readBuffer.length = p.readBuffer.length := hwf₁.size.trans h.size.symm
          have hwithin : p₁.bufferSize ≤ p₁.readBuffer.length := hwf₁.within
          obtain ⟨answers, r, enough, stream', hloop, hasked, hlooped⟩ :=
            ih p₁ stream₁ hwf₁ (by omega)
          refine ⟨answer :: answers, r, enough, stream', hloop, .more hspace hread hasked, ?_⟩
          exact Looped.read hnone (hbuffered₁ ▸ hlooped)
        | false =>
          refine ⟨[answer], p₁, false, stream₁, rfl, .more hspace hread (.none stream₁), hwf₁,
            hbuffered₁, ?_, nofun, fun _ => ?_⟩
          · intro earlier a later hsplit
            have hnil : earlier = [] := by cases earlier <;> simp_all
            simpa [hnil, handed] using hnone
          · rcases hstop rfl with rfl | ⟨e, rfl⟩
            · exact ⟨by simpa [hbuffered₁] using hnone, .inr (.inl (List.mem_singleton_self _))⟩
            · exact ⟨by simpa [hbuffered₁] using hnone, .inr (.inr ⟨e, List.mem_singleton_self _⟩)⟩

end Progress

/-! ### A call of `receive` -/

namespace FramedStream
variable {cfg : Config}

/-- Each read was made with no frame in front of what there was: `pending` and what the reads
before it had handed out. -/
def Thrifty (cfg : Config) (pending : Bytes) (answers : List Answer) : Prop :=
  ∀ earlier answer later, answers = earlier ++ answer :: later →
    cfg.framing.next (pending ++ handed earlier) = none

/-- The two ways a call ends, by all the `bytes` it had. -/
inductive Outcome (cfg : Config) (bytes : Bytes) (answers : List Answer) (out : Bytes) :
    Received → Prop
  /-- The frame in front is handed over, and the rest stays. -/
  | delivered {payload : Bytes} {fs : FramedStream} (wellFormed : fs.WellFormed cfg)
      (next : cfg.framing.next bytes = some (payload, fs.pending)) :
      Outcome cfg bytes answers out ⟨.ok payload.length, payload ++ out.drop payload.length, fs⟩
  /-- Nothing is handed over, and everything stays. -/
  | kept {fs : FramedStream} (wellFormed : fs.WellFormed cfg) (next : cfg.framing.next bytes = none)
      (pending : fs.pending = bytes)
      (stalled : bytes.length = frameHeaderSize + cfg.receiverBufferSize ∨
        .ok [] ∈ answers ∨ ∃ e, .error e ∈ answers) :
      Outcome cfg bytes answers out ⟨.error 0, out, fs⟩

/-- What follows the loop ends the call in one of the two ways. -/
theorem finish_spec {before out : Bytes} {answers : List Answer} {p : Progress} {enough : Bool}
    (h : Progress.Looped cfg before answers p enough) (hout : cfg.receiverBufferSize ≤ out.length) :
    ∃ r, p.finish enough out = .ok r ∧ Outcome cfg (before ++ handed answers) answers out r := by
  have hwf := h.wellFormed
  cases enough with
  | true =>
    obtain ⟨payload, rest, hnext, hexpected⟩ := h.framed rfl
    obtain ⟨fs, hfinish, hwf', hpending⟩ := Progress.finish_enough out hwf hnext hexpected hout
    rw [h.buffered, ← hpending] at hnext
    exact ⟨_, hfinish, .delivered hwf' hnext⟩
  | false =>
    obtain ⟨hnext, hstalled⟩ := h.stalled rfl
    rw [← hwf.length_buffered, hwf.size, h.buffered] at hstalled
    rw [h.buffered] at hnext
    exact ⟨_, Progress.finish_not_enough hwf.within, .kept ⟨hwf.size, hwf.within⟩ hnext h.buffered hstalled⟩

/-- What `receive` does: it returns, each of its reads was needed, and it ends in one of the two ways. -/
theorem receive_spec {σ : Type} (R : Read σ) {fs : FramedStream} (stream : σ) {out : Bytes}
    (h : fs.WellFormed cfg) (hout : cfg.receiverBufferSize ≤ out.length) :
    ∃ answers r stream', fs.receive R stream out = .ok (r, stream') ∧
      R.Asked stream answers stream' ∧ Thrifty cfg fs.pending answers ∧
      Outcome cfg (fs.pending ++ handed answers) answers out r := by
  obtain ⟨answers, p, enough, stream', hloop, hasked, hlooped⟩ :=
    Progress.receiveLoop_spec R _ (Progress.start fs) stream (Progress.start_wellFormed h)
      (Nat.lt_succ_self _)
  obtain ⟨r, hfinish, houtcome⟩ := finish_spec hlooped hout
  refine ⟨answers, r, stream', ?_, hasked, hlooped.thrifty, houtcome⟩
  rw [receive, hloop, ok_bind]
  simp only [hfinish, ok_bind]

@[simp] theorem payload_delivered (payload more : Bytes) (fs : FramedStream) :
    Received.payload ⟨.ok payload.length, payload ++ more, fs⟩ = .ok payload := by
  simp [Received.payload, Except.map]

@[simp] theorem payload_kept (out : Bytes) (fs : FramedStream) :
    Received.payload ⟨.error 0, out, fs⟩ = .error 0 := rfl

/-- A complete frame in the buffer is handed over, and nothing is read for it. -/
theorem receive_complete {σ : Type} (R : Read σ) {fs : FramedStream} (stream : σ) {out payload rest : Bytes}
    (h : fs.WellFormed cfg) (hout : cfg.receiverBufferSize ≤ out.length)
    (hnext : cfg.framing.next fs.pending = some (payload, rest)) :
    ∃ r, fs.receive R stream out = .ok (r, stream) ∧ r.payload = .ok payload := by
  obtain ⟨answers, r, stream', hcall, hasked, hthrifty, houtcome⟩ := receive_spec R stream h hout
  cases answers with
  | cons answer answers =>
    have hnone := hthrifty [] answer answers rfl
    rw [handed, List.append_nil, hnext] at hnone
    cases hnone
  | nil =>
    rw [handed, List.append_nil] at houtcome
    cases hasked
    refine ⟨r, hcall, ?_⟩
    cases houtcome with
    | delivered wellFormed next =>
      obtain ⟨rfl, -⟩ := Prod.mk.inj (Option.some.inj (hnext.symm.trans next))
      exact payload_delivered _ _ _
    | kept wellFormed next pending stalled => cases hnext.symm.trans next

/-! ### A call of `send` -/

/-- `send` does not panic. When it is `Ok` it has written header and payload; on a stream that keeps
the front parts of what it fails to write, it has written some front part of them in any case. -/
theorem send_spec {τ : Type} (cfg : Config) (W : Write τ) (sink : τ) (payload : Bytes) :
    ∃ result sink', send cfg W sink payload = .ok (result, sink') ∧
      (result = .ok () →
        W.written sink' = W.written sink ++ (beBytes frameHeaderSize (asU32 payload.length) ++ payload)) ∧
      (W.KeepsFront → ∃ front, front <+: beBytes frameHeaderSize (asU32 payload.length) ++ payload ∧
        W.written sink' = W.written sink ++ front) := by
  have hheader : (FrameHeader.mk (toBe (asU32 payload.length))).encode =
      beBytes frameHeaderSize (asU32 payload.length) := leBytes_toBe _
  have hslice : slice (splice (List.replicate (frameHeaderSize + cfg.senderBufferSize) 0) 0
      (beBytes frameHeaderSize (asU32 payload.length))) 0 frameHeaderSize =
      .ok (beBytes frameHeaderSize (asU32 payload.length)) := by
    have hroom : (beBytes frameHeaderSize (asU32 payload.length)).length ≤
        (List.replicate (frameHeaderSize + cfg.senderBufferSize) (0 : UInt8)).length := by simp
    have htake := take_splice_zero hroom
    rw [length_beBytes] at htake
    rw [slice_ok (Nat.zero_le _) (by simp), List.drop_zero, Nat.sub_zero, htake]
  rw [send]
  simp only [hheader, length_beBytes, ne_eq, not_true_eq_false, if_false, hslice, ok_bind]
  cases hfirst : W.writeAll sink (beBytes frameHeaderSize (asU32 payload.length)) with
  | mk first sink₁ =>
    cases first with
    | error e =>
      refine ⟨.error .sendFail, sink₁, rfl, nofun, fun hkeeps => ?_⟩
      obtain ⟨front, hfront, hwritten⟩ := hkeeps hfirst
      exact ⟨front, hfront.trans (List.prefix_append _ _), hwritten⟩
    | ok u =>
      dsimp only
      cases hsecond : W.writeAll sink₁ payload with
      | mk second sink₂ =>
        cases second with
        | error e =>
          refine ⟨.error .sendFail, sink₂, rfl, nofun, fun hkeeps => ?_⟩
          obtain ⟨front, hfront, hwritten⟩ := hkeeps hsecond
          refine ⟨_ ++ front, (List.prefix_append_right_inj _).mpr hfront, ?_⟩
          rw [hwritten, W.writeAll_ok hfirst, List.append_assoc]
        | ok u =>
          have hwritten : W.written (W.flush sink₂).2 =
              W.written sink ++ (beBytes frameHeaderSize (asU32 payload.length) ++ payload) := by
            rw [W.flush_written (Prod.eta _).symm, W.writeAll_ok hsecond, W.writeAll_ok hfirst,
              List.append_assoc]
          exact ⟨_, _, rfl, fun _ => hwritten, fun _ => ⟨_, List.prefix_refl _, hwritten⟩⟩

/-- What an `Ok` send has written is a frame, for every payload whose length is a `u32`. -/
theorem send_ok {τ : Type} {W : Write τ} {sink sink' : τ} {payload : Bytes}
    (hlen : payload.length < 2 ^ 32) (h : send cfg W sink payload = .ok (.ok (), sink')) :
    W.written sink' = W.written sink ++ cfg.framing.encode payload := by
  obtain ⟨result, sink₁, hsend, hwritten, -⟩ := send_spec cfg W sink payload
  obtain ⟨hresult, rfl⟩ := Prod.mk.inj (Except.ok.inj (hsend.symm.trans h))
  have hsize : asU32 payload.length = payload.length := Nat.mod_eq_of_lt hlen
  rw [hwritten hresult, hsize]
  rfl

/-- A run of `Ok` sends has written the frames of its payloads. -/
theorem Sent.written {τ : Type} {W : Write τ} {sink sink' : τ} {payloads : List Bytes}
    (hlen : ∀ p ∈ payloads, p.length < 2 ^ 32) (h : Sent cfg W sink payloads sink') :
    W.written sink' = W.written sink ++ cfg.framing.encodeAll payloads := by
  induction h with
  | none sink => simp
  | @more sink sink₁ sink' payload payloads send rest ih =>
    rw [ih fun p hp => hlen p (List.mem_cons_of_mem payload hp),
      send_ok (hlen payload (List.mem_cons_self ..)) send, Framing.encodeAll_cons, List.append_assoc]

end FramedStream

end RatsRs.Transport
