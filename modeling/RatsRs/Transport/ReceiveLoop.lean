import RatsRs.Transport.FramedStreamProofs

/-! The reads of one call of `receive`.

Here nothing is known of the buffer but that what remains of earlier calls lies in it: its
length and its content are any, and so are the answers of the stream. The stream keeps a log,
so that the reads are the ones the code makes. Each that lets the loop go on puts at least one
byte into the free part of the buffer, and that is what bounds their number. -/
namespace RatsRs.Transport
open Lib

namespace Progress
variable {p : Progress}

/-- What is received lies inside the buffer, and a size that is known counts its header. -/
structure InBuffer (p : Progress) : Prop where
  within : p.bufferSize ≤ p.readBuffer.length
  header : p.expectedSize = 0 ∨ frameHeaderSize ≤ p.expectedSize

/-- The part of the buffer that is free. -/
def free (p : Progress) : Nat := p.readBuffer.length - p.bufferSize

/-! ### An iteration -/

/-- A verdict, by the sizes. -/
def Sized (p : Progress) : Verdict → Prop
  | .enough => frameHeaderSize ≤ p.expectedSize ∧ p.expectedSize ≤ p.bufferSize
  | .full => p.free = 0
  | .wants space => 0 < space ∧ p.bufferSize + space = p.readBuffer.length

theorem expect_inBuffer (h : p.InBuffer) :
    ∃ q, p.expect = .ok q ∧ q.readBuffer = p.readBuffer ∧ q.bufferSize = p.bufferSize ∧ q.InBuffer := by
  by_cases hread : p.expectedSize = 0 ∧ frameHeaderSize ≤ p.bufferSize
  · exact ⟨_, expect_header hread.1 hread.2 h.within, rfl, rfl, h.within, .inr (Nat.le_add_left ..)⟩
  · exact ⟨p, by rw [expect, if_neg hread], rfl, rfl, h⟩

/-- There is no slice out of range up to the read, and the read gets some room. -/
theorem check_inBuffer (h : p.InBuffer) :
    ∃ q verdict, p.check = .ok (q, verdict) ∧ q.readBuffer = p.readBuffer ∧
      q.bufferSize = p.bufferSize ∧ q.InBuffer ∧ q.Sized verdict := by
  obtain ⟨q, hexpect, hbuffer, hsize, hq⟩ := expect_inBuffer h
  have hwithin := hq.within
  by_cases henough : q.expectedSize ≠ 0 ∧ q.expectedSize ≤ q.bufferSize
  · refine ⟨q, .enough, ?_, hbuffer, hsize, hq, hq.header.resolve_left henough.1, henough.2⟩
    rw [check, hexpect, ok_bind, if_pos henough]
  · by_cases hfull : q.readBuffer.length ≤ q.bufferSize
    · refine ⟨q, .full, ?_, hbuffer, hsize, hq, Nat.sub_eq_zero_of_le hfull⟩
      rw [check, hexpect, ok_bind, if_neg henough, if_pos hfull]
    · refine ⟨q, .wants (q.readBuffer.length - q.bufferSize), ?_, hbuffer, hsize, hq, ?_, ?_⟩
      · rw [check, hexpect, ok_bind, if_neg henough, if_neg hfull]
      · omega
      · omega

/-- An answer that fits leaves the buffer as long as it was, and stands behind what was there. -/
theorem absorb_inBuffer (answer : Answer) (h : p.InBuffer)
    (hroom : ∀ bytes, answer = .ok bytes → p.bufferSize + bytes.length ≤ p.readBuffer.length) :
    (p.absorb answer).1.InBuffer ∧
      (p.absorb answer).1.readBuffer.length = p.readBuffer.length ∧
      (p.absorb answer).1.buffered = p.buffered ++ handed [answer] ∧
      ((p.absorb answer).2 = true → (p.absorb answer).1.free < p.free ∧ handed [answer] ≠ []) := by
  cases answer with
  | error e => exact ⟨h, rfl, (List.append_nil _).symm, nofun⟩
  | ok bytes =>
    have hroom := hroom bytes rfl
    have hlen : (splice p.readBuffer p.bufferSize bytes).length = p.readBuffer.length := length_splice ..
    refine ⟨⟨?_, h.header⟩, hlen, ?_, ?_⟩
    · show p.bufferSize + bytes.length ≤ (splice p.readBuffer p.bufferSize bytes).length
      rw [hlen]
      exact hroom
    · rw [handed_singleton_ok]
      exact take_splice hroom
    · intro hmore
      have hne : bytes.length ≠ 0 := by simpa [absorb] using hmore
      refine ⟨?_, ?_⟩
      · show (splice p.readBuffer p.bufferSize bytes).length - (p.bufferSize + bytes.length) <
          p.readBuffer.length - p.bufferSize
        rw [hlen]
        omega
      · rw [handed_singleton_ok]
        exact List.ne_nil_of_length_pos (Nat.pos_of_ne_zero hne)

/-! ### The loop -/

/-- What the loop makes of `p` with the reads `asks`. -/
structure Turned (p : Progress) (asks : List Ask) (q : Progress) (enough : Bool) : Prop where
  inBuffer : q.InBuffer
  size : q.readBuffer.length = p.readBuffer.length
  buffered : q.buffered = p.buffered ++ askedBytes asks
  few : asks.length ≤ p.free + 1
  /-- No read gets an empty slice. -/
  roomy : ∀ ask ∈ asks, 0 < ask.room
  framed : enough = true → q.Sized .enough
  /-- Only a read that hands out some bytes lets the loop go on. -/
  fruitful : enough = true → ∀ ask ∈ asks, handed [ask.answer] ≠ []

/-- The loop ends without a read. -/
theorem Turned.stop {q : Progress} {enough : Bool} (hq : q.InBuffer)
    (hbuffer : q.readBuffer = p.readBuffer) (hsize : q.bufferSize = p.bufferSize)
    (hframed : enough = true → q.Sized .enough) : Turned p [] q enough where
  inBuffer := hq
  size := by rw [hbuffer]
  buffered := by
    rw [Progress.buffered, Progress.buffered, hbuffer, hsize]
    exact (List.append_nil _).symm
  few := Nat.zero_le _
  roomy := nofun
  framed := hframed
  fruitful := fun _ => nofun

/-- One read more in front, which left `p₁`. -/
theorem Turned.read {p₁ q : Progress} {ask : Ask} {asks : List Ask} {enough : Bool} (hroom : 0 < ask.room)
    (hsize : p₁.readBuffer.length = p.readBuffer.length)
    (hbuffered : p₁.buffered = p.buffered ++ handed [ask.answer]) (hfree : p₁.free < p.free)
    (hsome : handed [ask.answer] ≠ []) (h : Turned p₁ asks q enough) :
    Turned p (ask :: asks) q enough where
  inBuffer := h.inBuffer
  size := h.size.trans hsize
  buffered := by rw [h.buffered, hbuffered, askedBytes_cons, List.append_assoc]
  few := by
    have := h.few
    rw [List.length_cons]
    omega
  roomy := by
    intro a ha
    rcases List.mem_cons.mp ha with rfl | ha
    · exact hroom
    · exact h.roomy a ha
  framed := h.framed
  fruitful := by
    intro henough a ha
    rcases List.mem_cons.mp ha with rfl | ha
    · exact hsome
    · exact h.fruitful henough a ha

/-- The loop ends for some `Turned`, on a stream with a log as on the stream itself. -/
theorem receiveLoop_turned {σ : Type} (R : Read σ) (fuel : Nat) (p : Progress) (stream : σ)
    (log : List Ask) (h : p.InBuffer) (hfuel : p.free < fuel) :
    ∃ q enough stream' asks,
      receiveLoop R fuel p stream = .ok (q, enough, stream') ∧
      receiveLoop R.logged fuel p (stream, log) = .ok (q, enough, stream', log ++ asks) ∧
      Turned p asks q enough := by
  induction fuel generalizing p stream log with
  | zero => omega
  | succ fuel ih =>
    obtain ⟨q, verdict, hcheck, hbuffer, hsize, hq, hsized⟩ := check_inBuffer h
    cases verdict with
    | enough =>
      refine ⟨q, true, stream, [], ?_, ?_, Turned.stop hq hbuffer hsize fun _ => hsized⟩
      · rw [receiveLoop, hcheck, ok_bind]
      · rw [receiveLoop, hcheck, ok_bind, List.append_nil]
    | full =>
      refine ⟨q, false, stream, [], ?_, ?_, Turned.stop hq hbuffer hsize fun h => absurd h Bool.false_ne_true⟩
      · rw [receiveLoop, hcheck, ok_bind]
      · rw [receiveLoop, hcheck, ok_bind, List.append_nil]
    | wants space =>
      obtain ⟨hspace, hroom⟩ := hsized
      cases hread : R.read stream space with
      | mk answer stream₁ =>
        have hlogged : R.logged.read (stream, log) space =
            (answer, stream₁, log ++ [⟨space, answer⟩]) := by
          simp only [Read.logged, hread]
        have habsorb := absorb_inBuffer answer hq fun bytes hbytes => by
          have := R.within (hbytes ▸ hread)
          omega
        rw [receiveLoop_read hcheck hread, receiveLoop_read hcheck hlogged]
        have hfree : q.free = p.free := by rw [free, free, hbuffer, hsize]
        have hbuffered : q.buffered = p.buffered := by rw [buffered, buffered, hbuffer, hsize]
        rw [hbuffered, hbuffer, hfree] at habsorb
        generalize q.absorb answer = absorbed at *
        obtain ⟨p₁, more⟩ := absorbed
        obtain ⟨hp₁, hlen, hbuffered₁, hmore⟩ := habsorb
        cases more with
        | true =>
          obtain ⟨hless, hsome⟩ := hmore rfl
          have hless : p₁.free < p.free := hless
          obtain ⟨r, enough, stream', asks, hplain, hlog, hturned⟩ :=
            ih p₁ stream₁ (log ++ [⟨space, answer⟩]) hp₁ (by omega)
          rw [List.append_assoc] at hlog
          exact ⟨r, enough, stream', ⟨space, answer⟩ :: asks, hplain, hlog,
            Turned.read hspace hlen hbuffered₁ hless hsome hturned⟩
        | false =>
          refine ⟨p₁, false, stream₁, [⟨space, answer⟩], rfl, rfl, hp₁, hlen, hbuffered₁, ?_, ?_,
            fun h => absurd h Bool.false_ne_true, fun h => absurd h Bool.false_ne_true⟩
          · exact Nat.le_add_left 1 _
          · intro ask hask
            rw [List.mem_singleton.mp hask]
            exact hspace

end Progress

/-! ### The call -/

/-- How many of the received bytes a call has done with: a frame, or none. -/
def Received.taken (r : Received) : Nat :=
  match r.result with
  | .ok used => frameHeaderSize + used
  | .error _ => 0

/-- What a call leaves of the buffer: it is as long as before, and in front is what was not taken. -/
structure Received.Leaves (r : Received) (buffered : Bytes) (size : Nat) : Prop where
  size : r.framed.readBuffer.length = size
  remain : r.framed.readRemain ≤ r.framed.readBuffer.length
  pending : r.framed.pending = buffered.drop r.taken

namespace Progress
variable {q : Progress} {out : Bytes}

theorem finish_stopped (h : q.InBuffer) (out : Bytes) :
    q.finish false out = .ok ⟨.error 0, out, ⟨q.readBuffer, q.bufferSize⟩⟩ ∧
      Received.Leaves ⟨.error 0, out, ⟨q.readBuffer, q.bufferSize⟩⟩ q.buffered q.readBuffer.length :=
  ⟨finish_not_enough h.within, rfl, h.within, rfl⟩

/-- A call with a frame panics at a caller's buffer that is too short, and else leaves the rest. -/
theorem finish_framed (h : q.InBuffer) (hframed : q.Sized .enough) (out : Bytes) :
    (out.length < q.expectedSize - frameHeaderSize ∧ q.finish true out = .error .panic) ∨
      ∃ r, q.finish true out = .ok r ∧ r.result = .ok (q.expectedSize - frameHeaderSize) ∧
        r.Leaves q.buffered q.readBuffer.length := by
  obtain ⟨hheader, hthere⟩ := hframed
  have hwithin := h.within
  rw [finish_frame hheader hthere hwithin]
  by_cases hroom : q.expectedSize - frameHeaderSize ≤ out.length
  · rw [slice_ok (Nat.zero_le _) hroom, ok_bind]
    refine .inr ⟨_, rfl, rfl, ?_, ?_, ?_⟩
    · exact length_splice ..
    · show q.bufferSize - q.expectedSize ≤ (splice q.readBuffer 0 _).length
      rw [length_splice]
      omega
    · -- the bytes behind the frame are moved to the front
      have hrest : ((q.readBuffer.drop q.expectedSize).take (q.bufferSize - q.expectedSize)).length =
          q.bufferSize - q.expectedSize := by
        rw [List.length_take, List.length_drop]
        omega
      have hfits : ((q.readBuffer.drop q.expectedSize).take (q.bufferSize - q.expectedSize)).length ≤
          q.readBuffer.length := by omega
      have hfront := take_splice_zero hfits
      rw [hrest] at hfront
      show (splice q.readBuffer 0 _).take (q.bufferSize - q.expectedSize) =
        (q.readBuffer.take q.bufferSize).drop (frameHeaderSize + (q.expectedSize - frameHeaderSize))
      rw [hfront, Nat.add_sub_cancel' hheader, List.drop_take]
  · refine .inl ⟨Nat.lt_of_not_le hroom, ?_⟩
    rw [slice, if_neg (by omega)]
    rfl

end Progress

namespace FramedStream
variable {σ : Type}

/-- A call is its loop and what follows it; with a log it is the same call. -/
theorem receive_turned (R : Read σ) (fs : FramedStream) (stream : σ)
    (h : fs.readRemain ≤ fs.readBuffer.length) :
    ∃ p enough stream' asks,
      receiveLoop R.logged (fs.readBuffer.length - fs.readRemain + 1) (Progress.start fs) (stream, []) =
        .ok (p, enough, stream', asks) ∧
      Progress.Turned (Progress.start fs) asks p enough ∧
      (∀ out, fs.receive R stream out =
        (do let received ← p.finish enough out; .ok (received, stream'))) ∧
      ∀ out, fs.receive R.logged (stream, []) out =
        (do let received ← p.finish enough out; .ok (received, stream', asks)) := by
  obtain ⟨p, enough, stream', asks, hplain, hlog, hturned⟩ :=
    Progress.receiveLoop_turned R (fs.readBuffer.length - fs.readRemain + 1) (Progress.start fs) stream []
      ⟨h, .inl rfl⟩ (Nat.lt_succ_self _)
  refine ⟨p, enough, stream', asks, hlog, hturned, ?_, ?_⟩
  · intro out
    show (receiveLoop R (fs.readBuffer.length - fs.readRemain + 1) (Progress.start fs) stream >>= _) = _
    rw [hplain, ok_bind]
  · intro out
    show (receiveLoop R.logged (fs.readBuffer.length - fs.readRemain + 1) (Progress.start fs)
      (stream, []) >>= _) = _
    rw [hlog, ok_bind]
    rfl

/-- What follows the loop returns and leaves what was not taken, unless the caller's buffer is too short. -/
theorem finish_leaves {p q : Progress} {asks : List Ask} {enough : Bool} (out : Bytes)
    (h : Progress.Turned p asks q enough) :
    (out.length < q.expectedSize - frameHeaderSize ∧ q.finish enough out = .error .panic) ∨
      ∃ r, q.finish enough out = .ok r ∧
        r.Leaves (p.buffered ++ askedBytes asks) p.readBuffer.length := by
  rw [← h.buffered, ← h.size]
  cases enough with
  | false =>
    obtain ⟨hfinish, hleaves⟩ := Progress.finish_stopped h.inBuffer out
    exact .inr ⟨_, hfinish, hleaves⟩
  | true =>
    rcases Progress.finish_framed h.inBuffer (h.framed rfl) out with hshort | ⟨r, hfinish, -, hleaves⟩
    · exact .inl hshort
    · exact .inr ⟨r, hfinish, hleaves⟩

/-- **Main theorem.** Whatever the buffer holds and whatever the stream answers, a call makes at most one
read more than there are free bytes, and none into an empty slice. It returns and leaves a buffer of the
same length, with what it has received and not handed over in front; or it panics, and then the frame in
front is longer than the buffer of the caller. -/
theorem receive_reads (R : Read σ) (fs : FramedStream) (stream : σ) (out : Bytes)
    (h : fs.readRemain ≤ fs.readBuffer.length) :
    ∃ p enough stream' asks,
      receiveLoop R.logged (fs.readBuffer.length - fs.readRemain + 1) (Progress.start fs) (stream, []) =
        .ok (p, enough, stream', asks) ∧
      asks.length ≤ fs.readBuffer.length - fs.readRemain + 1 ∧
      (∀ ask ∈ asks, 0 < ask.room) ∧
      ((out.length < p.expectedSize - frameHeaderSize ∧
          fs.receive R.logged (stream, []) out = .error .panic) ∨
        ∃ r, fs.receive R.logged (stream, []) out = .ok (r, stream', asks) ∧
          fs.receive R stream out = .ok (r, stream') ∧
          r.Leaves (fs.pending ++ askedBytes asks) fs.readBuffer.length) := by
  obtain ⟨p, enough, stream', asks, hloop, hturned, hplain, hlogged⟩ := receive_turned R fs stream h
  refine ⟨p, enough, stream', asks, hloop, hturned.few, hturned.roomy, ?_⟩
  rw [hplain out, hlogged out]
  rcases finish_leaves out hturned with ⟨hshort, hfinish⟩ | ⟨r, hfinish, hleaves⟩
  · rw [hfinish]
    exact .inl ⟨hshort, rfl⟩
  · rw [hfinish]
    exact .inr ⟨r, rfl, rfl, hleaves⟩

/-- A header and one byte of two are there, and there is room for two more. -/
def midFrame : FramedStream := ⟨[0, 0, 0, 2, 7, 0, 0], 5⟩

theorem receive_reads_midFrame :
    ∃ p enough stream' asks,
      receiveLoop Source.reader.logged 3 (Progress.start midFrame) (Source.new [8, 9] [.give 1], []) =
        .ok (p, enough, stream', asks) ∧
      asks.length ≤ 3 ∧
      (∀ ask ∈ asks, 0 < ask.room) ∧
      (([0, 0] : Bytes).length < p.expectedSize - frameHeaderSize ∧
          midFrame.receive Source.reader.logged (Source.new [8, 9] [.give 1], []) [0, 0] = .error .panic ∨
        ∃ r, midFrame.receive Source.reader.logged (Source.new [8, 9] [.give 1], []) [0, 0] =
            .ok (r, stream', asks) ∧
          midFrame.receive Source.reader (Source.new [8, 9] [.give 1]) [0, 0] = .ok (r, stream') ∧
          r.Leaves ([0, 0, 0, 2, 7] ++ askedBytes asks) 7) :=
  receive_reads Source.reader midFrame (Source.new [8, 9] [.give 1]) [0, 0] (by decide)

end FramedStream

end RatsRs.Transport
