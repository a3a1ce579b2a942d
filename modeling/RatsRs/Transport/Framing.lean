import RatsRs.Transport.FramedStreamProofs

/-! Runs of `receive` calls.

On any stream whatever, the payloads handed over are the first frames of the stream
(`receiveAll_frames`); on a stream that `send` has written, they are the payloads that
were sent, and all of them when there are calls enough (`receiveAll_sent`). Both rest on
what a call does to the bytes not yet handed over, `pending` and what the stream still
has: an `Ok` takes one frame off their front, an `Err` leaves them as they are. -/
namespace RatsRs.Transport
open Lib

@[simp] theorem oks_nil : oks [] = [] := rfl

@[simp] theorem oks_ok (payload : Bytes) (results : List (Except Nat Bytes)) :
    oks (.ok payload :: results) = payload :: oks results := rfl

@[simp] theorem oks_error (e : Nat) (results : List (Except Nat Bytes)) :
    oks (.error e :: results) = oks results := rfl

namespace FramedStream
variable {cfg : Config}

theorem receiveAll_cons {σ : Type} {R : Read σ} {fs fs' : FramedStream} {s s' s'' : σ} {out : Bytes}
    {outs : List Bytes} {r : Received} {results : List (Except Nat Bytes)}
    (hcall : fs.receive R s out = .ok (r, s'))
    (hrest : receiveAll R r.framed s' outs = .ok (results, fs', s'')) :
    receiveAll R fs s (out :: outs) = .ok (r.payload :: results, fs', s'') := by
  rw [receiveAll, hcall, ok_bind]
  simp only [hrest, ok_bind]

/-! ### Any stream -/

/-- After some calls on a stream of this `content`: what was handed over stood in front of the
rest, in frames. -/
structure Caught (cfg : Config) (content : Bytes) (payloads : List Bytes) (fs : FramedStream)
    (source : Source) : Prop where
  wellFormed : fs.WellFormed cfg
  within : ∀ p ∈ payloads, p.length ≤ cfg.framing.cap
  content : content = cfg.framing.encodeAll payloads ++ (fs.pending ++ source.rest)

theorem caught_new (cfg : Config) (content : Bytes) (turns : List Turn) :
    Caught cfg content [] (new cfg) (Source.new content turns) :=
  ⟨new_wellFormed cfg, nofun, rfl⟩

/-- What was handed over are the first frames of the content. -/
theorem Caught.frames {content : Bytes} {payloads : List Bytes} {fs : FramedStream} {source : Source}
    (h : Caught cfg content payloads fs source) :
    cfg.framing.frames content = payloads ++ cfg.framing.frames (fs.pending ++ source.rest) := by
  rw [h.content, Framing.frames_encodeAll h.within]

/-- One call, on any stream. -/
theorem caught_receive {content : Bytes} {payloads : List Bytes} {fs : FramedStream} {source : Source}
    {out : Bytes} (h : Caught cfg content payloads fs source)
    (hout : cfg.receiverBufferSize ≤ out.length) :
    ∃ r source', fs.receive Source.reader source out = .ok (r, source') ∧
      Caught cfg content (payloads ++ oks [r.payload]) r.framed source' ∧
      ∃ answers, source'.log = source.log ++ answers ∧ Thrifty cfg fs.pending answers := by
  obtain ⟨answers, r, source', hcall, hasked, hthrifty, houtcome⟩ :=
    receive_spec Source.reader source h.wellFormed hout
  obtain ⟨hlog, hrest, -⟩ := Source.asked_spec hasked
  refine ⟨r, source', hcall, ?_, answers, hlog, hthrifty⟩
  have hall : content = cfg.framing.encodeAll payloads ++
      ((fs.pending ++ handed answers) ++ source'.rest) := by
    rw [h.content, hrest, List.append_assoc fs.pending]
  cases houtcome with
  | @delivered payload fs' wellFormed next =>
    obtain ⟨hcap, hframe⟩ := Framing.next_eq_some.mp next
    rw [payload_delivered]
    refine ⟨wellFormed, ?_, ?_⟩
    · intro p hp
      rcases List.mem_append.mp hp with hold | hnew
      · exact h.within p hold
      · obtain rfl : p = payload := List.mem_singleton.mp hnew
        exact hcap
    · rw [hall, hframe, Framing.encodeAll_append]
      simp
  | kept wellFormed next pending stalled =>
    rw [payload_kept]
    refine ⟨wellFormed, by simpa using h.within, ?_⟩
    rw [hall, pending]
    simp

theorem caught_receiveAll {content : Bytes} {payloads : List Bytes} {fs : FramedStream}
    {source : Source} {outs : List Bytes} (h : Caught cfg content payloads fs source)
    (houts : ∀ out ∈ outs, cfg.receiverBufferSize ≤ out.length) :
    ∃ results fs' source', receiveAll Source.reader fs source outs = .ok (results, fs', source') ∧
      Caught cfg content (payloads ++ oks results) fs' source' := by
  induction outs generalizing payloads fs source with
  | nil => exact ⟨[], fs, source, rfl, by simpa using h⟩
  | cons out outs ih =>
    obtain ⟨r, source₁, hcall, hcaught, -⟩ :=
      caught_receive h (houts out (List.mem_cons_self ..))
    obtain ⟨results, fs', source', hrest, hcaught'⟩ :=
      ih hcaught fun o ho => houts o (List.mem_cons_of_mem out ho)
    refine ⟨r.payload :: results, fs', source', receiveAll_cons hcall hrest, ?_⟩
    have hoks : oks (r.payload :: results) = oks [r.payload] ++ oks results := by
      cases r.payload <;> rfl
    rwa [hoks, ← List.append_assoc]

/-- **Main theorem.** On every stream, however it is cut into reads and wherever a read fails or gets
nothing: no run of calls with buffers of the receive buffer's size panics or goes on for ever, the
remainder stays inside the internal buffer, and the payloads handed over are the first frames of the
stream. Once an oversized header is in front of what was not handed over, no call hands over
anything; and whatever the run so far, each read of the next call was made with no complete frame
in the buffer, and a complete frame in the buffer is handed over by the next call without a read. -/
theorem receiveAll_frames (cfg : Config) (content : Bytes) (turns : List Turn) (outs : List Bytes)
    (houts : ∀ out ∈ outs, cfg.receiverBufferSize ≤ out.length) :
    ∃ results fs source,
      receiveAll Source.reader (new cfg) (Source.new content turns) outs = .ok (results, fs, source) ∧
      fs.readRemain ≤ fs.readBuffer.length ∧
      oks results <+: cfg.framing.frames content ∧
      (cfg.framing.Oversized (fs.pending ++ source.rest) →
        ∀ more : List Bytes, (∀ out ∈ more, cfg.receiverBufferSize ≤ out.length) →
          ∃ results' fs' source', receiveAll Source.reader fs source more = .ok (results', fs', source') ∧
            oks results' = []) ∧
      (∀ out : Bytes, cfg.receiverBufferSize ≤ out.length →
        ∃ r source', fs.receive Source.reader source out = .ok (r, source') ∧
          ∃ answers, source'.log = source.log ++ answers ∧ Thrifty cfg fs.pending answers) ∧
      (∀ payload rest, cfg.framing.next fs.pending = some (payload, rest) →
        ∀ out : Bytes, cfg.receiverBufferSize ≤ out.length →
          ∃ r, fs.receive Source.reader source out = .ok (r, source) ∧ r.payload = .ok payload) := by
  obtain ⟨results, fs, source, hrun, hcaught⟩ :=
    caught_receiveAll (caught_new cfg content turns) houts
  rw [List.nil_append] at hcaught
  refine ⟨results, fs, source, hrun, hcaught.wellFormed.remain, ?_, ?_, ?_, ?_⟩
  · exact ⟨_, hcaught.frames.symm⟩
  · intro hover more hmore
    obtain ⟨results', fs', source', hrun', hcaught'⟩ := caught_receiveAll hcaught hmore
    refine ⟨results', fs', source', hrun', ?_⟩
    -- no frame follows those of the first run, so those of both are no more
    have hnone := Framing.frames_of_next_none hover.next
    have hfirst := hcaught.frames
    rw [hnone, List.append_nil] at hfirst
    have hboth := hcaught'.frames
    rw [hfirst, List.append_assoc] at hboth
    have hnil := List.append_cancel_left ((List.append_nil _).trans hboth)
    exact (List.append_eq_nil_iff.mp hnil.symm).1
  · intro out hout
    obtain ⟨r, source', hcall, -, hreads⟩ := caught_receive hcaught hout
    exact ⟨r, source', hcall, hreads⟩
  · intro payload rest hnext out hout
    exact receive_complete Source.reader source hcaught.wellFormed hout hnext

/-- Buffers of a few bytes. -/
def smallConfig : Config := ⟨8, 4, by decide, by decide⟩

/-- A frame of two bytes, then a header that announces nine: the frame is all that is ever handed over. -/
theorem receiveAll_hostile :
    ∃ results fs source,
      receiveAll Source.reader (new smallConfig)
        (Source.new [0, 0, 0, 2, 1, 2, 0, 0, 0, 9, 0, 0, 0, 0] [.give 3, .fail "reset", .give 0])
        [[0, 0, 0, 0], [0, 0, 0, 0], [0, 0, 0, 0], [0, 0, 0, 0]] = .ok (results, fs, source) ∧
      oks results = [[1, 2]] ∧ oks results <+: smallConfig.framing.frames [0, 0, 0, 2, 1, 2, 0, 0, 0, 9, 0, 0, 0, 0] := by
  obtain ⟨results, fs, source, hrun, -, hframes, -⟩ :=
    receiveAll_frames smallConfig [0, 0, 0, 2, 1, 2, 0, 0, 0, 9, 0, 0, 0, 0]
      [.give 3, .fail "reset", .give 0]
      [[0, 0, 0, 0], [0, 0, 0, 0], [0, 0, 0, 0], [0, 0, 0, 0]] (by decide)
  obtain rfl : results = [.error 0, .error 0, .ok [1, 2], .error 0] :=
    (Prod.mk.inj (Except.ok.inj (hrun.symm.trans rfl))).1
  exact ⟨_, fs, source, hrun, rfl, hframes⟩

/-! ### A stream that was sent -/

/-- What is still to be handed over are the frames of these payloads, and no read gets nothing
while there is something. -/
structure Due (cfg : Config) (payloads : List Bytes) (fs : FramedStream) (source : Source) : Prop where
  wellFormed : fs.WellFormed cfg
  within : ∀ p ∈ payloads, p.length ≤ cfg.receiverBufferSize
  bytes : fs.pending ++ source.rest = cfg.framing.encodeAll payloads
  lively : Source.Lively source.turns

/-- One call: the first payload is handed over, or nothing changes; and when there is one, nothing
changes only where a read has failed. -/
theorem due_receive {payloads : List Bytes} {fs : FramedStream} {source : Source} {out : Bytes}
    (h : Due cfg payloads fs source) (hout : cfg.receiverBufferSize ≤ out.length) :
    ∃ r source', fs.receive Source.reader source out = .ok (r, source') ∧
      ((∃ payload more, payloads = payload :: more ∧ r.payload = .ok payload ∧
          Due cfg more r.framed source' ∧
          Source.failures source'.turns ≤ Source.failures source.turns) ∨
        (r.payload = .error 0 ∧ Due cfg payloads r.framed source' ∧
          (payloads = [] ∨ Source.failures source'.turns < Source.failures source.turns))) := by
  obtain ⟨answers, r, source', hcall, hasked, -, houtcome⟩ :=
    receive_spec Source.reader source h.wellFormed hout
  obtain ⟨-, hrest, hfailures⟩ := Source.asked_spec hasked
  obtain ⟨lively, hdry⟩ := Source.asked_lively h.lively hasked
  have hall : (fs.pending ++ handed answers) ++ source'.rest = cfg.framing.encodeAll payloads := by
    rw [← h.bytes, hrest, List.append_assoc]
  refine ⟨r, source', hcall, ?_⟩
  cases houtcome with
  | @delivered payload fs' wellFormed next =>
    left
    obtain ⟨hcap, hframe⟩ := Framing.next_eq_some.mp next
    cases payloads with
    | nil =>
      rw [hframe, List.append_assoc, Framing.encodeAll_nil] at hall
      exact absurd (List.append_eq_nil_iff.mp hall).1 (cfg.framing.encode_ne_nil payload)
    | cons first more =>
      have hfirst : first.length ≤ cfg.framing.cap := h.within first (List.mem_cons_self ..)
      -- both sides begin with a frame: it is the same one
      have hsame : some (payload, fs'.pending ++ source'.rest) =
          some (first, cfg.framing.encodeAll more) := by
        rw [hframe, List.append_assoc, Framing.encodeAll_cons] at hall
        rw [← Framing.next_encode hcap, hall, Framing.next_encode hfirst]
      obtain ⟨rfl, hbytes⟩ := Prod.mk.inj (Option.some.inj hsame)
      exact ⟨payload, more, rfl, payload_delivered _ _ _,
        ⟨wellFormed, fun p hp => h.within p (List.mem_cons_of_mem _ hp), hbytes, lively⟩, by omega⟩
  | @kept fs' wellFormed next pending stalled =>
    right
    refine ⟨payload_kept _ _, ⟨wellFormed, h.within, by rw [pending, hall], lively⟩, ?_⟩
    cases payloads with
    | nil => exact .inl rfl
    | cons first more =>
      right
      have hfirst : first.length ≤ cfg.receiverBufferSize := h.within first (List.mem_cons_self ..)
      rw [Framing.encodeAll_cons] at hall
      rcases stalled with hfull | hend | ⟨e, herror⟩
      · -- a full buffer holds the whole first frame
        exfalso
        have hprefix : cfg.framing.encode first <+: fs.pending ++ handed answers := by
          apply List.prefix_of_prefix_length_le (List.prefix_append _ (cfg.framing.encodeAll more))
            (hall ▸ List.prefix_append _ _)
          rw [Framing.length_encode, hfull]
          exact Nat.add_le_add_left hfirst _
        obtain ⟨tail, htail⟩ := hprefix
        rw [← htail, Framing.next_encode hfirst] at next
        cases next
      · -- the stream is at its end, so all of the first frame has arrived
        exfalso
        rw [hdry hend, List.append_nil] at hall
        rw [hall, Framing.next_encode hfirst] at next
        cases next
      · have herrors : 0 < Source.errors answers := List.countP_pos_iff.mpr ⟨_, herror, rfl⟩
        omega

/-- A run: it hands over the first payloads, in order, and the rest stays due. A call that hands over
nothing while some are due has used up a failure. -/
theorem due_receiveAll {payloads : List Bytes} {fs : FramedStream} {source : Source}
    {outs : List Bytes} (h : Due cfg payloads fs source)
    (houts : ∀ out ∈ outs, cfg.receiverBufferSize ≤ out.length) :
    ∃ results fs' source' left,
      receiveAll Source.reader fs source outs = .ok (results, fs', source') ∧
      payloads = oks results ++ left ∧ Due cfg left fs' source' ∧
      (left = [] ∨ outs.length + Source.failures source'.turns ≤
        (oks results).length + Source.failures source.turns) := by
  induction outs generalizing payloads fs source with
  | nil => exact ⟨[], fs, source, payloads, rfl, rfl, h, .inr (by simp)⟩
  | cons out outs ih =>
    have houts' : ∀ o ∈ outs, cfg.receiverBufferSize ≤ o.length :=
      fun o ho => houts o (List.mem_cons_of_mem out ho)
    obtain ⟨r, source₁, hcall, hcase⟩ := due_receive h (houts out (List.mem_cons_self ..))
    rcases hcase with ⟨payload, more, rfl, hpayload, hdue, hfail⟩ | ⟨hpayload, hdue, hfail⟩
    · obtain ⟨results, fs', source', left, hrun, hsplit, hleft, hcount⟩ := ih hdue houts'
      refine ⟨r.payload :: results, fs', source', left, receiveAll_cons hcall hrun, ?_, hleft, ?_⟩
      · rw [hpayload, oks_ok, List.cons_append, ← hsplit]
      · rw [hpayload, oks_ok, List.length_cons, List.length_cons]
        rcases hcount with hnil | hcount
        · exact .inl hnil
        · exact .inr (by omega)
    · obtain ⟨results, fs', source', left, hrun, hsplit, hleft, hcount⟩ := ih hdue houts'
      refine ⟨r.payload :: results, fs', source', left, receiveAll_cons hcall hrun, ?_, hleft, ?_⟩
      · rw [hpayload, oks_error]
        exact hsplit
      · rw [hpayload, oks_error, List.length_cons]
        rcases hfail with hnil | hfail
        · rw [hnil] at hsplit
          exact .inl (List.append_eq_nil_iff.mp hsplit.symm).2
        · rcases hcount with hnil | hcount
          · exact .inl hnil
          · exact .inr (by omega)

/-- **Main theorem.** Payloads no longer than the receive buffer, sent one after the other, come out
of the other end as they are, however the bytes are handed out and wherever a read fails: after any
number of calls those handed over are the first payloads, in order, and the bytes buffered or still to
be read are exactly the frames of the others; and with a call for every payload and for every read
that fails, all of them have been handed over. -/
theorem receiveAll_sent (cfg : Config) {τ : Type} (W : Write τ) (sink sink' : τ)
    (payloads : List Bytes) (stream : Bytes) (turns : List Turn) (outs : List Bytes)
    (hpayloads : ∀ p ∈ payloads, p.length ≤ cfg.receiverBufferSize)
    (hsent : Sent cfg W sink payloads sink')
    (hstream : W.written sink' = W.written sink ++ stream)
    (hturns : Source.Lively turns)
    (houts : ∀ out ∈ outs, cfg.receiverBufferSize ≤ out.length) :
    ∃ results fs source,
      receiveAll Source.reader (new cfg) (Source.new stream turns) outs = .ok (results, fs, source) ∧
      oks results <+: payloads ∧
      fs.pending ++ source.rest = cfg.framing.encodeAll (payloads.drop (oks results).length) ∧
      (payloads.length + Source.failures turns ≤ outs.length → oks results = payloads) := by
  have hwritten := hsent.written fun p hp => Nat.lt_of_le_of_lt (hpayloads p hp) cfg.receiverFits
  have hcontent : stream = cfg.framing.encodeAll payloads :=
    List.append_cancel_left (hstream.symm.trans hwritten)
  have hdue : Due cfg payloads (new cfg) (Source.new stream turns) :=
    ⟨new_wellFormed cfg, hpayloads, hcontent, hturns⟩
  obtain ⟨results, fs, source, left, hrun, hsplit, hleft, hcount⟩ := due_receiveAll hdue houts
  refine ⟨results, fs, source, hrun, ⟨left, hsplit.symm⟩, ?_, ?_⟩
  · rw [hleft.bytes, hsplit, List.drop_left]
  · intro henough
    have hnil : left = [] := by
      rcases hcount with hnil | hcount
      · exact hnil
      · have hlen := congrArg List.length hsplit
        rw [List.length_append] at hlen
        have : Source.failures (Source.new stream turns).turns = Source.failures turns := rfl
        exact List.eq_nil_of_length_eq_zero (by omega)
    rw [hsplit, hnil, List.append_nil]

/-- Three payloads, one of them empty and one as long as the buffer, in reads that cut headers and
payloads and one that fails. -/
theorem receiveAll_three_sent :
    ∃ results fs source,
      receiveAll Source.reader (new smallConfig)
        (Source.new [0, 0, 0, 2, 1, 2, 0, 0, 0, 0, 0, 0, 0, 4, 3, 4, 5, 6] [.give 3, .fail "reset", .give 5])
        [[0, 0, 0, 0], [0, 0, 0, 0], [0, 0, 0, 0], [0, 0, 0, 0]] = .ok (results, fs, source) ∧
      oks results = [[1, 2], [], [3, 4, 5, 6]] := by
  have hsent : Sent smallConfig Write.string [] [[1, 2], [], [3, 4, 5, 6]]
      [0, 0, 0, 2, 1, 2, 0, 0, 0, 0, 0, 0, 0, 4, 3, 4, 5, 6] :=
    .more rfl (.more rfl (.more rfl (.none _)))
  obtain ⟨results, fs, source, hrun, -, -, hall⟩ :=
    receiveAll_sent smallConfig Write.string [] [0, 0, 0, 2, 1, 2, 0, 0, 0, 0, 0, 0, 0, 4, 3, 4, 5, 6]
      [[1, 2], [], [3, 4, 5, 6]] [0, 0, 0, 2, 1, 2, 0, 0, 0, 0, 0, 0, 0, 4, 3, 4, 5, 6]
      [.give 3, .fail "reset", .give 5] [[0, 0, 0, 0], [0, 0, 0, 0], [0, 0, 0, 0], [0, 0, 0, 0]]
      (by decide) hsent rfl (by simp [Source.Lively]) (by decide)
  exact ⟨results, fs, source, hrun, hall (by decide)⟩

end FramedStream

end RatsRs.Transport
