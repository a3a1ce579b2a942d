import RatsRs.Transport.Framing

/-! Sends that fail.

A `send` that fails may have put some front part of its frame on the stream, and the next one
writes its own frame behind it. As long as nothing is written behind such a part, the peer gets
only payloads that were put whole (`receiveAll_tried`); a part with something behind it is filled up
with that (`frames_torn`), and so handed over (`receiveAll_torn`). -/
namespace RatsRs.Transport.FramedStream
open Lib

/-- Sends one after the other, `Ok` or not: the payloads, each with what its send has put on the stream. -/
inductive Tried {τ : Type} (cfg : Config) (W : Write τ) : τ → List (Bytes × Bytes) → τ → Prop
  | none (sink : τ) : Tried cfg W sink [] sink
  | more {sink sink' sink'' : τ} {payload front : Bytes} {sent : List (Bytes × Bytes)}
      {result : Except SpdmStatus Unit} (send : send cfg W sink payload = .ok (result, sink'))
      (put : W.written sink' = W.written sink ++ front) (rest : Tried cfg W sink' sent sink'') :
      Tried cfg W sink ((payload, front) :: sent) sink''

/-- The payloads whose frames were put whole. -/
def whole (cfg : Config) (sent : List (Bytes × Bytes)) : List Bytes :=
  (sent.filter fun x => x.2 = cfg.framing.encode x.1).map Prod.fst

/-- Each send puts all of its frame on the stream or nothing; or else no later one puts anything. -/
def Unbroken (cfg : Config) : List (Bytes × Bytes) → Prop
  | [] => True
  | (payload, front) :: later =>
    ((front = [] ∨ front = cfg.framing.encode payload) ∧ Unbroken cfg later) ∨ ∀ x ∈ later, x.2 = []

section Sends
variable {τ : Type} {cfg : Config} {W : Write τ}

/-- Every sequence of sends is such a run. -/
theorem exists_tried (hkeeps : W.KeepsFront) (sink : τ) (payloads : List Bytes) :
    ∃ sent sink', Tried cfg W sink sent sink' ∧ sent.map Prod.fst = payloads := by
  induction payloads generalizing sink with
  | nil => exact ⟨[], sink, .none sink, rfl⟩
  | cons payload payloads ih =>
    obtain ⟨result, sink₁, hsend, -, hfront⟩ := send_spec cfg W sink payload
    obtain ⟨front, -, hput⟩ := hfront hkeeps
    obtain ⟨sent, sink', hrest, hpayloads⟩ := ih sink₁
    exact ⟨(payload, front) :: sent, sink', .more hsend hput hrest, by rw [List.map_cons, hpayloads]⟩

theorem Tried.written {sink sink' : τ} {sent : List (Bytes × Bytes)}
    (h : Tried cfg W sink sent sink') :
    W.written sink' = W.written sink ++ sent.flatMap Prod.snd := by
  induction h with
  | none sink => simp
  | more send put rest ih => rw [ih, put, List.flatMap_cons, List.append_assoc]

/-- What a send puts on the stream is some front part of its frame. -/
theorem Tried.fronts {sink sink' : τ} {sent : List (Bytes × Bytes)} (hkeeps : W.KeepsFront)
    (hshort : ∀ x ∈ sent, x.1.length < 2 ^ 32) (h : Tried cfg W sink sent sink') :
    ∀ x ∈ sent, x.2 <+: cfg.framing.encode x.1 := by
  induction h with
  | none sink => nofun
  | @more sink sink₁ sink' payload front sent result send put rest ih =>
    intro x hx
    rcases List.mem_cons.mp hx with rfl | hlater
    · obtain ⟨result', sink₂, hsend, -, hfront⟩ := send_spec cfg W sink payload
      obtain ⟨front', hprefix, hput⟩ := hfront hkeeps
      obtain ⟨-, rfl⟩ := Prod.mk.inj (Except.ok.inj (send.symm.trans hsend))
      obtain rfl : front = front' := List.append_cancel_left (put.symm.trans hput)
      have hsize : asU32 payload.length = payload.length :=
        Nat.mod_eq_of_lt (hshort (payload, front) (List.mem_cons_self ..))
      rwa [hsize] at hprefix
    · exact ih (fun y hy => hshort y (List.mem_cons_of_mem _ hy)) x hlater

end Sends

/-! ### What is on the stream -/

section Streams
variable {cfg : Config} {sent : List (Bytes × Bytes)}

/-- With nothing behind a part of a frame, there are whole frames and at most one such part, the last. -/
theorem Unbroken.stream (h : Unbroken cfg sent) (hshort : ∀ x ∈ sent, x.1.length < 2 ^ 32)
    (hfronts : ∀ x ∈ sent, x.2 <+: cfg.framing.encode x.1) :
    ∃ tail payload missing, sent.flatMap Prod.snd = cfg.framing.encodeAll (whole cfg sent) ++ tail ∧
      payload.length < 2 ^ 32 ∧ tail ++ missing = cfg.framing.encode payload ∧ missing ≠ [] := by
  induction sent with
  | nil => exact ⟨[], [], _, rfl, by decide, rfl, cfg.framing.encode_ne_nil []⟩
  | cons x later ih =>
    obtain ⟨payload, front⟩ := x
    have hshort' : ∀ x ∈ later, x.1.length < 2 ^ 32 := fun x hx => hshort x (List.mem_cons_of_mem _ hx)
    have hfronts' : ∀ x ∈ later, x.2 <+: cfg.framing.encode x.1 :=
      fun x hx => hfronts x (List.mem_cons_of_mem _ hx)
    rcases h with ⟨hfront, hlater⟩ | hlater
    · obtain ⟨tail, last, missing, hstream, htail⟩ := ih hlater hshort' hfronts'
      refine ⟨tail, last, missing, ?_, htail⟩
      rcases hfront with rfl | rfl
      · have hskip : whole cfg ((payload, []) :: later) = whole cfg later := by
          rw [whole, List.filter_cons_of_neg (by simpa using (cfg.framing.encode_ne_nil payload).symm)]
          rfl
        rw [List.flatMap_cons, List.nil_append, hskip, hstream]
      · have hcons : whole cfg ((payload, cfg.framing.encode payload) :: later) =
            payload :: whole cfg later := by
          rw [whole, List.filter_cons_of_pos (by simp)]
          rfl
        rw [List.flatMap_cons, hcons, hstream, Framing.encodeAll_cons, List.append_assoc]
    · have hnone : later.flatMap Prod.snd = [] := List.flatMap_eq_nil_iff.mpr hlater
      have hwhole : whole cfg later = [] := by
        rw [whole, List.map_eq_nil_iff, List.filter_eq_nil_iff]
        intro x hx
        simpa [hlater x hx] using (cfg.framing.encode_ne_nil x.1).symm
      obtain ⟨missing, hmissing⟩ := hfronts (payload, front) (List.mem_cons_self ..)
      by_cases hall : front = cfg.framing.encode payload
      · have hcons : whole cfg ((payload, front) :: later) = [payload] := by
          rw [whole, List.filter_cons_of_pos (by simpa using hall), List.map_cons]
          exact congrArg _ hwhole
        refine ⟨[], [], _, ?_, by decide, rfl, cfg.framing.encode_ne_nil []⟩
        rw [List.flatMap_cons, hnone, hcons, hall]
        simp
      · have hskip : whole cfg ((payload, front) :: later) = [] := by
          rw [whole, List.filter_cons_of_neg (by simpa using hall)]
          exact hwhole
        refine ⟨front, payload, missing, ?_, hshort (payload, front) (List.mem_cons_self ..), hmissing, ?_⟩
        · rw [List.flatMap_cons, hnone, hskip]
          simp
        · intro hnil
          rw [hnil, List.append_nil] at hmissing
          exact hall hmissing

/-- What is handed over of such a stream are whole frames' payloads. -/
theorem Caught.whole {content tail last missing : Bytes} {payloads all : List Bytes} {fs : FramedStream}
    {source : Source} (h : Caught cfg content payloads fs source)
    (hall : ∀ p ∈ all, p.length < 2 ^ 32) (hcontent : content = cfg.framing.encodeAll all ++ tail)
    (hlast : last.length < 2 ^ 32) (htail : tail ++ missing = cfg.framing.encode last)
    (hmissing : missing ≠ []) : payloads <+: all := by
  have hbytes : cfg.framing.encodeAll payloads ++ ((fs.pending ++ source.rest) ++ missing) =
      cfg.framing.encodeAll (all ++ [last]) := by
    rw [← List.append_assoc, ← h.content, hcontent, List.append_assoc, htail, Framing.encodeAll_append,
      Framing.encodeAll_cons, Framing.encodeAll_nil, List.append_nil]
  obtain ⟨hsplit, hrest⟩ := Framing.prefix_of_encodeAll (f := cfg.framing) payloads (all ++ [last])
    (fun p hp => Nat.lt_of_le_of_lt (h.within p hp) cfg.framing.holds)
    (by
      intro p hp
      rw [cfg.framing_lengths]
      rcases List.mem_append.mp hp with hold | hnew
      · exact hall p hold
      · rwa [List.mem_singleton.mp hnew])
    hbytes
  have hprefix : payloads <+: all ++ [last] := ⟨_, hsplit.symm⟩
  rcases List.prefix_concat_iff.mp hprefix with hequal | hshorter
  · -- then nothing would be missing
    exfalso
    rw [hequal, List.drop_length, Framing.encodeAll_nil] at hrest
    exact hmissing (List.append_eq_nil_iff.mp hrest).2
  · exact hshorter

end Streams

/-- **Main theorem.** Sends of any payloads whose lengths are `u32`s, over a stream whose writes may fail
anywhere. As long as none puts bytes behind a part of a frame: however the peer's reads cut the stream and
wherever they fail, the packets it is handed are payloads of those sends, whole and in order, namely
the first of those that were put whole. -/
theorem receiveAll_tried (cfg : Config) {τ : Type} (W : Write τ) (hkeeps : W.KeepsFront) (sink : τ)
    (payloads : List Bytes) (hshort : ∀ p ∈ payloads, p.length < 2 ^ 32) :
    (∃ sent sink', Tried cfg W sink sent sink' ∧ sent.map Prod.fst = payloads) ∧
      ∀ (sent : List (Bytes × Bytes)) (sink' : τ), Tried cfg W sink sent sink' →
        sent.map Prod.fst = payloads → Unbroken cfg sent →
        ∀ (stream : Bytes) (turns : List Turn) (outs : List Bytes),
          W.written sink' = W.written sink ++ stream →
          (∀ out ∈ outs, cfg.receiverBufferSize ≤ out.length) →
          ∃ results fs source,
            receiveAll Source.reader (new cfg) (Source.new stream turns) outs =
              .ok (results, fs, source) ∧
            oks results <+: whole cfg sent ∧ (oks results).Sublist payloads := by
  refine ⟨exists_tried hkeeps sink payloads, ?_⟩
  intro sent sink' htried hpayloads hunbroken stream turns outs hstream houts
  have hshort' : ∀ x ∈ sent, x.1.length < 2 ^ 32 := by
    intro x hx
    apply hshort
    rw [← hpayloads]
    exact List.mem_map_of_mem hx
  obtain ⟨tail, last, missing, hbytes, hlast, htail, hmissing⟩ :=
    hunbroken.stream hshort' (htried.fronts hkeeps hshort')
  have hcontent : stream = cfg.framing.encodeAll (whole cfg sent) ++ tail := by
    rw [← hbytes]
    exact List.append_cancel_left (hstream.symm.trans htried.written)
  obtain ⟨results, fs, source, hrun, hcaught⟩ := caught_receiveAll (caught_new cfg stream turns) houts
  rw [List.nil_append] at hcaught
  have hsublist : (whole cfg sent).Sublist payloads := by
    rw [← hpayloads]
    exact List.filter_sublist.map Prod.fst
  have hwhole : oks results <+: whole cfg sent := by
    refine hcaught.whole ?_ hcontent hlast htail hmissing
    intro p hp
    exact hshort p (hsublist.subset hp)
  exact ⟨results, fs, source, hrun, hwhole, hwhole.sublist.trans hsublist⟩

/-- Two frames that were put whole, one send between them that put nothing, and one after them whose
frame is cut. -/
theorem receiveAll_three_tried :
    ∃ results fs source,
      receiveAll Source.reader (new smallConfig)
        (Source.new [0, 0, 0, 2, 1, 2, 0, 0, 0, 1, 9, 0, 0, 0, 3, 4] [.give 3, .fail "reset"])
        [[0, 0, 0, 0], [0, 0, 0, 0], [0, 0, 0, 0], [0, 0, 0, 0]] = .ok (results, fs, source) ∧
      (oks results).Sublist [[1, 2], [5, 6, 7], [9], [4, 4, 4]] := by
  have htried : Tried smallConfig Faulty.writer ⟨[], [4, 2, 0, 4, 1, 4, 1]⟩
      [([1, 2], [0, 0, 0, 2, 1, 2]), ([5, 6, 7], []), ([9], [0, 0, 0, 1, 9]), ([4, 4, 4], [0, 0, 0, 3, 4])]
      ⟨[0, 0, 0, 2, 1, 2, 0, 0, 0, 1, 9, 0, 0, 0, 3, 4], []⟩ :=
    .more rfl rfl (.more rfl rfl (.more rfl rfl (.more rfl rfl (.none _))))
  have hunbroken : Unbroken smallConfig [([1, 2], [0, 0, 0, 2, 1, 2]), ([5, 6, 7], []),
      ([9], [0, 0, 0, 1, 9]), ([4, 4, 4], [0, 0, 0, 3, 4])] :=
    .inl ⟨.inr rfl, .inl ⟨.inl rfl, .inl ⟨.inr rfl, .inr nofun⟩⟩⟩
  obtain ⟨-, hall⟩ := receiveAll_tried smallConfig Faulty.writer Faulty.writer_keeps
    ⟨[], [4, 2, 0, 4, 1, 4, 1]⟩ [[1, 2], [5, 6, 7], [9], [4, 4, 4]] (by decide)
  obtain ⟨results, fs, source, hrun, -, hsublist⟩ := hall _ _ htried rfl hunbroken
    [0, 0, 0, 2, 1, 2, 0, 0, 0, 1, 9, 0, 0, 0, 3, 4] [.give 3, .fail "reset"]
    [[0, 0, 0, 0], [0, 0, 0, 0], [0, 0, 0, 0], [0, 0, 0, 0]] rfl (by decide)
  exact ⟨results, fs, source, hrun, hsublist⟩

/-- A send that fails one byte before the end of its frame, and one that does not: the peer is handed the
first byte of the second header as the last of the first payload. -/
theorem header_as_payload :
    ∃ sink₁ sink₂ fs source,
      send smallConfig Faulty.writer ⟨[], [4, 2]⟩ [1, 2, 3] = .ok (.error .sendFail, sink₁) ∧
      send smallConfig Faulty.writer sink₁ [9] = .ok (.ok (), sink₂) ∧
      receiveAll Source.reader (new smallConfig) (Source.new (Faulty.writer.written sink₂) [])
        [[0, 0, 0, 0], [0, 0, 0, 0]] = .ok ([.ok [1, 2, 0], .error 0], fs, source) ∧
      ¬ (oks [.ok [1, 2, 0], .error 0]).Sublist [[1, 2, 3], [9]] :=
  ⟨⟨[0, 0, 0, 3, 1, 2], []⟩, ⟨[0, 0, 0, 3, 1, 2, 0, 0, 0, 1, 9], []⟩, _, _, rfl, rfl, rfl, by decide⟩

/-- Cut after its header, a frame within the cap is filled up with what is put behind it: the packet is
its payload exactly if that begins with the bytes that are missing. -/
theorem frames_torn {cfg : Config} {payload next : Bytes} {kept : Nat}
    (hcap : payload.length ≤ cfg.framing.cap) (hkept : kept ≤ payload.length)
    (henough : payload.length ≤ kept + next.length) :
    ∃ packet, cfg.framing.frames
        ((cfg.framing.encode payload).take (cfg.framing.width + kept) ++ next) =
        packet :: cfg.framing.frames (next.drop (payload.length - kept)) ∧
      (packet = payload ↔ next.take (payload.length - kept) = payload.drop kept) := by
  have hlen : (payload.take kept ++ next.take (payload.length - kept)).length = payload.length := by
    rw [List.length_append, List.length_take, List.length_take]
    omega
  refine ⟨payload.take kept ++ next.take (payload.length - kept), ?_, ?_⟩
  · have hstream : (cfg.framing.encode payload).take (cfg.framing.width + kept) ++ next =
        cfg.framing.encode (payload.take kept ++ next.take (payload.length - kept)) ++
          next.drop (payload.length - kept) := by
      rw [Framing.encode, Framing.encode, hlen, List.take_append, length_beBytes,
        List.take_of_length_le (by rw [length_beBytes]; omega), Nat.add_sub_cancel_left]
      simp only [List.append_assoc, List.take_append_drop]
    rw [hstream, Framing.frames_encode (by rw [hlen]; exact hcap)]
  · constructor
    · intro h
      have hsplit : payload.take kept ++ next.take (payload.length - kept) =
          payload.take kept ++ payload.drop kept := by rw [h, List.take_append_drop]
      exact List.append_cancel_left hsplit
    · intro h
      rw [h, List.take_append_drop]

/-- Of such a stream the packet is all that can be handed over at its place, however it is read. -/
theorem receiveAll_torn {cfg : Config} {payload next : Bytes} {kept : Nat}
    (hcap : payload.length ≤ cfg.framing.cap) (hkept : kept ≤ payload.length)
    (henough : payload.length ≤ kept + next.length) {outs : List Bytes}
    (houts : ∀ out ∈ outs, cfg.receiverBufferSize ≤ out.length) :
    ∃ packet, (packet = payload ↔ next.take (payload.length - kept) = payload.drop kept) ∧
      ∀ turns : List Turn, ∃ results fs source,
        receiveAll Source.reader (new cfg)
          (Source.new ((cfg.framing.encode payload).take (cfg.framing.width + kept) ++ next) turns) outs =
            .ok (results, fs, source) ∧
        oks results <+: packet :: cfg.framing.frames (next.drop (payload.length - kept)) := by
  obtain ⟨packet, hframes, hpacket⟩ := frames_torn hcap hkept henough
  refine ⟨packet, hpacket, fun turns => ?_⟩
  obtain ⟨results, fs, source, hrun, hcaught⟩ := caught_receiveAll (caught_new cfg _ turns) houts
  rw [List.nil_append] at hcaught
  refine ⟨results, fs, source, hrun, ?_⟩
  rw [← hframes, hcaught.frames]
  exact List.prefix_append _ _

end RatsRs.Transport.FramedStream
