import RatsRs.Transport.Delivery

/-! `receive` with a buffer that may be too short.

The frame has left the `FramedStream` and the counter of its packet is used before `decap_app`
compares the message with the caller's buffer. The messages returned are therefore those that fit
the buffers they were decoded into, in order, and one that does not fit is gone. -/
namespace RatsRs.Transport
open Lib

/-! ### What fits -/

/-- The messages with room in the buffers, by turns. -/
def fitting (messages : List Bytes) (buffers : List Nat) : List Bytes :=
  ((messages.zip buffers).filter fun x => x.1.length ≤ x.2).map Prod.fst

/-- Every message has room in its buffer. -/
def Roomy (messages : List Bytes) (buffers : List Nat) : Prop :=
  ∀ x ∈ messages.zip buffers, x.1.length ≤ x.2

instance (messages : List Bytes) (buffers : List Nat) : Decidable (Roomy messages buffers) :=
  inferInstanceAs (Decidable (∀ x ∈ messages.zip buffers, x.1.length ≤ x.2))

theorem fitting_append {a b : List Bytes} {buffers rooms : List Nat} (h : a.length = buffers.length) :
    fitting (a ++ b) (buffers ++ rooms) = fitting a buffers ++ fitting b rooms := by
  rw [fitting, List.zip_append h, List.filter_append, List.map_append]
  rfl

theorem fitting_replicate (messages : List Bytes) (room : Nat) :
    fitting messages (List.replicate messages.length room) =
      messages.filter (fun m => m.length ≤ room) := by
  induction messages with
  | nil => rfl
  | cons m messages ih =>
    unfold fitting at ih
    rw [fitting, List.length_cons, List.replicate_succ, List.zip_cons_cons, List.filter_cons,
      List.filter_cons]
    split
    · rw [List.map_cons, ih]
    · exact ih

/-- Buffers decide about the messages they are for. -/
theorem fitting_prefix {messages due : List Bytes} {buffers : List Nat}
    (h : messages.length = buffers.length) : fitting (messages ++ due) buffers = fitting messages buffers := by
  have happend := @fitting_append messages due buffers [] h
  rwa [List.append_nil, show fitting due [] = [] by simp [fitting], List.append_nil] at happend

theorem fitting_sublist (messages : List Bytes) (buffers : List Nat) :
    (fitting messages buffers ++ messages.drop buffers.length).Sublist messages := by
  induction messages generalizing buffers with
  | nil => simp [fitting]
  | cons m messages ih =>
    cases buffers with
    | nil => exact List.Sublist.refl _
    | cons room buffers =>
      have hrest := ih buffers
      unfold fitting at hrest
      rw [fitting, List.zip_cons_cons, List.filter_cons, List.length_cons, List.drop_succ_cons]
      split
      · exact hrest.cons_cons m
      · exact hrest.cons m

/-- What fits and what is still to come are all the bytes there are exactly if everything fits. -/
theorem fitting_whole_iff (messages : List Bytes) (buffers : List Nat) :
    (fitting messages buffers).flatten ++ (messages.drop buffers.length).flatten = messages.flatten ↔
      Roomy messages buffers := by
  induction messages generalizing buffers with
  | nil => simp [fitting, Roomy]
  | cons m messages ih =>
    cases buffers with
    | nil => simp [fitting, Roomy]
    | cons room buffers =>
      by_cases hfits : m.length ≤ room
      · have hcons : fitting (m :: messages) (room :: buffers) = m :: fitting messages buffers := by
          simp [fitting, hfits]
        have hroomy : Roomy (m :: messages) (room :: buffers) ↔ Roomy messages buffers := by
          simp [Roomy, hfits]
        rw [hcons, hroomy, ← ih buffers, List.flatten_cons, List.flatten_cons, List.length_cons,
          List.drop_succ_cons, List.append_assoc]
        exact List.append_right_inj m
      · have hskip : fitting (m :: messages) (room :: buffers) = fitting messages buffers := by
          simp [fitting, hfits]
        constructor
        · intro h
          -- bytes of `m` are missing
          have hlength := congrArg List.length h
          have hsub := (fitting_sublist messages buffers).flatten.length_le
          rw [hskip, List.length_cons, List.drop_succ_cons, List.flatten_cons] at hlength
          simp only [List.flatten_append, List.length_append] at hlength hsub
          omega
        · intro h
          exact absurd (h (m, room) (List.mem_cons_self ..)) hfits

/-- Then what fits is a first part of them. -/
theorem Roomy.prefix {messages : List Bytes} {buffers : List Nat} (h : Roomy messages buffers) :
    (fitting messages buffers).flatten <+: messages.flatten :=
  ⟨_, (fitting_whole_iff messages buffers).mpr h⟩

/-- And as many messages as there are buffers. -/
theorem Roomy.fitting {messages : List Bytes} {buffers : List Nat} (h : Roomy messages buffers) :
    Transport.fitting messages buffers = messages.take buffers.length := by
  have hall : ((messages.zip buffers).filter fun x => x.1.length ≤ x.2) = messages.zip buffers :=
    List.filter_eq_self.mpr fun x hx => decide_eq_true (h x hx)
  rw [Transport.fitting, hall, List.zip_eq_zip_take_min, List.map_fst_zip (by simp)]
  rcases Nat.le_total buffers.length messages.length with hle | hle
  · rw [Nat.min_eq_right hle]
  · rw [Nat.min_eq_left hle, List.take_length, List.take_of_length_le hle]

/-! ### Runs with any buffers -/

/-- A session, and for each party the lengths of the buffers its packets were decoded into. -/
structure Logged (C : Type) where
  system : System C
  buffers : Role → List Nat

section Runs
variable {C : Type} (lib : Spdmlib C) (cfg : Config)

/-- One step of one of the calls; a receive is made with a buffer of any length. -/
inductive AnyStep : Logged C → Logged C → Prop
  | quiet {s : Logged C} {t : System C} (step : Quiet lib cfg s.system t) :
      AnyStep s { s with system := t }
  | deliver {s : Logged C} (p : Role) {received : Received} {buf buf' : Bytes} {result : Res Nat}
      {common : C}
      (receiving : (s.system.endpoint p).receiving = some (.decoding received buf))
      (deliver : (s.system.endpoint p).readHalf.deliver lib (s.system.endpoint p).common received buf =
        (result, buf', common)) :
      AnyStep s
        { system :=
            { s.system.setEndpoint p
                { s.system.endpoint p with common := common, receiving := none } with
              received := Function.update s.system.received p
                (s.system.received p ++ returned result buf') }
          buffers := Function.update s.buffers p
            (s.buffers p ++ List.replicate received.packet?.toList.length buf.length) }

abbrev AnySteps : Logged C → Logged C → Prop :=
  Relation.ReflTransGen (AnyStep lib cfg)

variable {lib cfg}

theorem QuietSteps.any {s t : System C} {buffers : Role → List Nat} (h : QuietSteps lib cfg s t) :
    AnySteps lib cfg ⟨s, buffers⟩ ⟨t, buffers⟩ := by
  induction h with
  | refl => exact .refl
  | tail _ hstep ih => exact ih.tail (.quiet hstep)

/-- The steps of a session with room in every buffer are such steps. -/
theorem Step.any {s t : System C} (h : Step lib cfg s t) (buffers : Role → List Nat) :
    ∃ buffers', AnyStep lib cfg ⟨s, buffers⟩ ⟨t, buffers'⟩ := by
  cases h with
  | encode p idle encode =>
    refine ⟨buffers, .quiet (.of_party p (.encode p idle encode) (System.setEndpoint_peer ..) ?_)⟩
    rw [System.setEndpoint_self]
    exact id
  | transmit p sending transmit =>
    refine ⟨buffers, .quiet (.of_party p (.transmit p sending transmit) (System.setEndpoint_peer ..) ?_)⟩
    show ((s.setEndpoint p _).endpoint p).receiving = none → _
    rw [System.setEndpoint_self]
    exact id
  | call p buf idle =>
    exact ⟨buffers, .quiet (.of_party p (.call p buf idle) (System.setEndpoint_peer ..) fun _ => idle)⟩
  | read p receiving check reads more =>
    refine ⟨buffers, .quiet (.of_party p (.read p receiving check reads more)
      (System.setEndpoint_peer ..) ?_)⟩
    show ((s.setEndpoint p _).endpoint p).receiving = none → _
    rw [System.setEndpoint_self]
    nofun
  | framed p receiving ends finish =>
    refine ⟨buffers, .quiet (.of_party p (.framed p receiving ends finish)
      (System.setEndpoint_peer ..) ?_)⟩
    show ((s.setEndpoint p _).endpoint p).receiving = none → _
    rw [System.setEndpoint_self]
    nofun
  | deliver p receiving deliver room => exact ⟨_, .deliver p receiving deliver⟩

theorem Steps.any {s t : System C} (h : Steps lib cfg s t) (buffers : Role → List Nat) :
    ∃ buffers', AnySteps lib cfg ⟨s, buffers⟩ ⟨t, buffers'⟩ := by
  induction h with
  | refl => exact ⟨buffers, .refl⟩
  | tail _ hstep ih =>
    obtain ⟨between, hbetween⟩ := ih
    obtain ⟨buffers', hlast⟩ := hstep.any between
    exact ⟨buffers', hbetween.tail hlast⟩

/-- `receive` is steps, whatever its buffer. -/
theorem receive_any {σ : Type} {R : Read σ} {content : σ → Bytes}
    (hR : ∀ {t n answer t'}, R.read t n = (answer, t') → Reads (content t) n answer (content t'))
    {s : System C} {buffers : Role → List Nat} {p : Role} {buf buf' : Bytes} {t t' : σ}
    {result : Res Nat} {half : ReadHalf} {common : C} (idle : (s.endpoint p).receiving = none)
    (hwire : s.wire p.peer = content t)
    (receive : (s.endpoint p).readHalf.receive lib cfg R (s.endpoint p).common t buf =
      (result, buf', half, common, t'))
    (returns : result.Safe) :
    ∃ packets, AnySteps lib cfg ⟨s, buffers⟩
      ⟨s.delivered p half common (content t') (returned result buf'),
        Function.update buffers p (buffers p ++ List.replicate packets buf.length)⟩ := by
  obtain ⟨received, hsteps, hdeliver⟩ := receive_decoding hR idle hwire receive returns
  have hstep := @AnyStep.deliver C lib cfg ⟨s.decoding p half received buf (content t'), buffers⟩ p
    received buf buf' result common (by rw [System.decoding_endpoint])
    (by rw [System.decoding_endpoint]; exact hdeliver)
  refine ⟨received.packet?.toList.length, hsteps.any.tail ?_⟩
  rw [← System.delivered_of_decoding s p half received buf (content t')]
  exact hstep

/-- A step that returns nothing does not depend on what was returned before. -/
theorem Quiet.relabel {s t : System C} (h : Quiet lib cfg s t) (received : Role → List Bytes) :
    t.received = s.received ∧
      Step lib cfg { s with received := received } { t with received := received } := by
  obtain ⟨hstep, hquiet⟩ := h
  cases hstep with
  | encode p idle encode => exact ⟨rfl, .encode p idle encode⟩
  | transmit p sending transmit => exact ⟨rfl, .transmit p sending transmit⟩
  | call p buf idle => exact ⟨rfl, .call p buf idle⟩
  | read p receiving check reads more => exact ⟨rfl, .read p receiving check reads more⟩
  | framed p receiving ends finish => exact ⟨rfl, .framed p receiving ends finish⟩
  | @deliver p received buf buf' result common receiving deliver room =>
    have hdone : ((s.setEndpoint p { s.endpoint p with common := common, receiving := none }).endpoint
        p).receiving = none := by rw [System.setEndpoint_self]
    rw [hquiet p hdone] at receiving
    cases receiving

end Runs

/-! ### What is taken and what is returned -/

section Taken
variable {C Key : Type} {lib : Spdmlib C} {cfg : Config} {S : Sealing Key Bool}

/-- `taken` are the messages whose packets have been decoded: counted as received, they keep the
invariant of the session, and those that fit have been returned. -/
structure Taken (channel : SecuredChannel lib cfg S) (sessionId : Nat) (key : Key) (s : Logged C)
    (taken : Role → List Bytes) : Prop where
  invariant : Invariant channel sessionId key { s.system with received := taken }
  buffers : ∀ p, (taken p).length = (s.buffers p).length
  received : ∀ p, s.system.received p = fitting (taken p) (s.buffers p)

variable {channel : SecuredChannel lib cfg S} {sessionId : Nat} {key : Key} {s s' : Logged C}
  {taken : Role → List Bytes}

theorem Taken.step (h : Taken channel sessionId key s taken) (hstep : AnyStep lib cfg s s') :
    ∃ taken', Taken channel sessionId key s' taken' := by
  cases hstep with
  | quiet step =>
    obtain ⟨hreceived, hrelabelled⟩ := step.relabel taken
    exact ⟨taken, h.invariant.step hrelabelled, h.buffers, by rw [hreceived]; exact h.received⟩
  | @deliver p received buf buf' result common receiving deliver =>
    obtain ⟨more, hlength, hreturned, -, hinv⟩ :=
      Invariant.take (p := p) h.invariant receiving deliver
    refine ⟨Function.update taken p (taken p ++ more), hinv, ?_, ?_⟩
    · refine Role.both p ?_ ?_
      · show (Function.update taken p _ p).length = (Function.update s.buffers p _ p).length
        rw [Function.update_self, Function.update_self, List.length_append, List.length_append,
          List.length_replicate, h.buffers p, hlength]
      · show (Function.update taken p _ p.peer).length = (Function.update s.buffers p _ p.peer).length
        rw [Function.update_of_ne (Role.peer_ne p), Function.update_of_ne (Role.peer_ne p)]
        exact h.buffers p.peer
    · refine Role.both p ?_ ?_
      · show Function.update s.system.received p _ p =
          fitting (Function.update taken p _ p) (Function.update s.buffers p _ p)
        rw [Function.update_self, Function.update_self, Function.update_self,
          fitting_append (h.buffers p), ← hlength, fitting_replicate, hreturned, h.received p]
      · show Function.update s.system.received p _ p.peer =
          fitting (Function.update taken p _ p.peer) (Function.update s.buffers p _ p.peer)
        rw [Function.update_of_ne (Role.peer_ne p), Function.update_of_ne (Role.peer_ne p),
          Function.update_of_ne (Role.peer_ne p)]
        exact h.received p.peer

theorem Taken.steps (h : Taken channel sessionId key s taken) (hsteps : AnySteps lib cfg s s') :
    ∃ taken', Taken channel sessionId key s' taken' := by
  induction hsteps with
  | refl => exact ⟨taken, h⟩
  | tail _ hstep ih =>
    obtain ⟨between, hbetween⟩ := ih
    exact hbetween.step hstep

/-- What is taken is a first part of what was sent, and the rest is on its way. -/
theorem Taken.due (h : Taken channel sessionId key s taken) (p : Role) :
    s.system.received p = fitting (s.system.sent p.peer) (s.buffers p) ∧
      (s.system.endpoint p).undecoded cfg ++ s.system.wire p.peer = cfg.framing.encodeAll
        (packetsFrom S key (!p.isRequester)
          (channel.counter (s.system.endpoint p).common sessionId (!p.isRequester))
          ((s.system.sent p.peer).drop (s.buffers p).length)) := by
  obtain ⟨due, hflow⟩ := h.invariant.receives p
  have hsent : s.system.sent p.peer = taken p ++ due := hflow.sent
  refine ⟨?_, ?_⟩
  · rw [hsent, fitting_prefix (h.buffers p)]
    exact h.received p
  · rw [hsent, ← h.buffers p, List.drop_left]
    exact hflow.bytes

end Taken

/-- **Main theorem.** After `into_split`, in every state that any order of steps of the four halves
leads to, with receives into buffers of any lengths: the messages `receive` has returned and those still
on their way are all the bytes that were sent exactly if every packet was decoded into a buffer with room
for its message; then what was returned is a first part of what was sent. -/
theorem receive_lossless_iff {C Key : Type} (lib : Spdmlib C) (cfg : Config) (S : Sealing Key Bool)
    (channel : SecuredChannel lib cfg S) (n : Negotiated C) (sessionId : Nat) (key : Key)
    (agreed : n.Agreed channel sessionId key) :
    ∃ s₀, n.intoSplit cfg = .ok s₀ ∧
      ∀ s, AnySteps lib cfg ⟨s₀, fun _ => []⟩ s → ∀ p : Role,
        ((s.system.received p).flatten ++
            ((s.system.sent p.peer).drop (s.buffers p).length).flatten =
            (s.system.sent p.peer).flatten ↔ Roomy (s.system.sent p.peer) (s.buffers p)) ∧
          (s.system.endpoint p).undecoded cfg ++ s.system.wire p.peer = cfg.framing.encodeAll
            (packetsFrom S key (!p.isRequester)
              (channel.counter (s.system.endpoint p).common sessionId (!p.isRequester))
              ((s.system.sent p.peer).drop (s.buffers p).length)) ∧
          (Roomy (s.system.sent p.peer) (s.buffers p) →
            (s.system.received p).flatten <+: (s.system.sent p.peer).flatten) := by
  obtain ⟨s₀, hsplit, hwire, hsent, hpackets, hreceived, hendpoint⟩ :=
    Negotiated.intoSplit_ok cfg agreed.sessions
  refine ⟨s₀, hsplit, fun s hsteps p => ?_⟩
  have hstart : Taken channel sessionId key ⟨s₀, fun _ => []⟩ (fun _ => []) := by
    refine ⟨agreed.invariant hwire hsent hpackets rfl hendpoint, fun _ => rfl, ?_⟩
    intro r
    show s₀.received r = _
    rw [hreceived]
    rfl
  obtain ⟨taken, htaken⟩ := hstart.steps hsteps
  obtain ⟨hreturned, hdue⟩ := htaken.due p
  rw [hreturned]
  exact ⟨fitting_whole_iff _ _, hdue, Roomy.prefix⟩

/-- The requester takes the byte that was on its way when it split with a buffer of two bytes. -/
theorem plainSession_lossless :
    ∃ s₀ s, plainSession.intoSplit plainConfig = .ok s₀ ∧
      AnySteps (Spdmlib.plain plainConfig) plainConfig ⟨s₀, fun _ => []⟩ s ∧
      s.system.received .requester = [[8]] ∧
      (s.system.received .requester).flatten <+: (s.system.sent .responder).flatten := by
  obtain ⟨s₀, hsplit, hlossless⟩ := receive_lossless_iff (Spdmlib.plain plainConfig) plainConfig
    Sealing.plain (plainChannel plainConfig) plainSession 7 () plainSession_agreed
  obtain rfl : plainStart = s₀ := Except.ok.inj hsplit
  obtain ⟨packets, hreceive⟩ := @receive_any PlainContext (Spdmlib.plain plainConfig) plainConfig Source
    Source.reader Source.rest Source.readInto_reads plainStart (fun _ => []) .requester [0, 0] [8, 0]
    (Source.new [0, 2, 8] [.give 1]) ⟨[], [], [.ok [0], .ok [2, 8]]⟩ (.ok 1)
    ⟨true, 7, ⟨[0, 0, 0, 5, 1, 0, 0, 2, 8] ++ List.replicate 11 0, 0⟩⟩ ⟨7, 0, 1⟩ rfl rfl
    (by decide +kernel) Res.safe_ok
  have hroomy : Roomy [[8]] (List.replicate packets 2) := by
    intro x hx
    obtain ⟨hmessage, hroom⟩ := List.of_mem_zip hx
    rw [List.mem_singleton.mp hmessage, (List.mem_replicate.mp hroom).2]
    decide
  exact ⟨plainStart, _, hsplit, hreceive, rfl, (hlossless _ hreceive .requester).2.2 hroomy⟩

/-- With an empty buffer it fails, and the next message it gets is the next one the responder sends:
the first is lost. -/
theorem plainSession_loses :
    ∃ s₀ s, plainSession.intoSplit plainConfig = .ok s₀ ∧
      AnySteps (Spdmlib.plain plainConfig) plainConfig ⟨s₀, fun _ => []⟩ s ∧
      s.system.received .requester = [[9]] ∧ s.system.sent .responder = [[8], [9]] ∧
      ¬ (s.system.received .requester).flatten <+: (s.system.sent .responder).flatten := by
  have hsplit : plainSession.intoSplit plainConfig = .ok plainStart := rfl
  obtain ⟨packets, hfails⟩ := @receive_any PlainContext (Spdmlib.plain plainConfig) plainConfig Source
    Source.reader Source.rest Source.readInto_reads plainStart (fun _ => []) .requester [] []
    (Source.new [0, 2, 8] []) ⟨[], [], [.ok [0, 2, 8]]⟩
    (Res.fail .spdmReceive ("Failed to decode as secured message: " ++
      (Spdmlib.plain plainConfig).debug .decapAppFail))
    ⟨true, 7, ⟨[0, 0, 0, 5, 1, 0, 0, 2, 8] ++ List.replicate 11 0, 0⟩⟩ ⟨7, 0, 1⟩ rfl rfl
    rfl Res.safe_fail
  obtain ⟨s₁, hsends, hendpoint, hwire, hreceived, hsent⟩ : ∃ s₁,
      QuietSteps (Spdmlib.plain plainConfig) plainConfig (plainStart.delivered .requester
        ⟨true, 7, ⟨[0, 0, 0, 5, 1, 0, 0, 2, 8] ++ List.replicate 11 0, 0⟩⟩ ⟨7, 0, 1⟩ [] []) s₁ ∧
      s₁.endpoint .requester = ⟨⟨7, 0, 1⟩,
        ⟨true, 7, ⟨[0, 0, 0, 5, 1, 0, 0, 2, 8] ++ List.replicate 11 0, 0⟩⟩,
        ⟨true, 7, FramedStream.new plainConfig⟩, none, none⟩ ∧
      s₁.wire .responder = [0, 0, 0, 6, 1, 0, 1, 0, 2, 9] ∧ s₁.received .requester = [] ∧
      s₁.sent .responder = [[8], [9]] := by
    obtain ⟨packet, hsends⟩ := @send_steps PlainContext (Spdmlib.plain plainConfig) plainConfig
      (plainStart.delivered .requester
        ⟨true, 7, ⟨[0, 0, 0, 5, 1, 0, 0, 2, 8] ++ List.replicate 11 0, 0⟩⟩ ⟨7, 0, 1⟩ [] []) .responder [9]
      [0, 0, 0, 6, 1, 0, 1, 0, 2, 9] ⟨7, 0, 2⟩ rfl (by decide +kernel)
    exact ⟨_, hsends, rfl, rfl, rfl, rfl⟩
  obtain ⟨packets', hreceives⟩ := @receive_any PlainContext (Spdmlib.plain plainConfig) plainConfig Source
    Source.reader Source.rest Source.readInto_reads s₁
    (Function.update (fun _ => []) .requester ([] ++ List.replicate packets 0)) .requester [0] [9]
    (Source.new [0, 0, 0, 6, 1, 0, 1, 0, 2, 9] []) ⟨[], [], [.ok [0, 0, 0, 6, 1, 0, 1, 0, 2, 9]]⟩ (.ok 1)
    ⟨true, 7, ⟨[0, 0, 0, 6, 1, 0, 1, 0, 2, 9] ++ List.replicate 10 0, 0⟩⟩ ⟨7, 0, 2⟩ (by rw [hendpoint])
    hwire (by rw [hendpoint]; decide +kernel) Res.safe_ok
  refine ⟨plainStart, _, hsplit, (hfails.trans hsends.any).trans hreceives, ?_, hsent, ?_⟩
  · rw [System.delivered_received, hreceived]
    rfl
  · rw [System.delivered_received, System.delivered_sent, hreceived, hsent]
    decide

end RatsRs.Transport
