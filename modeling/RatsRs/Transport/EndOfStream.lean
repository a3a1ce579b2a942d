import RatsRs.Transport.Plain
import RatsRs.Transport.ReceiveLoop

/-! The end of the stream.

A read that gets nothing into a slice that is not empty says that the peer has closed. The call that
meets it hands over nothing and reports `Err(0)`, whether the frames it has received are whole (`Clean`)
or not, and `ReadHalf` makes the same error of it: a connection that was closed and one that was cut off
look the same from above. -/
namespace RatsRs.Transport
open Lib

namespace FramedStream
variable {σ : Type} {R : Read σ} {fs : FramedStream} {stream stream' : σ} {out : Bytes} {r : Received}

/-! ### Runs -/

theorem receive_remain (h : fs.readRemain ≤ fs.readBuffer.length)
    (hreceive : fs.receive R stream out = .ok (r, stream')) :
    r.framed.readRemain ≤ r.framed.readBuffer.length := by
  obtain ⟨p, enough, left, asks, -, hturned, hplain, -⟩ := receive_turned R fs stream h
  rw [hplain out] at hreceive
  rcases finish_leaves out hturned with ⟨-, hfinish⟩ | ⟨r', hfinish, hleaves⟩
  · rw [hfinish, error_bind] at hreceive
    cases hreceive
  · rw [hfinish, ok_bind] at hreceive
    obtain ⟨rfl, -⟩ := Prod.mk.inj (Except.ok.inj hreceive)
    exact hleaves.remain

theorem receiveAll_remain {outs : List Bytes} {payloads : List (Except Nat Bytes)} {fs' : FramedStream}
    (h : fs.readRemain ≤ fs.readBuffer.length)
    (hrun : receiveAll R fs stream outs = .ok (payloads, fs', stream')) :
    fs'.readRemain ≤ fs'.readBuffer.length := by
  induction outs generalizing fs stream payloads with
  | nil =>
    obtain ⟨-, rfl, -⟩ := ok_triple_inj hrun
    exact h
  | cons out outs ih =>
    rw [receiveAll] at hrun
    obtain ⟨⟨r, stream₁⟩, hreceive, hrest⟩ := bind_eq_ok.mp hrun
    obtain ⟨⟨payloads', fs₂, stream₂⟩, hrun', heq⟩ := bind_eq_ok.mp hrest
    obtain ⟨-, heq⟩ := Prod.mk.inj (Except.ok.inj heq)
    obtain ⟨rfl, rfl⟩ := Prod.mk.inj heq
    exact ih (receive_remain h hreceive) hrun'

/-! ### The call that meets the end -/

/-- It hands over nothing, into no matter which buffer, and keeps what it has. -/
theorem receive_end {asks : List Ask} (h : fs.readRemain ≤ fs.readBuffer.length)
    (hlast : fs.receive R.logged (stream, []) out = .ok (r, stream', asks))
    (hend : .ok [] ∈ asks.map Ask.answer) :
    r.result = .error 0 ∧ r.framed.pending = fs.pending ++ askedBytes asks ∧
      ∀ out', fs.receive R stream out' = .ok (⟨.error 0, out', r.framed⟩, stream') := by
  obtain ⟨p, enough, left, asks', -, hturned, hplain, hlogged⟩ := receive_turned R fs stream h
  rw [hlogged out] at hlast
  obtain ⟨r', hfinish, hcall⟩ := bind_eq_ok.mp hlast
  obtain ⟨rfl, rfl, rfl⟩ := ok_triple_inj hcall
  cases enough with
  | true =>
    -- with a frame every read was fruitful
    obtain ⟨ask, hask, hanswer⟩ := List.mem_map.mp hend
    have hsome := hturned.fruitful rfl ask hask
    rw [hanswer, handed_singleton_ok] at hsome
    exact absurd rfl hsome
  | false =>
    have hstopped := fun out => (Progress.finish_stopped hturned.inBuffer out).1
    rw [hstopped] at hfinish
    obtain rfl := Except.ok.inj hfinish
    refine ⟨rfl, hturned.buffered, fun out' => ?_⟩
    rw [hplain out', hstopped, ok_bind]

end FramedStream

/-- Receives one after the other on a new `FramedStream`, and one more that meets the end of the stream. -/
structure EofRun (cfg : Config) where
  Stream : Type
  reader : Read Stream
  opened : Stream
  outs : List Bytes
  payloads : List (Except Nat Bytes)
  framed : FramedStream
  stream : Stream
  earlier : FramedStream.receiveAll reader (FramedStream.new cfg) opened outs = .ok (payloads, framed, stream)
  out : Bytes
  received : Received
  left : Stream
  asks : List Ask
  last : framed.receive reader.logged (stream, []) out = .ok (received, left, asks)
  ended : .ok [] ∈ asks.map Ask.answer

namespace EofRun
variable {cfg : Config}

/-- The stream ends on a frame boundary: no byte is buffered. -/
def Clean (run : EofRun cfg) : Prop := run.received.framed.pending = []

def outcome (run : EofRun cfg) : Except Nat Nat := run.received.result

/-- What a read half with the same `FramedStream` makes of it. -/
def half {C : Type} (run : EofRun cfg) (lib : Spdmlib C) (isRequester : Bool) (sessionId : Nat) (common : C)
    (buf : Bytes) : Res Nat :=
  (ReadHalf.receive lib cfg run.reader ⟨isRequester, sessionId, run.framed⟩ common run.stream buf).1

/-- A clean end is `Ok(0)`, another an error. -/
def HalfReports (run : EofRun cfg) : Prop :=
  ∀ {C : Type} (lib : Spdmlib C) (isRequester : Bool) (sessionId : Nat) (common : C) (buf : Bytes),
    (run.Clean → run.half lib isRequester sessionId common buf = .ok 0) ∧
      (¬ run.Clean → ∃ e, run.half lib isRequester sessionId common buf = .error (.error e))

/-- The end of the run differs from every end of the other kind, and the read half reports it as it is. -/
def ToldApart (run : EofRun cfg) : Prop :=
  (∀ other : EofRun cfg, (other.Clean ↔ ¬ run.Clean) → run.outcome ≠ other.outcome) ∧ run.HalfReports

theorem remain (run : EofRun cfg) : run.framed.readRemain ≤ run.framed.readBuffer.length :=
  FramedStream.receiveAll_remain (FramedStream.new_wellFormed cfg).remain run.earlier

theorem outcome_eq (run : EofRun cfg) : run.outcome = .error 0 :=
  (FramedStream.receive_end run.remain run.last run.ended).1

/-- The error of every end. -/
theorem half_eq {C : Type} (run : EofRun cfg) (lib : Spdmlib C) (isRequester : Bool) (sessionId : Nat)
    (common : C) (buf : Bytes) :
    run.half lib isRequester sessionId common buf =
      Res.fail .spdmReceive "Failed to receive message from device_io: 0" := by
  obtain ⟨-, -, hreceive⟩ := FramedStream.receive_end run.remain run.last run.ended
  rw [half, ReadHalf.receive, hreceive]
  rfl

/-! ### An end of each kind -/

/-- While there is less than a header, the loop reads into all that is free. -/
theorem check_short {p : Progress} (hzero : p.expectedSize = 0) (hshort : p.bufferSize < frameHeaderSize)
    (hroom : p.bufferSize < p.readBuffer.length) : p.check = .ok (p, .wants p.free) := by
  rw [Progress.check, Progress.expect, if_neg (by omega), ok_bind, if_neg (by omega), if_neg (by omega)]
  rfl

/-- The peer has closed. -/
theorem receiveLoop_closed {p : Progress} (hzero : p.expectedSize = 0)
    (hshort : p.bufferSize < frameHeaderSize) (hroom : p.bufferSize < p.readBuffer.length) (fuel : Nat)
    (answers : List Answer) (log : List Ask) :
    receiveLoop Source.reader.logged (fuel + 1) p (⟨[], [], answers⟩, log) =
      .ok ((p.absorb (.ok [])).1, false, ⟨[], [], answers ++ [.ok []]⟩, log ++ [⟨p.free, .ok []⟩]) := by
  rw [Progress.receiveLoop_read (check_short hzero hshort hroom) rfl]
  simp [Read.logged, Source.reader, Source.readInto, Source.hand, Progress.absorb]

/-- It closes after one byte. -/
theorem receiveLoop_byte {p : Progress} (hzero : p.expectedSize = 0)
    (hshort : p.bufferSize < frameHeaderSize) (hroom : p.bufferSize < p.readBuffer.length) (fuel : Nat)
    (b : UInt8) :
    receiveLoop Source.reader.logged (fuel + 1) p (Source.new [b] [], []) =
      receiveLoop Source.reader.logged fuel (p.absorb (.ok [b])).1
        (⟨[], [], [.ok [b]]⟩, [⟨p.free, .ok [b]⟩]) := by
  have htake : [b].take p.free = [b] := List.take_of_length_le (Nat.le_sub_of_add_le' hroom)
  have hdrop : [b].drop p.free = [] := List.drop_eq_nil_of_le (Nat.le_sub_of_add_le' hroom)
  rw [Progress.receiveLoop_read (check_short hzero hshort hroom) rfl]
  simp [Read.logged, Source.reader, Source.readInto, Source.hand, Source.new, Progress.absorb, htake, hdrop]

/-- Such a run, if its one call ends without a frame. -/
theorem exists_run {content : Bytes} {p : Progress} {left : Source} {asks : List Ask}
    (hloop : receiveLoop Source.reader.logged ((FramedStream.new cfg).readBuffer.length + 1)
      (Progress.start (FramedStream.new cfg)) (Source.new content [], []) = .ok (p, false, left, asks))
    (hwithin : p.bufferSize ≤ p.readBuffer.length) (hend : .ok [] ∈ asks.map Ask.answer) :
    ∃ run : EofRun cfg, run.received.framed.pending = p.buffered := by
  have hlast : (FramedStream.new cfg).receive Source.reader.logged (Source.new content [], []) [] =
      .ok (⟨.error 0, [], ⟨p.readBuffer, p.bufferSize⟩⟩, left, asks) := by
    show (receiveLoop Source.reader.logged ((FramedStream.new cfg).readBuffer.length + 1)
      (Progress.start (FramedStream.new cfg)) (Source.new content [], []) >>= _) = _
    rw [hloop, ok_bind]
    simp only [Progress.finish_not_enough hwithin, ok_bind]
  let run : EofRun cfg := {
    Stream := Source
    reader := Source.reader
    opened := Source.new content []
    outs := []
    payloads := []
    framed := FramedStream.new cfg
    stream := Source.new content []
    earlier := rfl
    out := []
    received := ⟨.error 0, [], ⟨p.readBuffer, p.bufferSize⟩⟩
    left := left
    asks := asks
    last := hlast
    ended := hend }
  exact ⟨run, rfl⟩

theorem new_room (cfg : Config) : frameHeaderSize ≤ (FramedStream.new cfg).readBuffer.length := by
  rw [(FramedStream.new_wellFormed cfg).size]
  exact Nat.le_add_right ..

/-- The peer closes at once. -/
theorem exists_clean (cfg : Config) : ∃ run : EofRun cfg, run.Clean := by
  have hroom := new_room cfg
  have hfour : 0 < frameHeaderSize := by decide
  have hloop := receiveLoop_closed (p := Progress.start (FramedStream.new cfg)) rfl hfour
    (Nat.lt_of_lt_of_le hfour hroom) (FramedStream.new cfg).readBuffer.length [] []
  obtain ⟨run, hpending⟩ := exists_run hloop (Nat.zero_le _) (List.mem_singleton_self _)
  exact ⟨run, hpending⟩

/-- It closes after the first byte of a header. -/
theorem exists_cut (cfg : Config) : ∃ run : EofRun cfg, ¬ run.Clean := by
  have hroom := new_room cfg
  have hfour : 0 < frameHeaderSize := by decide
  have hstart : (Progress.start (FramedStream.new cfg)).InBuffer := ⟨Nat.zero_le _, .inl rfl⟩
  obtain ⟨hp₁, hlen, hbuffered, -⟩ := Progress.absorb_inBuffer (.ok [2]) hstart fun bytes hbytes => by
    obtain rfl := Except.ok.inj hbytes
    exact Nat.lt_of_lt_of_le hfour hroom
  have hloop := receiveLoop_byte (p := Progress.start (FramedStream.new cfg)) rfl hfour
    (Nat.lt_of_lt_of_le hfour hroom) (FramedStream.new cfg).readBuffer.length 2
  obtain ⟨fuel, hfuel⟩ := Nat.exists_eq_add_one.mpr (Nat.lt_of_lt_of_le hfour hroom)
  have hone : 1 < ((Progress.start (FramedStream.new cfg)).absorb (.ok [2])).1.readBuffer.length := by
    rw [hlen]
    exact Nat.lt_of_lt_of_le (by decide) hroom
  have hrest := receiveLoop_closed (p := ((Progress.start (FramedStream.new cfg)).absorb (.ok [2])).1) rfl
    (show 1 < frameHeaderSize by decide) hone fuel
  rw [← hfuel] at hrest
  rw [hrest] at hloop
  obtain ⟨hp₂, -, hempty, -⟩ := Progress.absorb_inBuffer (.ok []) hp₁ fun bytes hbytes => by
    obtain rfl := Except.ok.inj hbytes
    exact hp₁.within
  obtain ⟨run, hpending⟩ := exists_run hloop hp₂.within (by simp)
  refine ⟨run, ?_⟩
  -- what is buffered is the byte
  rw [Clean, hpending, hempty, hbuffered]
  simp

/-- **Main theorem.** Whatever the stream, its cuts and the receives before, the call that meets the end
reports `Err(0)`: it is like that of every end of the other kind. The read half makes an error of it, which
is right exactly if the stream was cut off. -/
theorem never_toldApart (run : EofRun cfg) :
    run.outcome = .error 0 ∧ (run.HalfReports ↔ ¬ run.Clean) ∧ ¬ run.ToldApart := by
  refine ⟨run.outcome_eq, ⟨?_, ?_⟩, ?_⟩
  · intro hreports hclean
    have hok := (hreports (Spdmlib.plain cfg) true 0 ⟨0, 0, 0⟩ []).1 hclean
    rw [half_eq] at hok
    cases hok
  · intro hcut C lib isRequester sessionId common buf
    refine ⟨fun hclean => absurd hclean hcut, fun _ => ?_⟩
    exact ⟨_, half_eq run lib isRequester sessionId common buf⟩
  · intro htold
    have hequal : ∀ other : EofRun cfg, run.outcome = other.outcome := by
      intro other
      rw [outcome_eq, outcome_eq]
    by_cases hclean : run.Clean
    · obtain ⟨other, hcut⟩ := exists_cut cfg
      exact htold.1 other (by simp [hclean, hcut]) (hequal other)
    · obtain ⟨other, hother⟩ := exists_clean cfg
      exact htold.1 other (by simp [hclean, hother]) (hequal other)

/-- The first receives of a device and of a read half whose peer has sent `content` and closed: the two
results, and what stays buffered. -/
def afterClose (content : Bytes) : Except Crash (Except Nat Nat) × Res Nat × Bytes :=
  let device := (FramedStream.new plainConfig).receive Source.reader (Source.new content []) [0, 0]
  let (result, _, half, _) := ReadHalf.receive (Spdmlib.plain plainConfig) plainConfig Source.reader
    ⟨true, 7, FramedStream.new plainConfig⟩ ⟨7, 0, 0⟩ (Source.new content []) [0, 0]
  (device.map (·.1.result), result, half.deviceIo.pending)

/-- A peer that has closed between two frames looks like one that was cut off inside a header: both are
errors. -/
theorem close_is_error :
    afterClose [] = (.ok (.error 0),
      Res.fail .spdmReceive "Failed to receive message from device_io: 0", []) ∧
    afterClose [0, 0] = (.ok (.error 0),
      Res.fail .spdmReceive "Failed to receive message from device_io: 0", [0, 0]) :=
  ⟨rfl, rfl⟩

end EofRun

end RatsRs.Transport
