import Muxio.Framing.Decoder
import Muxio.Framing.Encoder

/-!
# Reassembly in any order of arrival

The frames of a closed stream carry the sequence ids `0, 1, 2, …` and only the
last one is an end frame.  The invariant of reassembly says where the entry of
such a stream stands once some of the frames have arrived: everything below the
first missing frame has been released, everything above it that has arrived is
held, and the entry disappears exactly when nothing is missing.

Two consequences are drawn.  Frames that arrive in order are released at once,
with no bound on their number; frames of a stream of fewer than `2 ^ 32` frames
are released in order whatever the order of arrival.
-/

namespace Muxio.Framing

open Std
open Muxio.Transition

/-- The frames of one closed stream, in sending order. -/
structure Sequenced (frames : List DecodedFrame) : Prop where
  bounded : frames.length < 2 ^ 32
  nonempty : frames ≠ []
  seqId : ∀ ⦃i : Nat⦄ ⦃frame : DecodedFrame⦄, frames[i]? = some frame →
    frame.inner.seqId.toNat = i
  notCancel : ∀ ⦃i : Nat⦄ ⦃frame : DecodedFrame⦄, frames[i]? = some frame →
    frame.inner.kind ≠ .cancel
  isEnd : ∀ ⦃i : Nat⦄ ⦃frame : DecodedFrame⦄, frames[i]? = some frame →
    (frame.inner.kind = .end ↔ i + 1 = frames.length)

namespace StreamReassembly

theorem releaseNext_decreasing : Decreasing releaseNext fun stream => stream.buffer.size := by
  intro stream out next runs
  unfold releaseNext at runs
  split at runs
  · contradiction
  · rename_i frame held
    simp only [Option.some.injEq, Prod.mk.injEq] at runs
    have member : stream.nextExpected ∈ stream.buffer :=
      ExtTreeMap.mem_iff_isSome_getElem?.mpr (by simp [held])
    have positive : stream.buffer.size ≠ 0 := by
      intro empty
      rw [ExtTreeMap.eq_empty_iff_size_eq_zero.mpr empty] at member
      exact ExtTreeMap.not_mem_empty member
    have smaller : (stream.buffer.erase stream.nextExpected).size = stream.buffer.size - 1 := by
      rw [ExtTreeMap.size_erase, if_pos (ExtTreeMap.mem_iff_contains.mp member)]
    rw [← runs.2]
    simp only [smaller]
    omega

/-! ## The invariant -/

/-- The buffer holds exactly the received frames from position `start` on. -/
def Holds (frames : List DecodedFrame) (received : List Nat) (start : Nat)
    (buffer : ExtTreeMap UInt32 DecodedFrame compare) : Prop :=
  ∀ seqId : UInt32, buffer[seqId]? =
    if start ≤ seqId.toNat ∧ seqId.toNat ∈ received then frames[seqId.toNat]? else none

/-- An entry that still waits for the frame at position `start`. -/
structure Waiting (frames : List DecodedFrame) (received : List Nat) (start : Nat)
    (stream : StreamReassembly) : Prop where
  next : stream.nextExpected.toNat = start
  holds : Holds frames received start stream.buffer
  notCanceled : stream.isCanceled = false
  ended : stream.isEnded = true ↔ frames.length - 1 ∈ received

/-- Where reassembly stands when the frames at the `received` positions have
arrived and the first `start` frames have been released. -/
structure Progress (frames : List DecodedFrame) (received : List Nat) (start : Nat)
    (entry : Option StreamReassembly) : Prop where
  below : ∀ i < start, i ∈ received
  standing : (start < frames.length ∧ start ∉ received ∧
      Waiting frames received start (entry.getD fresh)) ∨
    (start = frames.length ∧ entry = none)

theorem Progress.initial {frames : List DecodedFrame} (sequenced : Sequenced frames) :
    Progress frames [] 0 none where
  below := by
    intro i below
    exact absurd below (Nat.not_lt_zero i)
  standing := by
    refine Or.inl ⟨List.length_pos_of_ne_nil sequenced.nonempty, List.not_mem_nil, ?_⟩
    exact ⟨rfl, fun seqId => by simp [fresh], rfl, by simp [fresh]⟩

/-- Releasing moves the start to the first missing position and hands out the
frames in between. -/
theorem release_eq {frames : List DecodedFrame} (bounded : frames.length < 2 ^ 32)
    {received : List Nat} {start : Nat} {stream : StreamReassembly}
    (inRange : start ≤ frames.length) (waiting : Waiting frames received start stream) :
    ∃ stop, start ≤ stop ∧ stop ≤ frames.length ∧
      (∀ i, start ≤ i → i < stop → i ∈ received) ∧
      (stop < frames.length → stop ∉ received) ∧
      stream.release.1 = ((frames.take stop).drop start).map Except.ok ∧
      Waiting frames received stop stream.release.2 := by
  unfold release
  induction stream using exhaust_induction releaseNext_decreasing generalizing start with
  | declined stream declines =>
      have missing : stream.buffer[stream.nextExpected]? = none := by
        unfold releaseNext at declines
        split at declines
        · assumption
        · contradiction
      refine ⟨start, le_rfl, inRange, fun i low high => by omega, ?_, ?_, ?_⟩
      · intro below arrived
        rw [waiting.holds, waiting.next, if_pos ⟨le_rfl, arrived⟩] at missing
        rw [List.getElem?_eq_getElem below] at missing
        contradiction
      · rw [exhaust_of_none _ declines, List.drop_eq_nil_of_le (by simp)]
        rfl
      · rw [exhaust_of_none _ declines]
        exact waiting
  | iterated stream out next runs ih =>
      have loop := exhaust_of_some releaseNext_decreasing runs
      unfold releaseNext at runs
      split at runs
      · contradiction
      · rename_i frame held
        simp only [Option.some.injEq, Prod.mk.injEq] at runs
        rcases runs with ⟨rfl, rfl⟩
        rw [waiting.holds, waiting.next] at held
        have arrived : start ∈ received := by
          by_contra missing
          simp [missing] at held
        rw [if_pos ⟨le_rfl, arrived⟩] at held
        obtain ⟨below, frameEq⟩ := List.getElem?_eq_some_iff.mp held
        have nextStart : (stream.nextExpected + 1).toNat = start + 1 := by
          rw [UInt32.toNat_add, waiting.next]
          exact Nat.mod_eq_of_lt (show start + 1 < 2 ^ 32 by omega)
        have waitingNext : Waiting frames received (start + 1)
            { stream with
              buffer := stream.buffer.erase stream.nextExpected
              nextExpected := stream.nextExpected + 1 } := by
          refine ⟨nextStart, ?_, waiting.notCanceled, waiting.ended⟩
          intro seqId
          rw [ExtTreeMap.getElem?_erase, waiting.holds seqId]
          by_cases same : stream.nextExpected = seqId
          · subst same
            simp [waiting.next]
          · have different : seqId.toNat ≠ start := by
              intro equal
              exact same (UInt32.toNat_inj.mp (waiting.next.trans equal.symm))
            have shifted : start + 1 ≤ seqId.toNat ↔ start ≤ seqId.toNat := by omega
            simp [same, shifted]
        rcases ih below waitingNext with ⟨stop, low, high, between, firstMissing, outEq, rest⟩
        refine ⟨stop, by omega, high, ?_, firstMissing, ?_, ?_⟩
        · intro i lower upper
          rcases Nat.eq_or_lt_of_le lower with rfl | above
          · exact arrived
          · exact between i above upper
        · have inTake : start < (frames.take stop).length := by
            rw [List.length_take]
            omega
          rw [loop]
          simp only [outEq]
          rw [List.drop_eq_getElem_cons inTake]
          simp [frameEq]
        · rw [loop]
          exact rest

/-! ## One arrival -/

@[simp]
theorem hold_nextExpected (stream : StreamReassembly) (frame : DecodedFrame) :
    (stream.hold frame).nextExpected = stream.nextExpected := by
  unfold hold
  split <;> rfl

@[simp]
theorem hold_isCanceled (stream : StreamReassembly) (frame : DecodedFrame) :
    (stream.hold frame).isCanceled = stream.isCanceled := by
  unfold hold
  split <;> rfl

@[simp]
theorem hold_buffer (stream : StreamReassembly) (frame : DecodedFrame) :
    (stream.hold frame).buffer = stream.buffer.insert frame.inner.seqId frame := by
  unfold hold
  split <;> rfl

@[simp]
theorem hold_isEnded (stream : StreamReassembly) (frame : DecodedFrame) :
    (stream.hold frame).isEnded = true ↔
      stream.isEnded = true ∨ frame.inner.kind = .end := by
  unfold hold
  split <;> simp_all

/-- What accepting a frame of a stream that is not canceled does. -/
theorem accept_eq {entry : Option StreamReassembly} {frame : DecodedFrame}
    (running : (entry.getD fresh).isCanceled = false) (notCancel : frame.inner.kind ≠ .cancel) :
    accept entry frame =
      ((((entry.getD fresh).hold frame).release).1,
        let stream := (((entry.getD fresh).hold frame).release).2
        if stream.isEnded = true ∧ stream.buffer = ∅ then none else some stream) := by
  have notCanceled : (entry.map isCanceled).getD false = false := by
    cases entry with
    | none => rfl
    | some stream => exact running
  unfold accept
  simp only [notCanceled, if_neg notCancel, Bool.false_eq_true, if_false, Bool.and_eq_true,
    ExtTreeMap.isEmpty_iff]
  split <;> rfl

theorem Waiting.hold {frames : List DecodedFrame} (sequenced : Sequenced frames)
    {received : List Nat} {start : Nat} {stream : StreamReassembly}
    (waiting : Waiting frames received start stream) {frame : DecodedFrame}
    (ofStream : frames[frame.inner.seqId.toNat]? = some frame)
    (atLeast : start ≤ frame.inner.seqId.toNat) :
    Waiting frames (frame.inner.seqId.toNat :: received) start (stream.hold frame) where
  next := by
    rw [hold_nextExpected]
    exact waiting.next
  holds := by
    intro seqId
    rw [hold_buffer, ExtTreeMap.getElem?_insert, waiting.holds seqId]
    by_cases same : frame.inner.seqId = seqId
    · subst same
      simp [atLeast, ofStream]
    · have different : seqId.toNat ≠ frame.inner.seqId.toNat := by
        intro equal
        exact same (UInt32.toNat_inj.mp equal.symm)
      simp [same, different]
  notCanceled := by
    rw [hold_isCanceled]
    exact waiting.notCanceled
  ended := by
    obtain ⟨position, -⟩ := List.getElem?_eq_some_iff.mp ofStream
    have isLast : frame.inner.kind = .end ↔ frames.length - 1 = frame.inner.seqId.toNat := by
      rw [sequenced.isEnd ofStream]
      omega
    rw [hold_isEnded, waiting.ended, isLast, List.mem_cons, or_comm]

/-- An entry that has released everything holds nothing more. -/
theorem Waiting.buffer_eq_empty {frames : List DecodedFrame} {received : List Nat}
    {stream : StreamReassembly} (waiting : Waiting frames received frames.length stream) :
    stream.buffer = ∅ := by
  refine ExtTreeMap.ext_getElem? fun {seqId} => ?_
  rw [waiting.holds seqId, ExtTreeMap.getElem?_empty]
  split
  · rename_i held
    exact List.getElem?_eq_none held.1
  · rfl

/-- An entry whose end frame waits for an earlier frame holds the end frame. -/
theorem Waiting.buffer_ne_empty {frames : List DecodedFrame} (bounded : frames.length < 2 ^ 32)
    {received : List Nat} {start : Nat} {stream : StreamReassembly}
    (waiting : Waiting frames received start stream) (inRange : start < frames.length)
    (ended : stream.isEnded = true) : stream.buffer ≠ ∅ := by
  intro emptied
  have lastSeq : (UInt32.ofNat (frames.length - 1)).toNat = frames.length - 1 :=
    UInt32.toNat_ofNat_of_lt' (show frames.length - 1 < 2 ^ 32 by omega)
  have held := waiting.holds (UInt32.ofNat (frames.length - 1))
  rw [emptied, ExtTreeMap.getElem?_empty, lastSeq, if_pos ⟨by omega, waiting.ended.mp ended⟩,
    List.getElem?_eq_getElem (by omega)] at held
  contradiction

/-- Accepting a new frame of the stream releases what it makes consecutive and
keeps the invariant. -/
theorem Progress.accept {frames : List DecodedFrame} (sequenced : Sequenced frames)
    {received : List Nat} {start : Nat} {entry : Option StreamReassembly}
    (progress : Progress frames received start entry) {frame : DecodedFrame}
    (ofStream : frames[frame.inner.seqId.toNat]? = some frame)
    (isNew : frame.inner.seqId.toNat ∉ received) :
    ∃ stop, start ≤ stop ∧ stop ≤ frames.length ∧
      (StreamReassembly.accept entry frame).1 =
        ((frames.take stop).drop start).map Except.ok ∧
      Progress frames (frame.inner.seqId.toNat :: received) stop
        (StreamReassembly.accept entry frame).2 := by
  obtain ⟨position, -⟩ := List.getElem?_eq_some_iff.mp ofStream
  have atLeast : start ≤ frame.inner.seqId.toNat := by
    by_contra released
    exact isNew (progress.below _ (Nat.lt_of_not_le released))
  rcases progress.standing with ⟨inRange, -, waiting⟩ | ⟨complete, -⟩
  · rcases release_eq sequenced.bounded inRange.le (waiting.hold sequenced ofStream atLeast) with
      ⟨stop, low, high, between, firstMissing, outEq, rest⟩
    have below : ∀ i < stop, i ∈ frame.inner.seqId.toNat :: received := by
      intro i lower
      rcases Nat.lt_or_ge i start with early | late
      · exact List.mem_cons_of_mem _ (progress.below i early)
      · exact between i late lower
    rw [accept_eq waiting.notCanceled (sequenced.notCancel ofStream)]
    refine ⟨stop, low, high, outEq, below, ?_⟩
    rcases Nat.eq_or_lt_of_le high with whole | shorter
    · have ended := rest.ended.mpr (below (frames.length - 1) (by omega))
      have emptied := Waiting.buffer_eq_empty (whole ▸ rest)
      exact Or.inr ⟨whole, if_pos ⟨ended, emptied⟩⟩
    · refine Or.inl ⟨shorter, firstMissing shorter, ?_⟩
      rw [if_neg]
      · exact rest
      · rintro ⟨ended, emptied⟩
        exact rest.buffer_ne_empty sequenced.bounded shorter ended emptied
  · omega

/-! ## Whole runs of one stream -/

/-- A run over distinct new frames keeps the invariant. -/
theorem Progress.run {frames : List DecodedFrame} (sequenced : Sequenced frames)
    {arrivals : List DecodedFrame} {received : List Nat} {start : Nat}
    {entry : Option StreamReassembly} (progress : Progress frames received start entry)
    (ofStream : ∀ frame ∈ arrivals, frames[frame.inner.seqId.toNat]? = some frame)
    (distinct : (arrivals.map fun frame => frame.inner.seqId.toNat).Nodup)
    (areNew : ∀ frame ∈ arrivals, frame.inner.seqId.toNat ∉ received) :
    ∃ stop, start ≤ stop ∧ stop ≤ frames.length ∧
      (runEntry StreamReassembly.accept entry arrivals).1 =
        ((frames.take stop).drop start).map Except.ok ∧
      Progress frames ((arrivals.map fun frame => frame.inner.seqId.toNat).reverse ++ received) stop
        (runEntry StreamReassembly.accept entry arrivals).2 := by
  induction arrivals generalizing received start entry with
  | nil =>
      have bounded : start ≤ frames.length := by
        rcases progress.standing with ⟨inRange, -⟩ | ⟨complete, -⟩ <;> omega
      refine ⟨start, le_rfl, bounded, ?_, progress⟩
      rw [List.drop_eq_nil_of_le (by simp)]
      rfl
  | cons frame rest ih =>
      rw [List.map_cons, List.nodup_cons] at distinct
      rcases progress.accept sequenced (ofStream frame List.mem_cons_self)
        (areNew frame List.mem_cons_self) with ⟨middle, low, high, firstOut, firstProgress⟩
      have restNew : ∀ other ∈ rest,
          other.inner.seqId.toNat ∉ frame.inner.seqId.toNat :: received := by
        intro other member
        rw [List.mem_cons, not_or]
        refine ⟨?_, areNew other (List.mem_cons_of_mem _ member)⟩
        intro same
        exact distinct.1 (List.mem_map.mpr ⟨other, member, same⟩)
      rcases ih firstProgress (fun other member => ofStream other (List.mem_cons_of_mem _ member))
        distinct.2 restNew with ⟨stop, lower, upper, restOut, restProgress⟩
      refine ⟨stop, low.trans lower, upper, ?_, ?_⟩
      · have joined : (frames.take stop).drop start =
            (frames.take middle).drop start ++ (frames.take stop).drop middle := by
          rw [← List.take_append_drop middle (frames.take stop), List.take_take,
            min_eq_left lower, List.drop_append, List.drop_append]
          simp [high, low]
        rw [runEntry_cons, joined, List.map_append]
        simp only [firstOut, restOut]
      · rw [runEntry_cons, List.map_cons, List.reverse_cons, List.append_assoc]
        exact restProgress

/-- The frames of a closed stream come out in sequence, whatever the order they
arrive in, and leave no entry behind. -/
theorem runEntry_accept_perm {frames arrivals : List DecodedFrame} (sequenced : Sequenced frames)
    (perm : arrivals.Perm frames) :
    runEntry accept none arrivals = (frames.map Except.ok, none) := by
  have seqIds : frames.map (fun frame => frame.inner.seqId.toNat) = List.range frames.length := by
    apply List.ext_getElem?
    intro i
    rw [List.getElem?_map]
    cases position : frames[i]? with
    | none =>
        rw [List.getElem?_eq_none]
        · rfl
        · simpa using List.getElem?_eq_none_iff.mp position
    | some frame =>
        obtain ⟨inRange, -⟩ := List.getElem?_eq_some_iff.mp position
        simp [sequenced.seqId position, List.getElem?_range inRange]
  have arrivedSeqIds := perm.map fun frame => frame.inner.seqId.toNat
  have ofStream : ∀ frame ∈ arrivals, frames[frame.inner.seqId.toNat]? = some frame := by
    intro frame member
    obtain ⟨i, position⟩ := List.mem_iff_getElem?.mp (perm.mem_iff.mp member)
    rw [sequenced.seqId position]
    exact position
  have distinct : (arrivals.map fun frame => frame.inner.seqId.toNat).Nodup := by
    rw [arrivedSeqIds.nodup_iff, seqIds]
    exact List.nodup_range
  rcases (Progress.initial sequenced).run sequenced ofStream distinct (by simp) with
    ⟨stop, -, high, outEq, final⟩
  have complete : stop = frames.length ∧ (runEntry accept none arrivals).2 = none := by
    rcases final.standing with ⟨shorter, missing, -⟩ | complete
    · exfalso
      apply missing
      rw [List.append_nil, List.mem_reverse, arrivedSeqIds.mem_iff, seqIds]
      exact List.mem_range.mpr shorter
    · exact complete
  rw [complete.1, List.take_length, List.drop_zero] at outEq
  exact Prod.ext outEq complete.2

/-- The stream once the frame it waits for has been handed out. -/
def advance (stream : StreamReassembly) (frame : DecodedFrame) : StreamReassembly :=
  { stream with
    nextExpected := stream.nextExpected + 1
    isEnded := stream.isEnded || decide (frame.inner.kind = .end) }

theorem release_of_gap {stream : StreamReassembly}
    (gap : stream.buffer[stream.nextExpected]? = none) : stream.release = ([], stream) := by
  apply exhaust_of_none
  rw [releaseNext, gap]

/-- A frame that is not the next one is held. -/
theorem release_hold_later {stream : StreamReassembly}
    (gap : stream.buffer[stream.nextExpected]? = none) {frame : DecodedFrame}
    (later : frame.inner.seqId ≠ stream.nextExpected) :
    (stream.hold frame).release = ([], stream.hold frame) := by
  apply release_of_gap
  rw [hold_buffer, hold_nextExpected, ExtTreeMap.getElem?_insert, if_neg, gap]
  rwa [Std.compare_eq_iff_eq]

/-- The next frame is handed out at once, and others may follow it. -/
theorem release_hold_next {stream : StreamReassembly}
    (gap : stream.buffer[stream.nextExpected]? = none) {frame : DecodedFrame}
    (isNext : frame.inner.seqId = stream.nextExpected) :
    (stream.hold frame).release =
      (.ok frame :: (stream.advance frame).release.1, (stream.advance frame).release.2) := by
  have found : (stream.hold frame).buffer[(stream.hold frame).nextExpected]? = some frame := by
    rw [hold_buffer, hold_nextExpected, ← isNext, ExtTreeMap.getElem?_insert_self]
  have erased : (stream.buffer.insert stream.nextExpected frame).erase stream.nextExpected =
      stream.buffer := by
    refine ExtTreeMap.ext_getElem? fun {seqId} => ?_
    rw [ExtTreeMap.getElem?_erase, ExtTreeMap.getElem?_insert]
    split
    · rename_i same
      rw [← Std.compare_eq_iff_eq.mp same, gap]
    · rfl
  have runs : releaseNext (stream.hold frame) = some ([.ok frame], stream.advance frame) := by
    rw [releaseNext, found]
    by_cases isEnd : frame.inner.kind = .end
    · simp [hold, advance, isEnd, isNext, erased]
    · simp [hold, advance, isEnd, isNext, erased]
  exact exhaust_of_some releaseNext_decreasing runs

/-- A frame that arrives when it is expected is handed out at once. -/
theorem accept_next {entry : Option StreamReassembly} {frame : DecodedFrame}
    (caughtUp : entry.getD fresh = ⟨frame.inner.seqId, ∅, false, false⟩)
    (notCancel : frame.inner.kind ≠ .cancel) :
    accept entry frame =
      ([.ok frame], if frame.inner.kind = .end then none
        else some ⟨frame.inner.seqId + 1, ∅, false, false⟩) := by
  have running : (entry.getD fresh).isCanceled = false := by rw [caughtUp]
  have gap : (entry.getD fresh).buffer[(entry.getD fresh).nextExpected]? = none := by
    rw [caughtUp]
    exact ExtTreeMap.getElem?_empty
  have isNext : frame.inner.seqId = (entry.getD fresh).nextExpected := by rw [caughtUp]
  have stops : ((entry.getD fresh).advance frame).release =
      ([], (entry.getD fresh).advance frame) := by
    apply release_of_gap
    rw [caughtUp]
    exact ExtTreeMap.getElem?_empty
  rw [accept_eq running notCancel, release_hold_next gap isNext, stops, caughtUp]
  by_cases isEnd : frame.inner.kind = .end
  · simp [advance, isEnd]
  · simp [advance, isEnd]

end StreamReassembly

/-! ## Whole tables -/

namespace FrameMuxStreamDecoder

/-- The reassembly table puts the closed streams of any interleaving and any
order of arrival back in sequence, and ends empty. -/
theorem acceptAll_perm {arrivals : List DecodedFrame} (sent : UInt32 → List DecodedFrame)
    (closed : ∀ streamId, sent streamId = [] ∨ Sequenced (sent streamId))
    (perm : ∀ streamId,
      (arrivals.filter fun frame => frame.inner.streamId = streamId).Perm (sent streamId)) :
    ∃ released : List DecodedFrame, acceptAll ∅ arrivals = (released.map Except.ok, ∅) ∧
      ∀ streamId,
        (released.filter fun frame => frame.inner.streamId = streamId) = sent streamId := by
  have perStream : ∀ streamId, runEntry StreamReassembly.accept none
      (arrivals.filter fun frame => frame.inner.streamId = streamId) =
        ((sent streamId).map Except.ok, none) := by
    intro streamId
    rcases closed streamId with empty | sequenced
    · have noArrivals := perm streamId
      rw [empty] at noArrivals
      rw [empty, List.perm_nil.mp noArrivals]
      rfl
    · exact StreamReassembly.runEntry_accept_perm sequenced (perm streamId)
  have outputs := demux_outputs StreamReassembly.accept
    (fun frame : DecodedFrame => frame.inner.streamId) ∅ arrivals
  have entries := demux_entry StreamReassembly.accept
    (fun frame : DecodedFrame => frame.inner.streamId) ∅ arrivals
  simp only [ExtTreeMap.getElem?_empty, perStream] at outputs entries
  unfold acceptAll
  generalize demux StreamReassembly.accept (fun frame : DecodedFrame => frame.inner.streamId) ∅
    arrivals = run at outputs entries ⊢
  let tag : DecodedFrame → UInt32 × Item := fun frame => (frame.inner.streamId, .ok frame)
  have tagInjective : Function.Injective tag := by
    intro first second equal
    exact Except.ok.inj (Prod.mk.inj equal).2
  have allTagged : run.1 ∈ Set.range (List.map tag) := by
    rw [Set.range_list_map]
    intro output member
    have selected : output ∈ run.1.filter fun tagged => tagged.1 = output.1 :=
      List.mem_filter.mpr ⟨member, by simp⟩
    rw [outputs output.1, List.map_map] at selected
    rcases List.mem_map.mp selected with ⟨frame, sentMember, outputEq⟩
    have ownStream := (List.mem_filter.mp ((perm output.1).mem_iff.mpr sentMember)).2
    refine ⟨frame, ?_⟩
    rw [← outputEq]
    exact Prod.ext (of_decide_eq_true ownStream) rfl
  rcases allTagged with ⟨released, runEq⟩
  refine ⟨released, Prod.ext ?_ (ExtTreeMap.ext_getElem? fun {streamId} => ?_), ?_⟩
  · change run.1.map Prod.snd = released.map Except.ok
    rw [← runEq, List.map_map]
    rfl
  · change run.2[streamId]? = _
    rw [entries streamId, ExtTreeMap.getElem?_empty]
  · intro streamId
    have selected := outputs streamId
    rw [← runEq, List.filter_map] at selected
    have ownTags : (sent streamId).map tag =
        ((sent streamId).map Except.ok).map (Prod.mk streamId) := by
      rw [List.map_map]
      refine List.map_congr_left fun frame member => ?_
      have ownStream := (List.mem_filter.mp ((perm streamId).mem_iff.mpr member)).2
      exact Prod.ext (of_decide_eq_true ownStream) rfl
    rw [← ownTags] at selected
    exact tagInjective.list_map selected

end FrameMuxStreamDecoder

end Muxio.Framing
