import Muxio.Framing.Isolation

/-!
# Lost, repeated and reordered frames

A transport that loses, repeats and reorders frames can only make a decoder hand out
a stream several times over or break off.  What comes out of a stream is always a
number of complete copies of it and then a part of another from its start.  No frame
comes out more often than it has arrived.  A stream whose frames arrive as whole copies,
one after another, comes out as often as it was sent, since nothing is kept of a stream
after its end.
-/

namespace Muxio.Framing

open Std
open Muxio.Transition

namespace StreamReassembly

/-! ## Frames that are released arrived -/

/-- Every frame is held under its own sequence id. -/
def Keyed (stream : StreamReassembly) : Prop :=
  stream.AllHeld fun seqId frame => frame.inner.seqId = seqId

/-- Whether a stream holds this frame. -/
def held (stream : StreamReassembly) (frame : Frame) : Nat :=
  if (stream.buffer[frame.seqId]?).map DecodedFrame.inner = some frame then 1 else 0

/-- How often a frame is among these items. -/
def released (frame : Frame) (items : List Item) : Nat :=
  items.countP fun item => item.toOption.map DecodedFrame.inner = some frame

theorem released_append (frame : Frame) (first second : List Item) :
    released frame (first ++ second) = released frame first + released frame second :=
  List.countP_append

/-- A frame that is released is no longer held. -/
theorem releaseNext_conserves {stream next : StreamReassembly} {out : List Item}
    (keyed : stream.Keyed) (runs : releaseNext stream = some (out, next)) (frame : Frame) :
    released frame out + next.held frame = stream.held frame := by
  rcases releaseNext_cases runs with ⟨first, isHeld, rfl, rfl⟩
  have ownId : first.inner.seqId = stream.nextExpected := keyed _ _ isHeld
  simp only [released, List.countP_singleton, held, ExtTreeMap.getElem?_erase]
  by_cases same : stream.nextExpected = frame.seqId
  · simp [← same, isHeld, Except.toOption]
  · have other : first.inner ≠ frame := fun equal => same (ownId.symm.trans (equal ▸ rfl))
    simp [same, other, Except.toOption]

theorem release_conserves {stream : StreamReassembly} (keyed : stream.Keyed) (frame : Frame) :
    released frame stream.release.1 + stream.release.2.held frame = stream.held frame := by
  unfold release
  induction stream using exhaust_induction releaseNext_decreasing with
  | declined stream declines =>
      rw [exhaust_of_none _ declines]
      exact Nat.zero_add _
  | iterated stream out next runs ih =>
      rw [exhaust_of_some releaseNext_decreasing runs, released_append,
        ← releaseNext_conserves keyed runs frame, ← ih (AllHeld.next keyed runs)]
      exact Nat.add_assoc _ _ _

theorem hold_conserves (stream : StreamReassembly) (arrival : DecodedFrame) (frame : Frame) :
    (stream.hold arrival).held frame ≤
      stream.held frame + if arrival.inner = frame then 1 else 0 := by
  simp only [held, hold_buffer, ExtTreeMap.getElem?_insert]
  by_cases same : arrival.inner = frame
  · subst same
    simp
  · by_cases sameId : arrival.inner.seqId = frame.seqId
    · simp [sameId, same]
    · simp [sameId, same]

/-- What is held under a stream id. -/
def entryHeld (entry : Option StreamReassembly) (frame : Frame) : Nat :=
  (entry.getD fresh).held frame

theorem held_fresh (frame : Frame) : fresh.held frame = 0 := by
  simp [held, fresh]

/-- An arrival brings one frame, which is released, held or dropped. -/
theorem accept_conserves {entry : Option StreamReassembly}
    (keyed : ∀ stream, entry = some stream → stream.Keyed) (arrival : DecodedFrame)
    (frame : Frame) :
    released frame (accept entry arrival).1 + entryHeld (accept entry arrival).2 frame ≤
      entryHeld entry frame + if arrival.inner = frame then 1 else 0 := by
  have keyedStart : (entry.getD fresh).Keyed := by
    cases entry with
    | none => exact fresh_allHeld
    | some stream => exact keyed stream rfl
  have keyedHold : ((entry.getD fresh).hold arrival).Keyed := AllHeld.hold keyedStart rfl
  have held := hold_conserves (entry.getD fresh) arrival frame
  have conserved := release_conserves keyedHold frame
  have passed : ∀ error, released frame [.ok { arrival with decodeError := error }] =
      if arrival.inner = frame then 1 else 0 := by
    intro error
    simp [released, Except.toOption]
  unfold accept entryHeld
  split
  · dsimp only
    rw [passed, Nat.add_comm]
  · split
    · dsimp only
      rw [passed, Option.getD_none, held_fresh]
      omega
    · dsimp only
      split
      · dsimp only
        rw [Option.getD_none, held_fresh]
        omega
      · dsimp only
        rw [Option.getD_some]
        omega

/-- No frame of a stream is released more often than it has arrived. -/
theorem runEntry_conserves {entry : Option StreamReassembly}
    (keyed : ∀ stream, entry = some stream → stream.Keyed) (arrivals : List DecodedFrame)
    (frame : Frame) :
    released frame (runEntry accept entry arrivals).1 ≤
      entryHeld entry frame + arrivals.countP fun arrival => arrival.inner = frame := by
  induction arrivals generalizing entry with
  | nil => exact Nat.zero_le _
  | cons arrival rest ih =>
      have now := accept_conserves keyed arrival frame
      have keyedAfter : ∀ stream, (accept entry arrival).2 = some stream → stream.Keyed :=
        AllHeld.accept keyed fun _ => rfl
      have later := ih keyedAfter
      rw [runEntry_cons, released_append, List.countP_cons]
      simp only [decide_eq_true_eq]
      omega

/-! ## Copies of a stream -/

/-- An entry that has released the first `start` frames of a copy of the stream.  It may
hold frames that it has released before. -/
structure Replaying (frames : List DecodedFrame) (start : Nat) (stream : StreamReassembly) :
    Prop where
  next : stream.nextExpected.toNat = start
  inRange : start ≤ frames.length
  ofStream : stream.AllHeld fun seqId frame => frames[seqId.toNat]? = some frame
  notCanceled : stream.isCanceled = false
  ended : stream.isEnded = true →
    start = frames.length ∨ ∃ seqId : UInt32, seqId.toNat + 1 = frames.length ∧
      stream.buffer[seqId]? ≠ none

theorem Replaying.fresh (frames : List DecodedFrame) : Replaying frames 0 fresh where
  next := rfl
  inRange := Nat.zero_le _
  ofStream := fresh_allHeld
  notCanceled := rfl
  ended := fun isEnded => by contradiction

variable {frames : List DecodedFrame} {start : Nat} {stream : StreamReassembly}

/-- The next frame of the stream is released. -/
theorem Replaying.releaseNext (bounded : frames.length < 2 ^ 32)
    (replaying : Replaying frames start stream) {out : List Item} {next : StreamReassembly}
    (runs : releaseNext stream = some (out, next)) :
    ∃ frame, frames[start]? = some frame ∧ out = [.ok frame] ∧
      Replaying frames (start + 1) next := by
  have ofStream := AllHeld.next replaying.ofStream runs
  rcases releaseNext_cases runs with ⟨frame, isHeld, rfl, rfl⟩
  have isNext : frames[start]? = some frame := replaying.next ▸ replaying.ofStream _ _ isHeld
  rcases List.getElem?_eq_some_iff.mp isNext with ⟨below, -⟩
  refine ⟨frame, isNext, rfl, ?_, below, ofStream, replaying.notCanceled, ?_⟩
  · rw [UInt32.toNat_add, replaying.next]
    exact Nat.mod_eq_of_lt (show start + 1 < 2 ^ 32 by omega)
  · intro isEnded
    rcases replaying.ended isEnded with atEnd | ⟨seqId, isLast, held⟩
    · omega
    · by_cases same : stream.nextExpected = seqId
      · left
        rw [← isLast, ← same, replaying.next]
      · right
        refine ⟨seqId, isLast, ?_⟩
        rw [ExtTreeMap.getElem?_erase]
        simpa [same] using held

/-- A stretch of the stream is released. -/
theorem Replaying.release (bounded : frames.length < 2 ^ 32)
    (replaying : Replaying frames start stream) :
    ∃ stop, start ≤ stop ∧ stream.release.1 = ((frames.take stop).drop start).map Except.ok ∧
      Replaying frames stop stream.release.2 := by
  unfold StreamReassembly.release
  induction stream using exhaust_induction releaseNext_decreasing generalizing start with
  | declined stream declines =>
      refine ⟨start, Nat.le_refl _, ?_, ?_⟩
      · rw [exhaust_of_none _ declines, List.drop_eq_nil_of_le (by simp)]
        rfl
      · rw [exhaust_of_none _ declines]
        exact replaying
  | iterated stream out next runs ih =>
      rcases replaying.releaseNext bounded runs with ⟨frame, isNext, rfl, after⟩
      rcases ih after with ⟨stop, later, outEq, stopped⟩
      rcases List.getElem?_eq_some_iff.mp isNext with ⟨below, frameEq⟩
      have inTake : start < (frames.take stop).length := by
        rw [List.length_take]
        omega
      rw [exhaust_of_some releaseNext_decreasing runs]
      refine ⟨stop, by omega, ?_, stopped⟩
      rw [outEq, List.drop_eq_getElem_cons inTake]
      simp [frameEq]

theorem Replaying.hold (sequenced : Sequenced frames) (replaying : Replaying frames start stream)
    {frame : DecodedFrame} (ofStream : frames[frame.inner.seqId.toNat]? = some frame) :
    Replaying frames start (stream.hold frame) where
  next := (congrArg UInt32.toNat (stream.hold_nextExpected frame)).trans replaying.next
  inRange := replaying.inRange
  ofStream := AllHeld.hold replaying.ofStream ofStream
  notCanceled := (stream.hold_isCanceled frame).trans replaying.notCanceled
  ended := by
    intro isEnded
    rcases (stream.hold_isEnded frame).mp isEnded with before | isEnd
    · rcases replaying.ended before with atEnd | ⟨seqId, isLast, held⟩
      · exact .inl atEnd
      · right
        refine ⟨seqId, isLast, ?_⟩
        rw [hold_buffer, ExtTreeMap.getElem?_insert]
        split
        · simp
        · exact held
    · right
      refine ⟨frame.inner.seqId, (sequenced.isEnd ofStream).mp isEnd, ?_⟩
      rw [hold_buffer, ExtTreeMap.getElem?_insert_self]
      simp

/-- An entry that is no longer needed has released the stream to its end. -/
theorem Replaying.complete (replaying : Replaying frames start stream)
    (isEnded : stream.isEnded = true) (nothing : stream.buffer = ∅) : start = frames.length := by
  rcases replaying.ended isEnded with atEnd | ⟨seqId, -, held⟩
  · exact atEnd
  · rw [nothing] at held
    simp at held

/-- A number of copies of a stream and a part of another. -/
def copies (frames : List DecodedFrame) (count start : Nat) : List DecodedFrame :=
  (List.replicate count frames).flatten ++ frames.take start

theorem copies_take_drop {count start stop : Nat} (later : start ≤ stop) :
    copies frames count start ++ (frames.take stop).drop start = copies frames count stop := by
  have whole := List.take_append_drop start (frames.take stop)
  rw [List.take_take, Nat.min_eq_left later] at whole
  rw [copies, copies, List.append_assoc, whole]

theorem copies_length (count : Nat) :
    copies frames count frames.length = copies frames (count + 1) 0 := by
  simp [copies, List.replicate_succ']

/-- An arrival continues the copy of the stream, and possibly completes it. -/
theorem Replaying.accept (sequenced : Sequenced frames) {entry : Option StreamReassembly}
    (replaying : Replaying frames start (entry.getD StreamReassembly.fresh)) (count : Nat)
    {frame : DecodedFrame} (ofStream : frames[frame.inner.seqId.toNat]? = some frame) :
    ∃ more count' stop, (StreamReassembly.accept entry frame).1 = more.map Except.ok ∧
      copies frames count start ++ more = copies frames count' stop ∧
      Replaying frames stop
        ((StreamReassembly.accept entry frame).2.getD StreamReassembly.fresh) := by
  rcases (replaying.hold sequenced ofStream).release sequenced.bounded with
    ⟨stop, later, outEq, stopped⟩
  rw [accept_eq replaying.notCanceled (sequenced.notCancel ofStream)]
  dsimp only
  by_cases finished : ((entry.getD StreamReassembly.fresh).hold frame).release.2.isEnded = true ∧
      ((entry.getD StreamReassembly.fresh).hold frame).release.2.buffer = ∅
  · rw [if_pos finished]
    have atEnd := stopped.complete finished.1 finished.2
    refine ⟨_, count + 1, 0, outEq, ?_, Replaying.fresh frames⟩
    rw [copies_take_drop later, atEnd, copies_length]
  · rw [if_neg finished]
    exact ⟨_, count, stop, outEq, copies_take_drop later, stopped⟩

/-- Whatever frames of a stream arrive, in whatever order and however often, copies of
the stream come out and a part of another. -/
theorem Replaying.run (sequenced : Sequenced frames) {entry : Option StreamReassembly}
    (replaying : Replaying frames start (entry.getD StreamReassembly.fresh)) (count : Nat)
    {arrivals : List DecodedFrame}
    (ofStream : ∀ frame ∈ arrivals, frames[frame.inner.seqId.toNat]? = some frame) :
    ∃ more count' stop,
      (runEntry StreamReassembly.accept entry arrivals).1 = more.map Except.ok ∧
        copies frames count start ++ more = copies frames count' stop := by
  induction arrivals generalizing entry start count with
  | nil => exact ⟨[], count, start, rfl, List.append_nil _⟩
  | cons frame rest ih =>
      rcases replaying.accept sequenced count (ofStream frame List.mem_cons_self) with
        ⟨first, middle, reached, firstEq, copiesEq, after⟩
      rcases ih after middle (fun other member => ofStream other (List.mem_cons_of_mem _ member))
        with ⟨later, count', stop, laterEq, allEq⟩
      refine ⟨first ++ later, count', stop, ?_, ?_⟩
      · rw [runEntry_cons, firstEq, laterEq, List.map_append]
      · rw [← List.append_assoc, copiesEq, allEq]

/-- Whole copies of a stream, one after another, come out as such and leave no entry
behind. -/
theorem runEntry_accept_copies (sequenced : Sequenced frames) {sent : List (List DecodedFrame)}
    (whole : ∀ copy ∈ sent, copy.Perm frames) :
    runEntry StreamReassembly.accept none sent.flatten =
      ((copies frames sent.length 0).map Except.ok, none) := by
  induction sent with
  | nil => rfl
  | cons copy rest ih =>
      have later := ih fun other member => whole other (List.mem_cons_of_mem _ member)
      rw [List.flatten_cons, runEntry_append,
        runEntry_accept_perm sequenced (whole copy List.mem_cons_self)]
      dsimp only
      rw [later, ← List.map_append]
      simp [copies, List.replicate_succ]

end StreamReassembly

/-! ## Whole decoders -/

/-- The items of a stream, and the entry it ends with, come from its own frames. -/
theorem FrameMuxStreamDecoder.readChunks_stream {arrivals : List Frame} (fits : Fits arrivals)
    {chunks : List (List UInt8)} (cut : chunks.flatten = frameBytes arrivals) (streamId : UInt32) :
    let read := new.readChunks chunks
    let run := runEntry StreamReassembly.accept none ((arrivals.map Frame.decoded).filter
      fun frame => frame.inner.streamId = streamId)
    (read.1.filter fun item => itemStreamId item = some streamId) = run.1 ∧
      read.2.streams[streamId]? = run.2 := by
  intro read run
  have settled : ∀ streamId : UInt32,
      StreamReassembly.EntrySettled streamId (∅ : Streams)[streamId]? := new_settled.entries
  have ofStream := acceptAll_items settled (arrivals.map Frame.decoded) streamId
  have entry := acceptAll_entry ∅ (arrivals.map Frame.decoded) streamId
  rw [ExtTreeMap.getElem?_empty] at ofStream entry
  have readEq : read = _ := new_readChunks_frameBytes fits cut
  rw [readEq]
  exact ⟨ofStream, entry⟩

/-- Every item belongs to a stream of which a frame has arrived. -/
theorem FrameMuxStreamDecoder.readChunks_known {arrivals : List Frame} (fits : Fits arrivals)
    {chunks : List (List UInt8)} (cut : chunks.flatten = frameBytes arrivals) :
    ∀ item ∈ (new.readChunks chunks).1,
      ∃ frame ∈ arrivals, itemStreamId item = some frame.streamId := by
  have settled : ∀ streamId : UInt32,
      StreamReassembly.EntrySettled streamId (∅ : Streams)[streamId]? := new_settled.entries
  intro item member
  have accepted := member
  rw [new_readChunks_frameBytes fits cut] at accepted
  rcases List.mem_map.mp accepted with ⟨⟨streamId, _⟩, tagged, rfl⟩
  have isTag := demux_tagged settled (arrivals.map Frame.decoded) _ tagged
  have ofStream := (readChunks_stream fits cut streamId).1
  by_cases arrived : ∃ frame ∈ arrivals, frame.streamId = streamId
  · rcases arrived with ⟨frame, frameMem, rfl⟩
    exact ⟨frame, frameMem, isTag⟩
  · have nothing : ((arrivals.map Frame.decoded).filter fun frame =>
        frame.inner.streamId = streamId) = [] := by
      rw [List.filter_eq_nil_iff]
      intro decoded decodedMem onStream
      rcases List.mem_map.mp decodedMem with ⟨frame, frameMem, rfl⟩
      rw [Frame.decoded_streamId] at onStream
      exact arrived ⟨frame, frameMem, of_decide_eq_true onStream⟩
    rw [nothing, runEntry_nil, List.filter_eq_nil_iff] at ofStream
    exact absurd (decide_eq_true isTag) (ofStream _ member)

/-- No frame comes out more often than it went in. -/
theorem FrameMuxStreamDecoder.released_le {arrivals : List Frame} (fits : Fits arrivals)
    {chunks : List (List UInt8)} (cut : chunks.flatten = frameBytes arrivals) (frame : Frame) :
    StreamReassembly.released frame (new.readChunks chunks).1 ≤
      arrivals.countP fun arrival => arrival.decoded.inner = frame := by
  have selected : ∀ items : List Item, StreamReassembly.released frame items =
      StreamReassembly.released frame
        (items.filter fun item => itemStreamId item = some frame.streamId) := by
    intro items
    rw [StreamReassembly.released, StreamReassembly.released, List.countP_filter]
    apply List.countP_congr
    intro item _
    cases item with
    | error error => simp [Except.toOption]
    | ok passed =>
        simp only [Except.toOption, Option.map_some, Option.some.injEq, decide_eq_true_eq,
          itemStreamId, Bool.and_eq_true]
        constructor
        · rintro rfl
          exact ⟨rfl, rfl⟩
        · exact And.left
  have conserved := @StreamReassembly.runEntry_conserves none
    (fun _ isEntry => by contradiction)
    ((arrivals.map Frame.decoded).filter fun arrival =>
      arrival.inner.streamId = frame.streamId) frame
  rw [selected, (readChunks_stream fits cut _).1]
  refine conserved.trans ?_
  rw [StreamReassembly.entryHeld, Option.getD_none, StreamReassembly.held_fresh, Nat.zero_add,
    List.countP_filter, List.countP_map]
  apply List.countP_mono_left
  intro arrival _
  simp only [Function.comp_apply, Bool.and_eq_true]
  exact And.left

namespace StreamScript

section Replayed

variable {scripts : List StreamScript} (distinct : (scripts.map StreamScript.streamId).Nodup)
  {arrivals : List Frame}
  (ofScripts : ∀ frame ∈ arrivals, ∃ script ∈ scripts, frame ∈ script.frames)

include ofScripts

theorem replayed_fits : Fits arrivals := by
  intro frame member
  rcases ofScripts frame member with ⟨script, -, ofScript⟩
  rcases script.frames_eq with ⟨-, -, -, -, -, -, -, fits⟩
  exact fits frame ofScript

theorem replayed_decoded : ∀ frame ∈ arrivals, frame.decoded = ⟨frame, none⟩ := by
  intro frame member
  rcases ofScripts frame member with ⟨script, -, ofScript⟩
  exact Frame.decoded_eq (StreamScript.streamId_of_mem ofScript).2

/-- What arrives under a stream id, as the codec hands it to reassembly. -/
theorem replayed_stream (streamId : UInt32) :
    ((arrivals.map Frame.decoded).filter fun frame => frame.inner.streamId = streamId) =
      (arrivals.filter fun frame => frame.streamId = streamId).map fun frame => ⟨frame, none⟩ := by
  rw [List.filter_map]
  simp only [Function.comp_def, Frame.decoded_streamId]
  apply List.map_congr_left
  intro frame member
  exact replayed_decoded ofScripts frame (List.mem_of_mem_filter member)

include distinct

/-- It is at its place in the script. -/
theorem replayed_of_script {script : StreamScript} (member : script ∈ scripts) :
    ∀ arrival ∈ (arrivals.filter fun frame => frame.streamId = script.streamId).map
        fun frame => (⟨frame, none⟩ : DecodedFrame),
      (script.frames.map fun frame => (⟨frame, none⟩ : DecodedFrame))[
        arrival.inner.seqId.toNat]? = some arrival := by
  intro arrival selected
  rcases List.mem_map.mp selected with ⟨frame, filtered, rfl⟩
  rcases List.mem_filter.mp filtered with ⟨frameMem, onStream⟩
  rcases ofScripts frame frameMem with ⟨other, otherMem, ofOther⟩
  have sameId : other.streamId = script.streamId :=
    (StreamScript.streamId_of_mem ofOther).1.symm.trans (of_decide_eq_true onStream)
  obtain rfl := List.inj_on_of_nodup_map distinct otherMem member sameId
  rcases List.mem_iff_getElem?.mp (List.mem_map_of_mem (f := fun frame =>
    (⟨frame, none⟩ : DecodedFrame)) ofOther) with ⟨position, isFrame⟩
  rw [other.sequenced.seqId isFrame]
  exact isFrame

end Replayed

end StreamScript

/-- Frames of any streams may be lost, repeated and reordered, and reads may cut them
anywhere.  Of every stream there come out complete copies, and then a part of another
copy from its start; no frame comes out more often than it has arrived, and nothing else
comes out.  A stream whose frames arrive as whole copies, one after another, comes out
exactly as often, and nothing of it is left in the decoder. -/
theorem replayed_streams_come_out_in_copies (scripts : List StreamScript)
    (distinct : (scripts.map StreamScript.streamId).Nodup) (arrivals : List Frame)
    (ofScripts : ∀ frame ∈ arrivals, ∃ script ∈ scripts, frame ∈ script.frames)
    (chunks : List (List UInt8)) (cut : chunks.flatten = frameBytes arrivals) :
    let read := FrameMuxStreamDecoder.new.readChunks chunks
    (∀ script ∈ scripts,
      let items := read.1.filter fun item => itemStreamId item = some script.streamId
      (∃ count start, items = ((List.replicate count script.frames).flatten ++
          script.frames.take start).map fun frame => .ok ⟨frame, none⟩) ∧
        ∀ sent : List (List Frame), (∀ copy ∈ sent, copy.Perm script.frames) →
          (arrivals.filter fun frame => frame.streamId = script.streamId) = sent.flatten →
          items = ((List.replicate sent.length script.frames).flatten.map
              fun frame => .ok ⟨frame, none⟩) ∧
            read.2.streams[script.streamId]? = none) ∧
      (∀ frame, read.1.countP (fun item => item.toOption.map DecodedFrame.inner = some frame) ≤
        arrivals.count frame) ∧
      (∀ item ∈ read.1, ∃ script ∈ scripts, itemStreamId item = some script.streamId) ∧
      read.2.buffer = [] := by
  intro read
  have fits := StreamScript.replayed_fits ofScripts
  refine ⟨?_, ?_, ?_, ?_⟩
  · intro script member items
    have ofStream := FrameMuxStreamDecoder.readChunks_stream fits cut script.streamId
    dsimp only at ofStream
    rw [StreamScript.replayed_stream ofScripts] at ofStream
    constructor
    · have replaying := StreamReassembly.Replaying.fresh
        (script.frames.map fun frame => ⟨frame, none⟩)
      rcases @StreamReassembly.Replaying.run _ _ script.sequenced none replaying 0 _
        (StreamScript.replayed_of_script distinct ofScripts member) with
        ⟨more, count, start, itemsEq, copiesEq⟩
      refine ⟨count, start, ofStream.1.trans (itemsEq.trans ?_)⟩
      have moreEq := List.nil_append more ▸ copiesEq
      rw [moreEq, StreamReassembly.copies]
      simp [Function.comp_def]
    · intro sent whole arrived
      have copied := @StreamReassembly.runEntry_accept_copies _ script.sequenced
        (sent.map (List.map fun frame => ⟨frame, none⟩)) (by
          intro copy copyMem
          rcases List.mem_map.mp copyMem with ⟨frames, framesMem, rfl⟩
          exact (whole frames framesMem).map _)
      rw [← List.map_flatten, ← arrived] at copied
      rw [copied] at ofStream
      refine ⟨ofStream.1.trans ?_, ofStream.2⟩
      simp [StreamReassembly.copies, Function.comp_def]
  · intro frame
    refine (FrameMuxStreamDecoder.released_le fits cut frame).trans ?_
    rw [List.count]
    apply List.countP_mono_left
    intro arrival member
    rw [StreamScript.replayed_decoded ofScripts arrival member]
    simp
  · intro item member
    rcases FrameMuxStreamDecoder.readChunks_known fits cut item member with
      ⟨frame, frameMem, onStream⟩
    rcases ofScripts frame frameMem with ⟨script, scriptMem, ofScript⟩
    exact ⟨script, scriptMem, (StreamScript.streamId_of_mem ofScript).1 ▸ onStream⟩
  · have readEq : read = _ := FrameMuxStreamDecoder.new_readChunks_frameBytes fits cut
    rw [readEq]

/-- Three frames of which the second is lost, the third repeated and the first repeated
after its release; and a stream that arrives twice as a whole. -/
theorem replayed_streams_come_out_in_copies_of_two :
    let broken : StreamScript :=
      ⟨7, 2, [.writeBytes [1, 2, 3, 4, 5]], by decide, by decide, by decide⟩
    let repeated : StreamScript := ⟨9, 4, [.writeBytes [6]], by decide, by decide, by decide⟩
    let frames := broken.frames
    let arrivals := frames.drop 2 ++ repeated.frames ++ frames.take 1 ++ repeated.frames.reverse ++
      frames.take 1 ++ frames.drop 2
    let read := FrameMuxStreamDecoder.new.readChunks [frameBytes arrivals]
    (∃ count start, (read.1.filter fun item => itemStreamId item = some 7) =
      ((List.replicate count frames).flatten ++ frames.take start).map
        fun frame => .ok ⟨frame, none⟩) ∧
      (read.1.filter fun item => itemStreamId item = some 9) =
        ((repeated.frames ++ repeated.frames).map fun frame => .ok ⟨frame, none⟩) ∧
      read.2.streams[(9 : UInt32)]? = none := by
  intro broken repeated frames arrivals read
  have ofScripts : ∀ frame ∈ arrivals, ∃ script ∈ [broken, repeated], frame ∈ script.frames := by
    decide
  have replayed := (replayed_streams_come_out_in_copies [broken, repeated] (by decide) arrivals
    ofScripts [frameBytes arrivals] (List.append_nil _)).1
  refine ⟨(replayed broken List.mem_cons_self).1, ?_⟩
  have whole : ∀ copy ∈ [repeated.frames, repeated.frames.reverse], copy.Perm repeated.frames := by
    intro copy member
    rcases List.mem_pair.mp member with rfl | rfl
    · exact .refl _
    · exact List.reverse_perm _
  have copied := (replayed repeated (List.mem_cons_of_mem _ List.mem_cons_self)).2
    [repeated.frames, repeated.frames.reverse] whole (by decide)
  exact copied

end Muxio.Framing
