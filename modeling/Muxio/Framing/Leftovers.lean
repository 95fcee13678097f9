import Muxio.Framing.Reassembly

/-!
# What a frame decoder keeps between reads

Between reads a frame decoder holds an incomplete frame and, per stream, the frames
that wait for an earlier one.  Streams that are as new make no difference to what
later reads yield.
-/

namespace Muxio.Framing

open Std
open Muxio.Transition

namespace StreamReassembly

/-- A stream that goes on and holds frames of its own. -/
structure Running (streamId : UInt32) (stream : StreamReassembly) : Prop where
  notCanceled : stream.isCanceled = false
  owned : ∀ (seqId : UInt32) frame, stream.buffer[seqId]? = some frame →
    frame.inner.streamId = streamId

/-- What is known of a stored stream between reads: no frame can be released. -/
structure Settled (streamId : UInt32) (stream : StreamReassembly) : Prop
    extends Running streamId stream where
  gap : stream.buffer[stream.nextExpected]? = none
  unfinished : stream.isEnded = true → stream.buffer ≠ ∅

theorem releaseNext_eq_none {stream : StreamReassembly} (stops : releaseNext stream = none) :
    stream.buffer[stream.nextExpected]? = none := by
  unfold releaseNext at stops
  split at stops
  · assumption
  · contradiction

/-- Releasing frames only takes frames out. -/
theorem releaseNext_cases {stream next : StreamReassembly} {out : List Item}
    (runs : releaseNext stream = some (out, next)) :
    ∃ frame, stream.buffer[stream.nextExpected]? = some frame ∧ out = [.ok frame] ∧
      next = { stream with
        buffer := stream.buffer.erase stream.nextExpected
        nextExpected := stream.nextExpected + 1 } := by
  unfold releaseNext at runs
  split at runs
  · contradiction
  · rename_i frame found
    obtain ⟨rfl, rfl⟩ := Prod.mk.inj (Option.some.inj runs)
    exact ⟨frame, found, rfl, rfl⟩

/-! ### Frames that wait -/

/-- Every frame that waits has a property, which may depend on where it is filed. -/
def AllHeld (holds : UInt32 → DecodedFrame → Prop) (stream : StreamReassembly) : Prop :=
  ∀ (seqId : UInt32) frame, stream.buffer[seqId]? = some frame → holds seqId frame

section AllHeld

variable {holds : UInt32 → DecodedFrame → Prop} {stream : StreamReassembly}

theorem fresh_allHeld : fresh.AllHeld holds := by
  intro seqId frame found
  exact absurd found empty_entry_ne

theorem AllHeld.hold (all : stream.AllHeld holds) {frame : DecodedFrame}
    (filed : holds frame.inner.seqId frame) : (stream.hold frame).AllHeld holds := by
  intro seqId other found
  rw [hold_buffer, ExtTreeMap.getElem?_insert] at found
  split at found
  · rename_i same
    rw [← Option.some.inj found, ← LawfulEqCmp.eq_of_compare same]
    exact filed
  · exact all seqId other found

theorem AllHeld.next (all : stream.AllHeld holds) {out : List Item} {after : StreamReassembly}
    (runs : releaseNext stream = some (out, after)) : after.AllHeld holds := by
  obtain ⟨released, -, -, rfl⟩ := releaseNext_cases runs
  intro seqId frame found
  apply all seqId frame
  rw [ExtTreeMap.getElem?_erase] at found
  split at found
  · contradiction
  · exact found

theorem AllHeld.release (all : stream.AllHeld holds) : stream.release.2.AllHeld holds :=
  exhaust_invariant (fun _ _ _ runs before => before.next runs) _ all

/-- A frame that is taken in keeps the property of what waits, if it has it itself. -/
theorem AllHeld.accept {entry : Option StreamReassembly}
    (all : ∀ stream, entry = some stream → stream.AllHeld holds) {frame : DecodedFrame}
    (filed : frame.inner.kind ≠ .cancel → holds frame.inner.seqId frame) :
    ∀ stream, (StreamReassembly.accept entry frame).2 = some stream → stream.AllHeld holds := by
  intro stream stored
  unfold StreamReassembly.accept at stored
  split at stored
  · exact all stream stored
  · split at stored
    · contradiction
    · rename_i notCancel
      have known : (entry.getD fresh).AllHeld holds := by
        cases entry with
        | none => exact fresh_allHeld
        | some known => exact all known rfl
      dsimp only at stored
      split at stored
      · contradiction
      · rw [← Option.some.inj stored]
        exact (known.hold (filed notCancel)).release

end AllHeld

/-! ### Streams that go on -/

theorem fresh_running (streamId : UInt32) : fresh.Running streamId where
  notCanceled := rfl
  owned := fresh_allHeld

theorem Running.hold {streamId : UInt32} {stream : StreamReassembly}
    (running : stream.Running streamId) {frame : DecodedFrame}
    (onStream : frame.inner.streamId = streamId) : (stream.hold frame).Running streamId where
  notCanceled := (stream.hold_isCanceled frame).trans running.notCanceled
  owned := AllHeld.hold running.owned onStream

theorem Running.next {streamId : UInt32} {stream next : StreamReassembly}
    {out : List Item} (running : stream.Running streamId)
    (runs : releaseNext stream = some (out, next)) : next.Running streamId where
  notCanceled := by
    obtain ⟨released, -, -, rfl⟩ := releaseNext_cases runs
    exact running.notCanceled
  owned := AllHeld.next running.owned runs

theorem Running.release {streamId : UInt32} {stream : StreamReassembly}
    (running : stream.Running streamId) : stream.release.2.Running streamId :=
  exhaust_invariant (fun _ _ _ runs before => before.next runs) _ running

/-- The entry of a stream between reads. -/
def EntrySettled (streamId : UInt32) (entry : Option StreamReassembly) : Prop :=
  ∀ stream, entry = some stream → stream.Settled streamId

theorem EntrySettled.running {streamId : UInt32} {entry : Option StreamReassembly}
    (settled : EntrySettled streamId entry) : (entry.getD fresh).Running streamId := by
  cases entry with
  | none => exact fresh_running streamId
  | some stream => exact (settled stream rfl).toRunning

/-- A cancel frame is passed on with a mark and removes the entry. -/
theorem EntrySettled.accept_cancel {streamId : UInt32} {entry : Option StreamReassembly}
    (settled : EntrySettled streamId entry) {frame : DecodedFrame}
    (isCancel : frame.inner.kind = .cancel) :
    StreamReassembly.accept entry frame =
      ([.ok { frame with decodeError := some .readAfterCancel }], none) := by
  unfold StreamReassembly.accept
  rw [if_neg, if_pos isCancel]
  cases entry with
  | none => exact Bool.false_ne_true
  | some known => exact Bool.eq_false_iff.mp (settled known rfl).notCanceled

theorem EntrySettled.accept {streamId : UInt32} {entry : Option StreamReassembly}
    (settled : EntrySettled streamId entry) {frame : DecodedFrame}
    (onStream : frame.inner.streamId = streamId) :
    EntrySettled streamId (StreamReassembly.accept entry frame).2 := by
  intro stream stored
  have running := settled.running
  by_cases isCancel : frame.inner.kind = .cancel
  · rw [settled.accept_cancel isCancel] at stored
    contradiction
  · rw [accept_eq running.notCanceled isCancel] at stored
    dsimp only at stored
    split at stored
    · contradiction
    · rename_i goesOn
      rw [← Option.some.inj stored]
      refine ⟨(running.hold onStream).release,
        releaseNext_eq_none (exhaust_declines releaseNext_decreasing _), ?_⟩
      exact fun ended empty => goesOn ⟨ended, empty⟩

/-- Frames are passed on, never errors of the codec. -/
theorem accept_items (entry : Option StreamReassembly) (frame : DecodedFrame) :
    ∀ item ∈ (accept entry frame).1, ∃ passed, item = .ok passed := by
  have single : ∀ only : DecodedFrame, ∀ item ∈ [(.ok only : Item)], ∃ passed, item = .ok passed :=
    fun only item member => ⟨only, List.mem_singleton.mp member⟩
  have released : ∀ item ∈ ((entry.getD fresh).hold frame).release.1,
      ∃ passed, item = .ok passed := by
    refine exhaust_outputs ?_ _ _
    intro stream out next runs
    obtain ⟨only, -, rfl, -⟩ := releaseNext_cases runs
    exact single only
  unfold accept
  split
  · exact single _
  · split
    · exact single _
    · dsimp only
      split
      · exact released
      · exact released

end StreamReassembly

namespace FrameMuxStreamDecoder

/-- No stored stream has a frame to release. -/
def EntriesSettled (decoder : FrameMuxStreamDecoder) : Prop :=
  ∀ streamId, StreamReassembly.EntrySettled streamId decoder.streams[streamId]?

/-- A frame decoder between reads. -/
structure Settled (decoder : FrameMuxStreamDecoder) : Prop where
  waiting : Incomplete decoder.buffer
  entries : decoder.EntriesSettled

theorem new_settled : Settled new where
  waiting := incomplete_nil
  entries := by
    intro streamId stream stored
    exact absurd stored empty_entry_ne

theorem acceptFrame_settled {streams : Streams}
    (settled : ∀ streamId, StreamReassembly.EntrySettled streamId streams[streamId]?)
    (frame : DecodedFrame) (streamId : UInt32) :
    StreamReassembly.EntrySettled streamId (acceptFrame streams frame).2[streamId]? := by
  rw [acceptFrame, getElem?_setEntry]
  split
  · rename_i same
    rw [same]
    exact (settled streamId).accept same
  · exact settled streamId

theorem Settled.readBytes {decoder : FrameMuxStreamDecoder} (settled : decoder.Settled)
    (data : List UInt8) : (decoder.readBytes data).2.Settled where
  waiting := readBytes_incomplete decoder data
  entries := by
    refine readBytes_streams
      (fun streams => ∀ streamId, StreamReassembly.EntrySettled streamId streams[streamId]?)
      ?_ settled.entries data
    intro streams frame before
    exact acceptFrame_settled before frame

/-! ## The representation invariant -/

/-- What is known of every frame that waits in the entry of a stream. -/
def Filed (streamId seqId : UInt32) (frame : DecodedFrame) : Prop :=
  frame.inner.seqId = seqId ∧ frame.inner.streamId = streamId ∧ frame.inner.kind ≠ .cancel

/-- Frames wait under their own stream id and sequence id. -/
def EntriesFiled (decoder : FrameMuxStreamDecoder) : Prop :=
  ∀ (streamId : UInt32) stream, decoder.streams[streamId]? = some stream →
    stream.AllHeld (Filed streamId)

theorem acceptFrame_filed {streams : Streams}
    (filed : ∀ (streamId : UInt32) stream, streams[streamId]? = some stream →
      stream.AllHeld (Filed streamId)) (frame : DecodedFrame) :
    ∀ (streamId : UInt32) stream, (acceptFrame streams frame).2[streamId]? = some stream →
      stream.AllHeld (Filed streamId) := by
  intro streamId stream stored
  rw [acceptFrame, getElem?_setEntry] at stored
  split at stored
  · rename_i same
    rw [same] at stored
    exact StreamReassembly.AllHeld.accept (filed streamId)
      (fun notCancel => ⟨rfl, same, notCancel⟩) stream stored
  · exact filed streamId stream stored

theorem EntriesFiled.readBytes {decoder : FrameMuxStreamDecoder} (filed : decoder.EntriesFiled)
    (data : List UInt8) : (decoder.readBytes data).2.EntriesFiled := by
  refine readBytes_streams (fun streams => ∀ (streamId : UInt32) stream,
    streams[streamId]? = some stream → stream.AllHeld (Filed streamId)) ?_ filed data
  intro streams frame before
  exact acceptFrame_filed before frame

theorem new_filed : EntriesFiled new := by
  intro streamId stream stored
  exact absurd stored empty_entry_ne

/-- Whatever bytes a decoder has read, its buffer holds no complete frame, and no stored stream
is canceled, has a frame to release, is done, or holds a frame under another stream id or
sequence id than its own, or a cancel frame. -/
theorem representation_invariant (chunks : List (List UInt8)) :
    let decoder : FrameMuxStreamDecoder := (new.readChunks chunks).2
    (decoder.buffer.length < frameLengthFieldSize ∨
        decoder.buffer.length < frameHeaderSize + FrameCodec.lengthField decoder.buffer) ∧
      ∀ (streamId : UInt32) (stream : StreamReassembly),
        decoder.streams[streamId]? = some stream →
        stream.isCanceled = false ∧ stream.nextExpected ∉ stream.buffer ∧
          (∀ (seqId : UInt32) (frame : DecodedFrame), stream.buffer[seqId]? = some frame →
            frame.inner.seqId = seqId ∧ frame.inner.streamId = streamId ∧
              frame.inner.kind ≠ .cancel) ∧
          ¬ (stream.isEnded = true ∧ stream.buffer = ∅) := by
  intro decoder
  have readAtOnce : decoder = (new.readBytes chunks.flatten).2 :=
    congrArg Prod.snd (readChunks_eq_readBytes incomplete_nil chunks)
  have settled : decoder.Settled := readAtOnce ▸ new_settled.readBytes chunks.flatten
  have filed : decoder.EntriesFiled := readAtOnce ▸ new_filed.readBytes chunks.flatten
  refine ⟨settled.waiting, ?_⟩
  intro streamId stream stored
  have known := settled.entries streamId stream stored
  refine ⟨known.notCanceled, ?_, filed streamId stream stored, ?_⟩
  · intro present
    obtain ⟨frame, found⟩ := Option.isSome_iff_exists.mp (ExtTreeMap.isSome_getElem?_iff_mem.mpr
      present)
    rw [known.gap] at found
    contradiction
  · rintro ⟨ended, empty⟩
    exact known.unfinished ended empty

/-! ## Streams that are as new -/

/-- Frame decoders that differ at most in which streams they store as new. -/
structure Alike (first second : FrameMuxStreamDecoder) : Prop where
  buffer : first.buffer = second.buffer
  streams : ∀ streamId : UInt32, first.streams[streamId]?.getD StreamReassembly.fresh =
    second.streams[streamId]?.getD StreamReassembly.fresh

end FrameMuxStreamDecoder

theorem StreamReassembly.accept_alike {first second : Option StreamReassembly}
    (alike : first.getD fresh = second.getD fresh) (frame : DecodedFrame) :
    (accept first frame).1 = (accept second frame).1 ∧
      (accept first frame).2.getD fresh = (accept second frame).2.getD fresh := by
  have canceled : ∀ entry : Option StreamReassembly,
      (entry.map isCanceled).getD false = (entry.getD fresh).isCanceled := fun entry => by
    cases entry <;> rfl
  unfold accept
  rw [canceled, canceled, alike]
  split
  · exact ⟨rfl, alike⟩
  · split
    · exact ⟨rfl, rfl⟩
    · exact ⟨rfl, rfl⟩

namespace FrameMuxStreamDecoder

theorem acceptFrame_alike {first second : Streams}
    (alike : ∀ streamId : UInt32, first[streamId]?.getD StreamReassembly.fresh =
      second[streamId]?.getD StreamReassembly.fresh) (frame : DecodedFrame) :
    (acceptFrame first frame).1 = (acceptFrame second frame).1 ∧
      ∀ streamId : UInt32, (acceptFrame first frame).2[streamId]?.getD StreamReassembly.fresh =
        (acceptFrame second frame).2[streamId]?.getD StreamReassembly.fresh := by
  obtain ⟨items, entry⟩ := StreamReassembly.accept_alike (alike frame.inner.streamId) frame
  refine ⟨items, fun streamId => ?_⟩
  rw [acceptFrame, acceptFrame, getElem?_setEntry, getElem?_setEntry]
  split
  · exact entry
  · exact alike streamId

theorem Alike.readBytes {first second : FrameMuxStreamDecoder} (alike : first.Alike second)
    (data : List UInt8) :
    (first.readBytes data).1 = (second.readBytes data).1 ∧
      (first.readBytes data).2.Alike (second.readBytes data).2 := by
  apply exhaust_related
  · exact fun first second alike => congrArg List.length alike.buffer
  · intro first second alike stops
    rw [readFrame_eq_none_iff] at stops ⊢
    rw [← alike.buffer]
    exact stops
  · intro first second out firstNext alike runs
    obtain ⟨complete, -⟩ := readFrame_cases runs
    rw [readFrame_complete complete] at runs
    rw [alike.buffer] at complete runs
    rw [readFrame_complete complete]
    split at runs
    · rename_i frame decoded
      obtain ⟨rfl, rfl⟩ := Prod.mk.inj (Option.some.inj runs)
      obtain ⟨sameItems, sameStreams⟩ := acceptFrame_alike alike.streams frame
      rw [sameItems]
      exact ⟨_, rfl, rfl, sameStreams⟩
    · rename_i error failed
      obtain ⟨rfl, rfl⟩ := Prod.mk.inj (Option.some.inj runs)
      exact ⟨_, rfl, rfl, alike.streams⟩
  · exact ⟨congrArg (· ++ data) alike.buffer, alike.streams⟩

/-! ## An unfinished frame -/

/-- The frame at the front of a complete buffer is decoded unless its kind is unknown. -/
theorem decode_front {buf : List UInt8} (complete : ¬ Incomplete buf) :
    match FrameKind.tryFrom (buf.getD frameKindOffset 0) with
    | none => FrameCodec.decode usizeBits (buf.take (frameLength buf)) = .error .corruptFrame
    | some _ => ∃ frame, FrameCodec.decode usizeBits (buf.take (frameLength buf)) = .ok frame := by
  have length : (buf.take (frameLength buf)).length = frameLength buf :=
    List.length_take_of_le (frameLength_le complete)
  have field : FrameCodec.lengthField (buf.take (frameLength buf)) =
      FrameCodec.lengthField buf := by
    have longer : frameLengthFieldSize ≤ frameLength buf := by
      simp only [frameLength, frameHeaderSize, frameLengthFieldSize]
      omega
    rw [FrameCodec.lengthField, List.take_take, Nat.min_eq_left longer, FrameCodec.lengthField]
  have kindByte : (buf.take (frameLength buf)).getD frameKindOffset 0 =
      buf.getD frameKindOffset 0 := by
    have inside : frameKindOffset < frameLength buf := by
      simp only [frameLength, frameHeaderSize, frameKindOffset]
      omega
    rw [List.getD_eq_getElem?_getD, List.getElem?_take_of_lt inside, List.getD_eq_getElem?_getD]
  have noWrap := FrameCodec.header_lt_usize
    (FrameCodec.lengthField_lt (buf.take (frameLength buf)))
  have whole : frameHeaderSize + FrameCodec.lengthField (buf.take (frameLength buf)) ≤
      (buf.take (frameLength buf)).length := by
    rw [field, length, frameLength]
  rw [← kindByte]
  cases known : FrameKind.tryFrom ((buf.take (frameLength buf)).getD frameKindOffset 0) with
  | none => exact FrameCodec.decode_unknown noWrap whole known
  | some kind => exact ⟨_, FrameCodec.decode_known noWrap whole known⟩

/-- Bytes that promise the longest frame there is. -/
def filler (count : Nat) : List UInt8 := List.replicate count 255

theorem incomplete_filler {count : Nat} (short : count < frameHeaderSize + (2 ^ 32 - 1)) :
    Incomplete (filler count) := by
  by_cases few : count < frameLengthFieldSize
  · left
    rwa [filler, List.length_replicate]
  · right
    have field : FrameCodec.lengthField (filler count) = 2 ^ 32 - 1 := by
      rw [FrameCodec.lengthField, filler, List.take_replicate,
        Nat.min_eq_left (Nat.le_of_not_lt few)]
      decide
    rwa [field, filler, List.length_replicate]

theorem lengthField_filled (buf : List UInt8) {count : Nat}
    (enough : frameLengthFieldSize ≤ buf.length + count) :
    FrameCodec.lengthField (buf ++ filler count) =
      FrameCodec.lengthField
        (buf.take frameLengthFieldSize ++ filler (frameLengthFieldSize - buf.length)) := by
  have padded : frameLengthFieldSize - buf.length ≤ count := by omega
  have front : (buf.take frameLengthFieldSize ++
      filler (frameLengthFieldSize - buf.length)).length = frameLengthFieldSize := by
    rw [List.length_append, List.length_take, filler, List.length_replicate]
    omega
  rw [FrameCodec.lengthField, FrameCodec.lengthField, List.take_of_length_le front.le,
    List.take_append, filler, List.take_replicate, Nat.min_eq_left padded, filler]

/-- Filler completes any unfinished frame, and nothing beyond it. -/
theorem exists_filled {buf : List UInt8} (waiting : Incomplete buf) :
    ∃ count, ¬ Incomplete (buf ++ filler count) ∧
      frameLength (buf ++ filler count) = (buf ++ filler count).length := by
  have lengths : ∀ count, (buf ++ filler count).length = buf.length + count := by
    intro count
    rw [List.length_append, filler, List.length_replicate]
  have unfinished : buf.length < frameLength (buf ++ filler frameLengthFieldSize) := by
    rcases waiting with short | partialFrame
    · simp only [frameLength, frameHeaderSize, frameLengthFieldSize] at short ⊢
      omega
    · by_cases short : buf.length < frameLengthFieldSize
      · simp only [frameLength, frameHeaderSize, frameLengthFieldSize] at short ⊢
        omega
      · rwa [frameLength, FrameCodec.lengthField_append buf _ (Nat.le_of_not_lt short)]
  generalize promised : frameLength (buf ++ filler frameLengthFieldSize) = total at unfinished
  have completed : frameLength (buf ++ filler (total - buf.length)) = total := by
    have enough : frameLengthFieldSize ≤ buf.length + (total - buf.length) := by
      rw [← promised]
      simp only [frameLength, frameHeaderSize, frameLengthFieldSize]
      omega
    rw [frameLength, lengthField_filled buf enough,
      ← lengthField_filled buf (Nat.le_add_left frameLengthFieldSize buf.length)]
    exact promised
  have whole : (buf ++ filler (total - buf.length)).length = total := by
    rw [lengths]
    omega
  refine ⟨total - buf.length, ?_, completed.trans whole.symm⟩
  rw [frameLength] at completed
  rw [Incomplete, whole, completed, not_or, ← promised]
  simp only [frameLength, frameHeaderSize, frameLengthFieldSize]
  omega

/-- A read that completes one frame and leaves no other. -/
theorem readBytes_cut {decoder : FrameMuxStreamDecoder} {data rest : List UInt8}
    (complete : ¬ Incomplete (decoder.buffer ++ data))
    (cut : (decoder.buffer ++ data).drop (frameLength (decoder.buffer ++ data)) = rest)
    (waiting : Incomplete rest) :
    (decoder.readBytes data).1 =
      match FrameCodec.decode usizeBits
        ((decoder.buffer ++ data).take (frameLength (decoder.buffer ++ data))) with
      | .ok frame => (acceptFrame decoder.streams frame).1
      | .error error => [.error error] := by
  have fed : ¬ Incomplete (decoder.feed data).buffer := complete
  have runs := readFrame_complete fed
  have stops : ∀ streams, exhaust (readFrame usizeBits) (fun state => state.buffer.length)
      ⟨rest, streams⟩ = ([], ⟨rest, streams⟩) :=
    fun streams => exhaust_of_none _ ((readFrame_eq_none_iff ⟨rest, streams⟩).mpr waiting)
  simp only [feed, cut] at runs
  unfold readBytes feed
  cases decoded : FrameCodec.decode usizeBits
      ((decoder.buffer ++ data).take (frameLength (decoder.buffer ++ data))) with
  | ok frame =>
      simp only [decoded] at runs
      rw [exhaust_of_some readFrame_decreasing runs, stops, List.append_nil]
  | error error =>
      simp only [decoded] at runs
      rw [exhaust_of_some readFrame_decreasing runs, stops, List.append_nil]

/-- A frame with no payload and of no known kind. -/
def unknownFrame : List UInt8 := List.replicate frameKindOffset 0 ++ [255]

theorem new_readBytes_unknownFrame : (new.readBytes unknownFrame).1 = [.error .corruptFrame] := by
  decide

theorem incomplete_of_length_lt {buf : List UInt8} (short : buf.length < frameHeaderSize) :
    Incomplete buf :=
  .inr (Nat.lt_of_lt_of_le short (Nat.le_add_right _ _))

/-- An unfinished frame is no frame at all, or it swallows the bytes that follow it. -/
theorem unfinished_frame_shows {decoder : FrameMuxStreamDecoder}
    (waiting : Incomplete decoder.buffer) (unfinished : decoder.buffer ≠ []) :
    (∃ data, (decoder.readBytes data).1 = [.error .corruptFrame] ∧
        (new.readBytes data).1 = []) ∨
      ∀ item ∈ (decoder.readBytes unknownFrame).1, ∃ frame, item = .ok frame := by
  obtain ⟨count, complete, whole⟩ := exists_filled waiting
  have decoded := decode_front complete
  split at decoded
  · left
    refine ⟨filler count, ?_, ?_⟩
    · have cut := List.drop_eq_nil_of_le whole.ge
      rw [readBytes_cut complete cut incomplete_nil, decoded]
    · have bounded := FrameCodec.lengthField_lt (decoder.buffer ++ filler count)
      have positive := List.length_pos_of_ne_nil unfinished
      have short : count < frameHeaderSize + (2 ^ 32 - 1) := by
        rw [frameLength, List.length_append, filler, List.length_replicate, ← filler] at whole
        omega
      have declines := (readFrame_eq_none_iff (new.feed (filler count))).mpr
        (incomplete_filler short)
      rw [readBytes, exhaust_of_none _ declines]
  · right
    rename_i kind known
    have hasHeader : frameHeaderSize ≤ decoder.buffer.length := by
      apply Nat.le_of_not_lt
      intro short
      have inFiller : frameKindOffset - decoder.buffer.length < count := by
        rw [frameLength, List.length_append, filler, List.length_replicate, ← filler] at whole
        simp only [frameHeaderSize, frameKindOffset] at *
        omega
      have behind : decoder.buffer.length ≤ frameKindOffset := Nat.le_of_lt_succ short
      rw [List.getD_append_right _ _ _ _ behind, filler,
        List.getD_replicate _ inFiller] at known
      have unknown : FrameKind.tryFrom 255 = none := by decide
      exact absurd (unknown.symm.trans known) (Option.some_ne_none kind).symm
    have kindByte : ∀ data : List UInt8, (decoder.buffer ++ data).getD frameKindOffset 0 =
        decoder.buffer.getD frameKindOffset 0 :=
      fun data => List.getD_append _ _ _ _ hasHeader
    rw [kindByte] at known
    by_cases swallowed : Incomplete (decoder.buffer ++ unknownFrame)
    · have declines := (readFrame_eq_none_iff (decoder.feed unknownFrame)).mpr swallowed
      rw [readBytes, exhaust_of_none _ declines]
      exact fun item member => absurd member List.not_mem_nil
    · have passed := decode_front swallowed
      rw [kindByte, known] at passed
      obtain ⟨frame, passed⟩ := passed
      have tail : ((decoder.buffer ++ unknownFrame).drop
          (frameLength (decoder.buffer ++ unknownFrame))).length < frameHeaderSize := by
        have long : frameLengthFieldSize ≤ decoder.buffer.length :=
          Nat.le_trans (by decide) hasHeader
        have partialFrame := waiting.resolve_left (Nat.not_lt.mpr long)
        rw [List.length_drop, List.length_append, frameLength,
          FrameCodec.lengthField_append _ _ long]
        have added : unknownFrame.length = 13 := rfl
        simp only [frameHeaderSize] at *
        omega
      rw [readBytes_cut swallowed rfl (incomplete_of_length_lt tail), passed]
      exact StreamReassembly.accept_items _ frame

end FrameMuxStreamDecoder

/-! ## A stream under way -/

namespace StreamReassembly

/-- A stream that is settled but not as new, while it waits for its first frame, holds
later ones. -/
theorem EntrySettled.buffer_ne_empty {streamId : UInt32} {entry : Option StreamReassembly}
    (settled : EntrySettled streamId entry) (underWay : entry.getD fresh ≠ fresh)
    (waits : (entry.getD fresh).nextExpected = 0) : (entry.getD fresh).buffer ≠ ∅ := by
  cases entry with
  | none => exact absurd rfl underWay
  | some stream =>
      intro empty
      have known := settled stream rfl
      apply underWay
      obtain ⟨nextExpected, buffer, isCanceled, isEnded⟩ := stream
      have running : isCanceled = false := known.notCanceled
      have unfinished : isEnded = false :=
        Bool.eq_false_iff.mpr fun ended => known.unfinished ended empty
      rw [Option.getD_some] at waits empty ⊢
      dsimp only at waits empty
      rw [waits, empty, running, unfinished, fresh]

theorem EntrySettled.gap {streamId : UInt32} {entry : Option StreamReassembly}
    (settled : EntrySettled streamId entry) :
    (entry.getD fresh).buffer[(entry.getD fresh).nextExpected]? = none := by
  cases entry with
  | none => exact ExtTreeMap.getElem?_empty
  | some stream => exact (settled stream rfl).gap

section Accept

variable {streamId : UInt32} {entry : Option StreamReassembly} {frame : DecodedFrame}

/-- A frame that is not the next one yields nothing. -/
theorem EntrySettled.accept_later (settled : EntrySettled streamId entry)
    (notCancel : frame.inner.kind ≠ .cancel)
    (later : frame.inner.seqId ≠ (entry.getD fresh).nextExpected) :
    (StreamReassembly.accept entry frame).1 = [] := by
  rw [accept_eq settled.running.notCanceled notCancel, release_hold_later settled.gap later]

/-- The next frame is passed on, with those that waited for it. -/
theorem EntrySettled.accept_next (settled : EntrySettled streamId entry)
    (notCancel : frame.inner.kind ≠ .cancel)
    (isNext : frame.inner.seqId = (entry.getD fresh).nextExpected) :
    (StreamReassembly.accept entry frame).1 =
      .ok frame :: ((entry.getD fresh).advance frame).release.1 := by
  rw [accept_eq settled.running.notCanceled notCancel, release_hold_next settled.gap isNext]

/-- The next frame alone is passed on when the one after it is missing. -/
theorem EntrySettled.accept_only (settled : EntrySettled streamId entry)
    (notCancel : frame.inner.kind ≠ .cancel)
    (isNext : frame.inner.seqId = (entry.getD fresh).nextExpected)
    (missing : (entry.getD fresh).buffer[(entry.getD fresh).nextExpected + 1]? = none)
    (holds : (entry.getD fresh).buffer ≠ ∅) :
    StreamReassembly.accept entry frame =
      ([.ok frame], some ((entry.getD fresh).advance frame)) := by
  have gap : ((entry.getD fresh).advance frame).buffer[
      ((entry.getD fresh).advance frame).nextExpected]? = none := missing
  rw [accept_eq settled.running.notCanceled notCancel, release_hold_next settled.gap isNext,
    release_of_gap gap]
  dsimp only
  rw [if_neg fun done => holds done.2]

end Accept

/-- The frame after the next one is passed on too when it has waited. -/
theorem Running.release_advance {streamId : UInt32} {stream : StreamReassembly}
    (running : stream.Running streamId) {other : DecodedFrame}
    (held : stream.buffer[stream.nextExpected + 1]? = some other) (frame : DecodedFrame) :
    ∃ more, (stream.advance frame).release.1 = .ok other :: more ∧
      other.inner.streamId = streamId := by
  have found : (stream.advance frame).buffer[(stream.advance frame).nextExpected]? =
    some other := held
  obtain ⟨next, runs⟩ : ∃ next, releaseNext (stream.advance frame) = some ([.ok other], next) := by
    rw [releaseNext, found]
    exact ⟨_, rfl⟩
  have released := exhaust_of_some releaseNext_decreasing runs
  exact ⟨_, congrArg Prod.fst released, running.owned _ _ held⟩

end StreamReassembly

end Muxio.Framing
