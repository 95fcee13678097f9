import Muxio.Framing.Delivery
import Muxio.Framing.Leftovers

/-!
# Streams beside each other, and streams after a cancel

The reassembly table is a demultiplexer: what one stream emits, and the entry it
ends with, depend on the frames of that stream alone.  That the items carry the
stream id they are filed under is an invariant of the entries.

A cancel frame removes the entry of its stream at once, so nothing remembers
that the stream was canceled.  A frame of that stream that is read later starts
the stream again: it is passed on without a mark or kept back, unless it is a
cancel frame itself.
-/

namespace Muxio.Framing

open Std
open Muxio.Transition

@[simp]
theorem Frame.decoded_streamId (frame : Frame) :
    frame.decoded.inner.streamId = frame.streamId := by
  rcases frame with ⟨streamId, seqId, kind, payload⟩
  cases kind <;> rfl

namespace StreamReassembly

/-- Every released frame belongs to the stream of the entry. -/
theorem Running.release_items {streamId : UInt32} {stream : StreamReassembly}
    (running : stream.Running streamId) :
    ∀ item ∈ stream.release.1, itemStreamId item = some streamId := by
  unfold StreamReassembly.release
  induction stream using exhaust_induction releaseNext_decreasing with
  | declined stream declines =>
      rw [exhaust_of_none _ declines]
      intro item member
      contradiction
  | iterated stream out next runs ih =>
      rw [exhaust_of_some releaseNext_decreasing runs]
      have nextRunning := running.next runs
      obtain ⟨frame, found, rfl, -⟩ := releaseNext_cases runs
      intro item member
      rcases List.mem_append.mp member with only | later
      · rw [List.mem_singleton.mp only]
        exact congrArg some (running.owned _ frame found)
      · exact ih nextRunning item later

/-- What an entry emits belongs to its stream. -/
theorem EntrySettled.accept_streamId {streamId : UInt32} {entry : Option StreamReassembly}
    (settled : EntrySettled streamId entry) {frame : DecodedFrame}
    (onStream : frame.inner.streamId = streamId) :
    ∀ item ∈ (StreamReassembly.accept entry frame).1, itemStreamId item = some streamId := by
  have marked : ∀ item ∈ [(.ok { frame with decodeError := some .readAfterCancel } : Item)],
      itemStreamId item = some streamId := by
    intro item member
    rw [List.mem_singleton.mp member]
    exact congrArg some onStream
  have released := (settled.running.hold onStream).release_items
  unfold StreamReassembly.accept
  split
  · exact marked
  · split
    · exact marked
    · dsimp only
      split
      · exact released
      · exact released

end StreamReassembly

namespace FrameMuxStreamDecoder

/-! ## Streams do not interfere -/

/-- Items are filed under the stream id they carry. -/
theorem demux_tagged {streams : Streams}
    (settled : ∀ streamId, StreamReassembly.EntrySettled streamId streams[streamId]?)
    (frames : List DecodedFrame) :
    ∀ tagged ∈ (demux StreamReassembly.accept (fun frame => frame.inner.streamId) streams
      frames).1, itemStreamId tagged.2 = some tagged.1 := by
  induction frames generalizing streams with
  | nil =>
      intro tagged member
      contradiction
  | cons frame rest ih =>
      rw [demux_cons]
      intro tagged member
      rcases List.mem_append.mp member with first | later
      · obtain ⟨item, emitted, rfl⟩ := List.mem_map.mp first
        exact (settled frame.inner.streamId).accept_streamId rfl item emitted
      · exact ih (acceptFrame_settled settled frame) tagged later

/-- The items of one stream are those its own frames lead to. -/
theorem acceptAll_items {streams : Streams}
    (settled : ∀ streamId, StreamReassembly.EntrySettled streamId streams[streamId]?)
    (frames : List DecodedFrame) (streamId : UInt32) :
    ((acceptAll streams frames).1.filter fun item => itemStreamId item = some streamId) =
      (runEntry StreamReassembly.accept streams[streamId]?
        (frames.filter fun frame => frame.inner.streamId = streamId)).1 := by
  have tags : ((demux StreamReassembly.accept (fun frame => frame.inner.streamId) streams
      frames).1.filter fun tagged => itemStreamId tagged.2 = some streamId) =
      (demux StreamReassembly.accept (fun frame => frame.inner.streamId) streams
        frames).1.filter fun tagged => tagged.1 = streamId := by
    apply List.filter_congr
    intro tagged member
    simp only [demux_tagged settled frames tagged member, Option.some.injEq]
  have outputs := demux_outputs StreamReassembly.accept
    (fun frame : DecodedFrame => frame.inner.streamId) streams frames streamId
  rw [acceptAll, List.filter_map]
  simp only [Function.comp_def]
  rw [tags, outputs, List.map_map]
  exact List.map_id _

/-- The entry a stream ends with is the one its own frames lead to. -/
theorem acceptAll_entry (streams : Streams) (frames : List DecodedFrame) (streamId : UInt32) :
    (acceptAll streams frames).2[streamId]? =
      (runEntry StreamReassembly.accept streams[streamId]?
        (frames.filter fun frame => frame.inner.streamId = streamId)).2 :=
  demux_entry StreamReassembly.accept _ streams frames streamId

/-- A new decoder that reads whole frames, cut in any way, accepts them in order. -/
theorem new_readChunks_frameBytes {frames : List Frame} (fits : Fits frames)
    {chunks : List (List UInt8)} (cut : chunks.flatten = frameBytes frames) :
    new.readChunks chunks = ((acceptAll ∅ (frames.map Frame.decoded)).1,
      ⟨[], (acceptAll ∅ (frames.map Frame.decoded)).2⟩) := by
  rw [readChunks_eq_readBytes incomplete_nil, cut]
  have whole : new.buffer ++ frameBytes frames = frameBytes frames ++ [] :=
    (List.append_nil _).symm
  exact readBytes_frameBytes fits rfl whole incomplete_nil

/-- Whatever frames are interleaved, and however the bytes are cut, each stream emits what it
emits when its own frames are all there is, and ends with the same entry. -/
theorem streams_do_not_interfere (frames : List Frame) (fits : Fits frames) (streamId : UInt32)
    (chunks alone : List (List UInt8)) (cut : chunks.flatten = frameBytes frames)
    (cutAlone : alone.flatten =
      frameBytes (frames.filter fun frame => frame.streamId = streamId)) :
    ((new.readChunks chunks).1.filter fun item => itemStreamId item = some streamId) =
        (new.readChunks alone).1 ∧
      (new.readChunks chunks).2.streams[streamId]? =
        (new.readChunks alone).2.streams[streamId]? := by
  have ownFits : Fits (frames.filter fun frame => frame.streamId = streamId) :=
    fun frame member => fits frame (List.mem_filter.mp member).1
  have settled : ∀ streamId, StreamReassembly.EntrySettled streamId (∅ : Streams)[streamId]? :=
    new_settled.entries
  have ownFrames : ((frames.map Frame.decoded).filter fun frame =>
      frame.inner.streamId = streamId) =
      (frames.filter fun frame => frame.streamId = streamId).map Frame.decoded := by
    rw [List.filter_map]
    simp only [Function.comp_def, Frame.decoded_streamId]
  have onlyOwn : ∀ frame ∈ (frames.filter fun frame => frame.streamId = streamId).map
      Frame.decoded, frame.inner.streamId = streamId := by
    intro frame member
    rw [← ownFrames] at member
    exact of_decide_eq_true (List.mem_filter.mp member).2
  have allOwn : (((frames.filter fun frame => frame.streamId = streamId).map
      Frame.decoded).filter fun frame => frame.inner.streamId = streamId) =
      (frames.filter fun frame => frame.streamId = streamId).map Frame.decoded := by
    apply List.filter_eq_self.mpr
    intro frame member
    exact decide_eq_true (onlyOwn frame member)
  rw [new_readChunks_frameBytes fits cut, new_readChunks_frameBytes ownFits cutAlone]
  constructor
  · rw [acceptAll_items settled, ownFrames]
    dsimp only
    rw [acceptAll, demux_of_key _ _ onlyOwn, List.map_map]
    exact (List.map_id _).symm
  · rw [acceptAll_entry, acceptAll_entry, ownFrames, allOwn]

/-- A canceled stream beside a stream that ends out of order. -/
theorem streams_do_not_interfere_canceled :
    let frames : List Frame := [⟨1, 0, .open, [5]⟩, ⟨2, 1, .end, [8]⟩, ⟨1, 1, .cancel, []⟩,
      ⟨2, 0, .open, [7]⟩, ⟨1, 4, .data, [6]⟩]
    let alone := frames.filter fun frame => frame.streamId = 2
    ((new.readChunks [frameBytes frames]).1.filter fun item => itemStreamId item = some 2) =
        (new.readChunks [frameBytes alone]).1 ∧
      (new.readChunks [frameBytes frames]).2.streams[(2 : UInt32)]? =
        (new.readChunks [frameBytes alone]).2.streams[(2 : UInt32)]? ∧
      (new.readChunks [frameBytes alone]).1 =
        [.ok ⟨⟨2, 0, .open, [7]⟩, none⟩, .ok ⟨⟨2, 1, .end, [8]⟩, none⟩] := by
  intro frames alone
  have fits : Fits frames := by
    rw [Fits]
    decide
  have apart := streams_do_not_interfere frames fits 2 [frameBytes frames]
    [frameBytes alone] (List.append_nil _) (List.append_nil _)
  exact ⟨apart.1, apart.2, by decide +kernel⟩

/-! ## Frames after a cancel -/

/-- A decoder at some point of its life, and the items it has emitted until then. -/
inductive History : FrameMuxStreamDecoder → List Item → Prop where
  | new : History new []
  | feed {decoder : FrameMuxStreamDecoder} {items : List Item} (history : History decoder items)
      (data : List UInt8) : History (decoder.feed data) items
  | iterate {decoder next : FrameMuxStreamDecoder} {items out : List Item}
      (history : History decoder items) (runs : readFrame usizeBits decoder = some (out, next)) :
      History next (items ++ out)

/-- A read is a history of one delivery and as many iterations as it takes. -/
theorem History.readBytes {decoder : FrameMuxStreamDecoder} {items : List Item}
    (history : History decoder items) (data : List UInt8) :
    History (decoder.readBytes data).2 (items ++ (decoder.readBytes data).1) := by
  have iterations : ∀ state earlier, History state earlier →
      History (exhaust (readFrame usizeBits) (fun state => state.buffer.length) state).2 (earlier ++
        (exhaust (readFrame usizeBits) (fun state => state.buffer.length) state).1) := by
    intro state
    induction state using exhaust_induction readFrame_decreasing with
    | declined state declines =>
        intro earlier before
        rw [exhaust_of_none _ declines, List.append_nil]
        exact before
    | iterated state out next runs ih =>
        intro earlier before
        rw [exhaust_of_some readFrame_decreasing runs, ← List.append_assoc]
        exact ih _ (before.iterate runs)
  exact iterations _ _ (history.feed data)

theorem History.entriesSettled {decoder : FrameMuxStreamDecoder} {items : List Item}
    (history : History decoder items) : decoder.EntriesSettled := by
  induction history with
  | new => exact new_settled.entries
  | feed history data ih => exact ih
  | iterate history runs ih =>
      refine readFrame_streams
        (fun streams => ∀ streamId, StreamReassembly.EntrySettled streamId streams[streamId]?)
        ?_ runs ih
      intro streams frame before
      exact acceptFrame_settled before frame

/-- Nothing is passed on unmarked, and no frame is kept back for the stream. -/
def Discarded (streamId : UInt32) (out : List Item) (streams : Streams) : Prop :=
  (∀ item ∈ out, ∃ frame, item = .ok frame ∧ frame.decodeError = some .readAfterCancel) ∧
    ∀ stream, streams[streamId]? = some stream → stream.buffer = ∅

end FrameMuxStreamDecoder

/-- The codec hands out frames without a mark. -/
theorem FrameCodec.decode_unmarked {w : Nat} {buf : List UInt8} {frame : DecodedFrame}
    (decoded : decode w buf = .ok frame) : frame.decodeError = none := by
  unfold decode at decoded
  split at decoded
  · contradiction
  · dsimp only at decoded
    split at decoded
    · contradiction
    · split at decoded
      · contradiction
      · rw [← Except.ok.inj decoded]

namespace StreamReassembly

variable {streamId : UInt32} {entry : Option StreamReassembly} {frame : DecodedFrame}

/-- Any other frame that is out of order stays in the entry. -/
theorem EntrySettled.accept_kept (settled : EntrySettled streamId entry)
    (notCancel : frame.inner.kind ≠ .cancel)
    (later : frame.inner.seqId ≠ (entry.getD fresh).nextExpected) :
    ∃ stream, (StreamReassembly.accept entry frame).2 = some stream ∧ stream.buffer ≠ ∅ := by
  have kept : ((entry.getD fresh).hold frame).buffer ≠ ∅ := by
    intro empty
    have found : ((entry.getD fresh).hold frame).buffer[frame.inner.seqId]? = some frame := by
      rw [hold_buffer, ExtTreeMap.getElem?_insert_self]
    rw [empty] at found
    exact empty_entry_ne found
  rw [accept_eq settled.running.notCanceled notCancel, release_hold_later settled.gap later]
  dsimp only
  rw [if_neg fun ended => kept ended.2]
  exact ⟨_, rfl, kept⟩

end StreamReassembly

namespace FrameMuxStreamDecoder

/-- The frame that the next iteration reads. -/
def ReadsNext (decoder : FrameMuxStreamDecoder) (frame : DecodedFrame) : Prop :=
  ¬ Incomplete decoder.buffer ∧
    FrameCodec.decode usizeBits (decoder.buffer.take (frameLength decoder.buffer)) = .ok frame

/-- A frame is discarded exactly when it is a cancel frame, canceled before or not. -/
theorem discarded_iff {decoder next : FrameMuxStreamDecoder} {items out : List Item}
    {streamId : UInt32} {frame : DecodedFrame} (history : History decoder items)
    (isNext : decoder.ReadsNext frame) (onStream : frame.inner.streamId = streamId)
    (reads : readFrame usizeBits decoder = some (out, next)) :
    Discarded streamId out next.streams ↔ frame.inner.kind = .cancel := by
  have settled := history.entriesSettled streamId
  have step : out = (acceptFrame decoder.streams frame).1 ∧
      next.streams = (acceptFrame decoder.streams frame).2 := by
    obtain ⟨-, -, ⟨other, decoded, outEq, streamsEq⟩ | ⟨error, failed, -, -⟩⟩ :=
      readFrame_cases reads
    · rw [isNext.2] at decoded
      rw [Except.ok.inj decoded]
      exact ⟨outEq, streamsEq⟩
    · rw [isNext.2] at failed
      contradiction
  have stored : next.streams[streamId]? =
      (StreamReassembly.accept decoder.streams[streamId]? frame).2 := by
    rw [step.2, acceptFrame, getElem?_setEntry, if_pos onStream, onStream]
  have emitted : out = (StreamReassembly.accept decoder.streams[streamId]? frame).1 := by
    rw [step.1, acceptFrame, onStream]
  rw [Discarded, stored, emitted]
  constructor
  · rintro ⟨marked, nothingKept⟩
    by_contra notCancel
    by_cases inOrder : frame.inner.seqId =
        (decoder.streams[streamId]?.getD StreamReassembly.fresh).nextExpected
    · rw [settled.accept_next notCancel inOrder] at marked
      obtain ⟨same, sameEq, isMarked⟩ := marked _ List.mem_cons_self
      rw [← Except.ok.inj sameEq, FrameCodec.decode_unmarked isNext.2] at isMarked
      contradiction
    · obtain ⟨stream, isStored, kept⟩ := settled.accept_kept notCancel inOrder
      exact kept (nothingKept stream isStored)
  · intro isCancel
    rw [settled.accept_cancel isCancel]
    constructor
    · intro item member
      exact ⟨_, List.mem_singleton.mp member, rfl⟩
    · intro stream impossible
      contradiction

/-- The cancel frame of a stream has been emitted. -/
def WasCanceled (streamId : UInt32) (items : List Item) : Prop :=
  ∃ cancel : DecodedFrame, .ok cancel ∈ items ∧ cancel.inner.kind = .cancel ∧
    cancel.inner.streamId = streamId

/-- At every point after the cancel frame of a stream has been emitted, a further frame of
the stream is discarded exactly when it is a cancel frame again. -/
theorem canceled_stream_discards_iff {decoder : FrameMuxStreamDecoder} {items : List Item}
    (history : History decoder items) (streamId : UInt32) :
    (WasCanceled streamId items → ∀ (frame : DecodedFrame) (out : List Item)
        (next : FrameMuxStreamDecoder), decoder.ReadsNext frame →
        frame.inner.streamId = streamId → readFrame usizeBits decoder = some (out, next) →
        Discarded streamId out next.streams) ↔
      (WasCanceled streamId items → ∀ frame : DecodedFrame, decoder.ReadsNext frame →
        frame.inner.streamId = streamId → frame.inner.kind = .cancel) := by
  constructor
  · intro discards canceled frame isNext onStream
    have reads := readFrame_complete isNext.1
    rw [isNext.2] at reads
    exact (discarded_iff history isNext onStream reads).mp
      (discards canceled frame _ _ isNext onStream reads)
  · intro onlyCancels canceled frame out next isNext onStream reads
    exact (discarded_iff history isNext onStream reads).mpr
      (onlyCancels canceled frame isNext onStream)

/-- A stream whose cancel frame arrives twice. -/
theorem canceled_stream_discards_again :
    let first := new.readBytes (FrameCodec.encode ⟨1, 0, .cancel, []⟩)
    let decoder := first.2.feed (FrameCodec.encode ⟨1, 0, .cancel, []⟩)
    WasCanceled 1 first.1 ∧ ∀ (frame : DecodedFrame) (out : List Item)
      (next : FrameMuxStreamDecoder), decoder.ReadsNext frame → frame.inner.streamId = 1 →
      readFrame usizeBits decoder = some (out, next) → Discarded 1 out next.streams := by
  intro first decoder
  have canceled : WasCanceled 1 first.1 := by
    apply Exists.intro ⟨⟨1, 0, .cancel, []⟩, some .readAfterCancel⟩
    decide +kernel
  have history : History decoder first.1 := (History.new.readBytes _).feed _
  have read : FrameCodec.decode usizeBits (decoder.buffer.take (frameLength decoder.buffer)) =
      .ok ⟨⟨1, 0, .cancel, []⟩, none⟩ := by
    decide +kernel
  have onlyCancels : ∀ frame : DecodedFrame, decoder.ReadsNext frame →
      frame.inner.streamId = 1 → frame.inner.kind = .cancel := by
    rintro frame ⟨-, isNext⟩ -
    rw [read] at isNext
    rw [← Except.ok.inj isNext]
  constructor
  · exact canceled
  · exact (canceled_stream_discards_iff history 1).mpr (fun _ => onlyCancels) canceled

/-- Frames sent before the cancel frame and read after it: one is kept back for ever, the
other is passed on as if the stream had just begun. -/
theorem canceled_stream_restarts :
    ((new.readBytes (frameBytes
        [⟨1, 0, .open, [4]⟩, ⟨1, 2, .cancel, []⟩, ⟨1, 1, .data, [5]⟩])).2.streams[
          (1 : UInt32)]?.map fun stream => stream.buffer.isEmpty) = some false ∧
      (new.readBytes (frameBytes [⟨1, 1, .cancel, []⟩, ⟨1, 0, .open, [4]⟩])).1 =
        [.ok ⟨⟨1, 1, .cancel, []⟩, some .readAfterCancel⟩, .ok ⟨⟨1, 0, .open, [4]⟩, none⟩] := by
  decide +kernel

end FrameMuxStreamDecoder

end Muxio.Framing
