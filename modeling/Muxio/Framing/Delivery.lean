import Muxio.Framing.Encoder
import Muxio.Framing.Reassembly

/-!
# Delivery of whole streams

A stream script is what a caller does with one encoder: any sequence of writes
and flushes, then `end_stream`.  The frames of any family of scripts with
distinct stream ids survive every order of arrival and every cut of the byte
string: the decoder hands out each stream in sequence and forgets it.
-/

namespace Muxio.Framing

open Std
open Muxio.Transition

/-! ## The frames of a closed stream -/

/-- What each position of a closed stream holds. -/
theorem getElem?_streamFrames {streamId : UInt32} {payloads : List (List UInt8)}
    {last : List UInt8} {i : Nat} {frame : Frame}
    (position : (streamFrames streamId payloads last)[i]? = some frame) :
    frame.streamId = streamId ∧ frame.seqId = UInt32.ofNat i ∧ frame.kind ≠ .cancel ∧
      (frame.kind = .end ↔ i = payloads.length) := by
  rw [streamFrames, List.getElem?_append, framesFrom_length] at position
  split at position
  · rename_i inRange
    rw [getElem?_framesFrom, List.getElem?_eq_getElem inRange, Option.map_some,
      Option.some.injEq] at position
    subst position
    refine ⟨rfl, UInt32.zero_add _, ?_, iff_of_false ?_ inRange.ne⟩
    · split <;> exact FrameKind.noConfusion
    · split <;> exact FrameKind.noConfusion
  · rename_i outOfRange
    obtain ⟨atEnd, frameEq⟩ := List.getElem?_eq_some_iff.mp position
    have iEq : i = payloads.length := by
      rw [List.length_singleton] at atEnd
      omega
    simp only [List.getElem_singleton] at frameEq
    subst frameEq iEq
    exact ⟨rfl, rfl, FrameKind.noConfusion, iff_of_true rfl rfl⟩

@[simp]
theorem streamFrames_length (streamId : UInt32) (payloads : List (List UInt8))
    (last : List UInt8) : (streamFrames streamId payloads last).length = payloads.length + 1 := by
  simp [streamFrames]

theorem mem_streamFrames {streamId : UInt32} {payloads : List (List UInt8)} {last : List UInt8}
    {frame : Frame} (member : frame ∈ streamFrames streamId payloads last) :
    frame.streamId = streamId ∧ frame.kind ≠ .cancel := by
  obtain ⟨i, position⟩ := List.mem_iff_getElem?.mp member
  have spec := getElem?_streamFrames position
  exact ⟨spec.1, spec.2.2.1⟩

theorem Frame.decoded_eq {frame : Frame} (notCancel : frame.kind ≠ .cancel) :
    frame.decoded = ⟨frame, none⟩ := by
  rw [Frame.decoded, Frame.received_eq_self notCancel]

theorem streamFrames_decoded (streamId : UInt32) (payloads : List (List UInt8))
    (last : List UInt8) :
    (streamFrames streamId payloads last).map Frame.decoded =
      (streamFrames streamId payloads last).map fun frame => ⟨frame, none⟩ :=
  List.map_congr_left fun _ member => Frame.decoded_eq (mem_streamFrames member).2

/-- Closed streams of fewer than `2 ^ 32` frames can be put back in sequence. -/
theorem streamFrames_sequenced (streamId : UInt32) {payloads : List (List UInt8)}
    (last : List UInt8) (few : payloads.length + 1 < 2 ^ 32) :
    Sequenced ((streamFrames streamId payloads last).map Frame.decoded) := by
  have frameAt : ∀ {i : Nat} {decoded : DecodedFrame},
      ((streamFrames streamId payloads last).map Frame.decoded)[i]? = some decoded →
        decoded.inner.seqId = UInt32.ofNat i ∧ decoded.inner.kind ≠ .cancel ∧
          (decoded.inner.kind = .end ↔ i = payloads.length) ∧ i < payloads.length + 1 := by
    intro i decoded position
    rw [streamFrames_decoded, List.getElem?_map] at position
    obtain ⟨frame, framePosition, rfl⟩ := Option.map_eq_some_iff.mp position
    obtain ⟨inRange, -⟩ := List.getElem?_eq_some_iff.mp framePosition
    rw [streamFrames_length] at inRange
    have spec := getElem?_streamFrames framePosition
    exact ⟨spec.2.1, spec.2.2.1, spec.2.2.2, inRange⟩
  refine ⟨by simpa using few, by simp [streamFrames], ?_, ?_, ?_⟩
  · intro i frame position
    rcases frameAt position with ⟨seqIdEq, -, -, inRange⟩
    rw [seqIdEq]
    exact UInt32.toNat_ofNat_of_lt' (inRange.trans few)
  · intro i frame position
    exact (frameAt position).2.1
  · intro i frame position
    rw [(frameAt position).2.2.1]
    simp

/-! ## Families of streams -/

/-- One encoder's work: writes and flushes, then `end_stream`. -/
structure StreamScript where
  streamId : UInt32
  maxChunkSize : Nat
  ops : List WriteOp
  positive : 0 < maxChunkSize
  bounded : maxChunkSize < 2 ^ 32
  few : (WriteOp.emitStream streamId maxChunkSize ops).length < 2 ^ 32

namespace StreamScript

/-- The frames a script emits, in order. -/
def frames (script : StreamScript) : List Frame :=
  WriteOp.emitStream script.streamId script.maxChunkSize script.ops

/-- A script emits a closed stream of short chunks. -/
theorem frames_eq (script : StreamScript) :
    ∃ payloads last, script.frames = streamFrames script.streamId payloads last ∧
      WriteOp.written script.ops = payloads.flatten ++ last ∧
      last.length = WriteOp.unflushed 0 script.ops % script.maxChunkSize ∧
      (∀ payload ∈ payloads, payload ≠ []) ∧ payloads.length + 1 < 2 ^ 32 ∧
      Fits script.frames := by
  rcases WriteOp.emitStream_eq script.streamId script.positive script.ops with
    ⟨payloads, last, framesEq, writtenEq, lastLength, bounds⟩
  have lastShort : last.length < 2 ^ 32 :=
    lastLength.trans_lt ((Nat.mod_lt _ script.positive).trans script.bounded)
  have few : payloads.length + 1 < 2 ^ 32 := by
    have few := script.few
    rwa [framesEq, streamFrames_length] at few
  refine ⟨payloads, last, framesEq, writtenEq, lastLength,
    fun payload member => (bounds payload member).1, few, ?_⟩
  intro frame member
  have payloadMem : frame.payload ∈ script.frames.map Frame.payload := List.mem_map_of_mem member
  rw [frames, framesEq, streamFrames, List.map_append, framesFrom_payloads] at payloadMem
  rcases List.mem_append.mp payloadMem with chunk | ending
  · exact (bounds _ chunk).2.trans_lt script.bounded
  · rw [List.mem_singleton.mp ending]
    exact lastShort

theorem streamId_of_mem {script : StreamScript} {frame : Frame} (member : frame ∈ script.frames) :
    frame.streamId = script.streamId ∧ frame.kind ≠ .cancel := by
  rcases script.frames_eq with ⟨payloads, last, framesEq, -⟩
  rw [framesEq] at member
  exact mem_streamFrames member

theorem sequenced (script : StreamScript) :
    Sequenced (script.frames.map fun frame => ⟨frame, none⟩) := by
  rcases script.frames_eq with ⟨payloads, last, framesEq, -, -, -, few, -⟩
  rw [framesEq, ← streamFrames_decoded]
  exact streamFrames_sequenced _ _ few

theorem frames_tagged (scripts : List StreamScript) :
    ∀ script ∈ scripts, ∀ frame ∈ script.frames, frame.streamId = script.streamId :=
  fun _ _ _ frameMem => (streamId_of_mem frameMem).1

/-- The frames a family of scripts sends on one stream id, as the codec hands
them to reassembly. -/
def sentOn (scripts : List StreamScript) (streamId : UInt32) : List DecodedFrame :=
  ((scripts.flatMap frames).filter fun frame => frame.streamId = streamId).map Frame.decoded

theorem sentOn_eq {scripts : List StreamScript} (distinct : (scripts.map streamId).Nodup)
    {script : StreamScript} (member : script ∈ scripts) :
    sentOn scripts script.streamId = script.frames.map fun frame => ⟨frame, none⟩ := by
  have selected := filter_flatMap_eq Frame.streamId (frames_tagged scripts) distinct member
  rw [sentOn, selected]
  exact List.map_congr_left fun _ frameMem => Frame.decoded_eq (streamId_of_mem frameMem).2

theorem sentOn_absent {scripts : List StreamScript} {id : UInt32}
    (absent : id ∉ scripts.map streamId) : sentOn scripts id = [] := by
  rw [sentOn, filter_flatMap_absent Frame.streamId (frames_tagged scripts) absent]
  rfl

theorem sentOn_closed {scripts : List StreamScript} (distinct : (scripts.map streamId).Nodup)
    (id : UInt32) : sentOn scripts id = [] ∨ Sequenced (sentOn scripts id) := by
  by_cases used : id ∈ scripts.map streamId
  · right
    rcases List.mem_map.mp used with ⟨script, member, rfl⟩
    rw [sentOn_eq distinct member]
    exact script.sequenced
  · exact Or.inl (sentOn_absent used)

/-- The bytes of the frames of a family of scripts, in any order and cut
anywhere, come out of a fresh decoder as the frames of each stream in sequence. -/
theorem readChunks_perm {scripts : List StreamScript} (distinct : (scripts.map streamId).Nodup)
    {arrivals : List Frame} (perm : arrivals.Perm (scripts.flatMap frames))
    {chunks : List (List UInt8)} (cut : chunks.flatten = frameBytes arrivals) :
    ∃ released : List DecodedFrame,
      FrameMuxStreamDecoder.new.readChunks chunks = (released.map Except.ok, ⟨[], ∅⟩) ∧
      ∀ id, (released.filter fun frame => frame.inner.streamId = id) = sentOn scripts id := by
  have fits : Fits arrivals := by
    intro frame member
    rcases List.mem_flatMap.mp (perm.mem_iff.mp member) with ⟨script, -, frameMem⟩
    rcases script.frames_eq with ⟨-, -, -, -, -, -, -, fits⟩
    exact fits frame frameMem
  have decodedPerm : ∀ id, ((arrivals.map Frame.decoded).filter fun frame =>
      frame.inner.streamId = id).Perm (sentOn scripts id) := by
    intro id
    have sameStream : ((fun frame : DecodedFrame => decide (frame.inner.streamId = id)) ∘
        Frame.decoded) = fun frame => decide (frame.streamId = id) := by
      funext frame
      rcases frame with ⟨streamId, seqId, kind, payload⟩
      cases kind <;> rfl
    rw [List.filter_map, sameStream]
    exact (perm.filter _).map _
  rcases FrameMuxStreamDecoder.acceptAll_perm _ (sentOn_closed distinct) decodedPerm with
    ⟨released, run, perStream⟩
  refine ⟨released, ?_, perStream⟩
  have delivered : [] ++ chunks.flatten = frameBytes arrivals ++ [] := by
    rw [List.nil_append, List.append_nil, cut]
  rw [FrameMuxStreamDecoder.readChunks_eq_readBytes FrameMuxStreamDecoder.incomplete_nil,
    FrameMuxStreamDecoder.readBytes_frameBytes fits rfl delivered
      FrameMuxStreamDecoder.incomplete_nil]
  simp only [FrameMuxStreamDecoder.new, run]

end StreamScript

/-- The stream an item belongs to; an error item belongs to none. -/
def itemStreamId : Item → Option UInt32
  | .ok frame => some frame.inner.streamId
  | .error _ => none

/-- Selecting the items of a stream selects its frames. -/
theorem filter_itemStreamId (released : List DecodedFrame) (streamId : UInt32) :
    ((released.map Except.ok).filter fun item => itemStreamId item = some streamId) =
      (released.filter fun frame => frame.inner.streamId = streamId).map Except.ok := by
  rw [List.filter_map]
  congr 2
  funext frame
  simp [itemStreamId]

/-- The sequence ids of a script count its frames, and its last frame alone is
an end frame. -/
theorem StreamScript.frames_in_sequence (script : StreamScript) :
    script.frames.map (fun frame => frame.seqId.toNat) = List.range script.frames.length ∧
      ∃ front last, script.frames = front ++ [last] ∧ last.kind = .end ∧
        ∀ frame ∈ front, frame.kind ≠ .end := by
  rcases script.frames_eq with ⟨payloads, last, framesEq, -, -, -, few, -⟩
  rw [framesEq]
  constructor
  · apply List.ext_getElem?
    intro i
    rw [List.getElem?_map]
    cases position : (streamFrames script.streamId payloads last)[i]? with
    | none =>
        have outOfRange := List.getElem?_eq_none_iff.mp position
        exact (List.getElem?_eq_none (by simpa using outOfRange)).symm
    | some frame =>
        obtain ⟨inRange, -⟩ := List.getElem?_eq_some_iff.mp position
        rw [List.getElem?_range inRange, Option.map_some,
          (getElem?_streamFrames position).2.1]
        rw [streamFrames_length] at inRange
        exact congrArg some (UInt32.toNat_ofNat_of_lt' (inRange.trans few))
  · refine ⟨_, _, rfl, rfl, ?_⟩
    intro frame member
    obtain ⟨i, position⟩ := List.mem_iff_getElem?.mp member
    obtain ⟨inRange, -⟩ := List.getElem?_eq_some_iff.mp position
    have inStream : (streamFrames script.streamId payloads last)[i]? = some frame := by
      rw [streamFrames, List.getElem?_append_left inRange, position]
    rw [framesFrom_length] at inRange
    exact fun isEnd => inRange.ne ((getElem?_streamFrames inStream).2.2.2.mp isEnd)

/-- Reassembly does not depend on the order of arrival: whatever permutation of
the frames of a family of streams is fed to one decoder, in whatever reads,
every stream comes out once, unchanged and in sequence, no error is produced,
and nothing is kept. -/
theorem reassembly_order_independent (scripts : List StreamScript)
    (distinct : (scripts.map StreamScript.streamId).Nodup) (arrivals : List Frame)
    (perm : arrivals.Perm (scripts.flatMap StreamScript.frames)) (chunks : List (List UInt8))
    (cut : chunks.flatten = frameBytes arrivals) :
    (∀ script ∈ scripts,
      ((FrameMuxStreamDecoder.new.readChunks chunks).1.filter fun item =>
          itemStreamId item = some script.streamId) =
        script.frames.map (fun frame => .ok ⟨frame, none⟩) ∧
      script.frames.map (fun frame => frame.seqId.toNat) = List.range script.frames.length ∧
      ∃ front last, script.frames = front ++ [last] ∧ last.kind = .end ∧
        ∀ frame ∈ front, frame.kind ≠ .end) ∧
    (∀ item ∈ (FrameMuxStreamDecoder.new.readChunks chunks).1, ∃ script ∈ scripts,
      ∃ frame ∈ script.frames, item = .ok ⟨frame, none⟩) ∧
    (FrameMuxStreamDecoder.new.readChunks chunks).2.streams = ∅ := by
  rcases StreamScript.readChunks_perm distinct perm cut with ⟨released, run, perStream⟩
  rw [run]
  refine ⟨?_, ?_, rfl⟩
  · intro script member
    refine ⟨?_, script.frames_in_sequence⟩
    rw [filter_itemStreamId, perStream, StreamScript.sentOn_eq distinct member, List.map_map]
    rfl
  · intro item itemMem
    rcases List.mem_map.mp itemMem with ⟨frame, frameMem, rfl⟩
    have sentMem : frame ∈ StreamScript.sentOn scripts frame.inner.streamId := by
      rw [← perStream]
      exact List.mem_filter.mpr ⟨frameMem, by simp⟩
    rcases List.mem_map.mp sentMem with ⟨sent, selected, rfl⟩
    rcases List.mem_flatMap.mp (List.mem_filter.mp selected).1 with ⟨script, member, ofScript⟩
    refine ⟨script, member, sent, ofScript, ?_⟩
    rw [Frame.decoded_eq (StreamScript.streamId_of_mem ofScript).2]

/-- Two streams, their five frames fed last to first in two reads. -/
theorem reassembly_order_independent_reversed :
    let first : StreamScript :=
      ⟨7, 2, [.writeBytes [1, 2, 3], .flush], by decide, by decide, by decide⟩
    let second : StreamScript := ⟨9, 4, [.writeBytes [4, 5, 6, 7, 8]], by decide, by decide,
      by decide⟩
    let bytes := frameBytes (first.frames ++ second.frames).reverse
    ((FrameMuxStreamDecoder.new.readChunks [bytes.take 20, bytes.drop 20]).1.filter fun item =>
        itemStreamId item = some 7) = first.frames.map (fun frame => .ok ⟨frame, none⟩) := by
  intro first second bytes
  have distinct : ([first, second].map StreamScript.streamId).Nodup := by decide
  have perm : (first.frames ++ second.frames).reverse.Perm
      ([first, second].flatMap StreamScript.frames) := by
    simpa using (List.reverse_perm (first.frames ++ second.frames))
  exact ((reassembly_order_independent [first, second] distinct _ perm
    [bytes.take 20, bytes.drop 20] (by simp [bytes])).1 first (by simp)).1

end Muxio.Framing
