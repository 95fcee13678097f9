import Muxio.Framing.Delivery

/-!
# Delivery in order

A transport that keeps bytes in order delivers the frames of each stream in
sequence, while frames of different streams mix.  The decoder then hands every
frame out in the read that completes it, whether or not its stream has ended.
-/

namespace Muxio.Framing

open Std
open Muxio.Transition

/-- What an encoder has emitted on a stream that is not canceled: chunks, and
the payload of the end frame once the stream has ended. -/
structure Emitted where
  payloads : List (List UInt8)
  last : Option (List UInt8)

namespace Emitted

/-- The frames emitted. -/
def frames (emitted : Emitted) (streamId : UInt32) : List Frame :=
  match emitted.last with
  | none => framesFrom streamId 0 .open emitted.payloads
  | some last => streamFrames streamId emitted.payloads last

/-- The bytes emitted. -/
def bytes (emitted : Emitted) : List UInt8 := emitted.payloads.flatten ++ emitted.last.getD []

theorem mem_frames {emitted : Emitted} {streamId : UInt32} {frame : Frame}
    (member : frame ∈ emitted.frames streamId) :
    frame.streamId = streamId ∧ frame.kind ≠ .cancel := by
  rcases emitted with ⟨payloads, last⟩
  cases last with
  | none =>
      have closed : frame ∈ streamFrames streamId payloads [] := List.mem_append_left _ member
      exact mem_streamFrames closed
  | some last => exact mem_streamFrames member

theorem frames_payloads (emitted : Emitted) (streamId : UInt32) :
    (emitted.frames streamId).map Frame.payload = emitted.payloads ++ emitted.last.toList := by
  rcases emitted with ⟨payloads, last⟩
  cases last with
  | none => simp [frames, framesFrom_payloads]
  | some last => simp [frames, streamFrames, framesFrom_payloads]

/-- The last frame emitted continues the sequence of those before it. -/
theorem frames_concat {emitted : Emitted} {streamId : UInt32} {front : List Frame} {frame : Frame}
    (framesEq : emitted.frames streamId = front ++ [frame]) :
    ∃ payloads, front = framesFrom streamId 0 .open payloads ∧
      frame.seqId = UInt32.ofNat payloads.length := by
  rcases emitted with ⟨payloads, last⟩
  cases last with
  | none =>
      rcases List.eq_nil_or_concat payloads with rfl | ⟨init, payload, rfl⟩
      · have impossible := congrArg List.length framesEq
        simp [frames, framesFrom] at impossible
      · have split := framesFrom_append streamId 0 .open init [payload]
        rw [← List.concat_eq_append] at split
        rcases List.append_inj' (split.symm.trans framesEq) rfl with ⟨frontEq, lastEq⟩
        refine ⟨init, frontEq.symm, ?_⟩
        rw [← (List.cons.inj lastEq).1]
        exact UInt32.zero_add _
  | some last =>
      rcases List.append_inj' framesEq rfl with ⟨frontEq, lastEq⟩
      refine ⟨payloads, frontEq.symm, ?_⟩
      rw [← (List.cons.inj lastEq).1]

theorem framesFrom_take (streamId seqId : UInt32) (kind : FrameKind)
    (payloads : List (List UInt8)) (count : Nat) :
    (framesFrom streamId seqId kind payloads).take count =
      framesFrom streamId seqId kind (payloads.take count) := by
  induction payloads generalizing seqId kind count with
  | nil => simp [framesFrom]
  | cons payload rest ih =>
      cases count with
      | zero => rfl
      | succ count => simp [framesFrom, ih]

/-- The first frames emitted are what had been emitted at an earlier time. -/
theorem exists_of_frames_append {emitted : Emitted} {streamId : UInt32} {front back : List Frame}
    (framesEq : emitted.frames streamId = front ++ back) :
    ∃ (earlier : Emitted) (later : List UInt8), front = earlier.frames streamId ∧
      emitted.bytes = earlier.bytes ++ later ∧
      (back = [] ∨ earlier.last.isSome → earlier = emitted ∧ later = []) := by
  have ofChunks : ∀ {payloads : List (List UInt8)} {rest : List Frame},
      framesFrom streamId 0 .open payloads = front ++ rest →
        front = framesFrom streamId 0 .open (payloads.take front.length) := by
    intro payloads rest chunksEq
    rw [← framesFrom_take, chunksEq, List.take_left]
  rcases emitted with ⟨payloads, last⟩
  cases last with
  | none =>
      refine ⟨⟨payloads.take front.length, none⟩, (payloads.drop front.length).flatten,
        ofChunks framesEq, ?_, ?_⟩
      · simp only [bytes, Option.getD_none, List.append_nil]
        rw [← List.flatten_append, List.take_append_drop]
      · rintro (rfl | impossible)
        · have lengths := congrArg List.length framesEq
          rw [List.append_nil, frames, framesFrom_length] at lengths
          rw [← lengths, List.take_length, List.drop_length]
          exact ⟨rfl, rfl⟩
        · contradiction
  | some last =>
      rcases List.eq_nil_or_concat back with rfl | ⟨others, final, rfl⟩
      · refine ⟨⟨payloads, some last⟩, [], ?_, (List.append_nil _).symm, fun _ => ⟨rfl, rfl⟩⟩
        rw [framesEq, List.append_nil]
      · rw [List.concat_eq_append, ← List.append_assoc] at framesEq
        rcases List.append_inj' framesEq rfl with ⟨chunksEq, -⟩
        refine ⟨⟨payloads.take front.length, none⟩,
          (payloads.drop front.length).flatten ++ last, ofChunks chunksEq, ?_, ?_⟩
        · simp only [bytes, Option.getD_none, Option.getD_some, List.append_nil]
          rw [← List.append_assoc, ← List.flatten_append, List.take_append_drop]
        · rintro (empty | impossible)
          · simp at empty
          · contradiction

end Emitted

/-- Frames in which every stream is in sequence. -/
def InOrder (frames : List Frame) : Prop :=
  ∀ streamId, ∃ emitted : Emitted,
    (frames.filter fun frame => frame.streamId = streamId) = emitted.frames streamId

namespace InOrder

theorem front {first second : List Frame} (inOrder : InOrder (first ++ second)) :
    InOrder first := by
  intro streamId
  rcases inOrder streamId with ⟨emitted, framesEq⟩
  rw [List.filter_append] at framesEq
  rcases Emitted.exists_of_frames_append framesEq.symm with ⟨earlier, -, firstEq, -⟩
  exact ⟨earlier, firstEq⟩

theorem notCancel {frames : List Frame} (inOrder : InOrder frames) {frame : Frame}
    (member : frame ∈ frames) : frame.kind ≠ .cancel := by
  rcases inOrder frame.streamId with ⟨emitted, framesEq⟩
  have selected : frame ∈ frames.filter fun other => other.streamId = frame.streamId :=
    List.mem_filter.mpr ⟨member, by simp⟩
  rw [framesEq] at selected
  exact (Emitted.mem_frames selected).2

theorem map_decoded {frames : List Frame} (inOrder : InOrder frames) :
    frames.map Frame.decoded = frames.map fun frame => ⟨frame, none⟩ :=
  List.map_congr_left fun _ member => Frame.decoded_eq (inOrder.notCancel member)

end InOrder

/-- Chunks in sequence are handed out as they arrive and leave a stream that is still open
caught up. -/
theorem runEntry_accept_framesFrom {streamId seqId : UInt32} {kind : FrameKind}
    (plain : kind ≠ .end ∧ kind ≠ .cancel) {entry : Option StreamReassembly}
    (caughtUp : entry.getD StreamReassembly.fresh = ⟨seqId, ∅, false, false⟩)
    (payloads : List (List UInt8)) :
    let frames := framesFrom streamId seqId kind payloads
    let run := runEntry StreamReassembly.accept entry (frames.map fun frame => ⟨frame, none⟩)
    run.1 = frames.map (fun frame => .ok ⟨frame, none⟩) ∧
      run.2.getD StreamReassembly.fresh =
        ⟨seqId + UInt32.ofNat payloads.length, ∅, false, false⟩ := by
  induction payloads generalizing seqId kind entry with
  | nil => simpa [framesFrom] using caughtUp
  | cons payload rest ih =>
      have accepted := @StreamReassembly.accept_next entry ⟨⟨streamId, seqId, kind, payload⟩, none⟩
        caughtUp plain.2
      have shifted : seqId + 1 + UInt32.ofNat rest.length =
          seqId + UInt32.ofNat (rest.length + 1) := by
        rw [UInt32.ofNat_add, add_assoc, add_comm (UInt32.ofNat rest.length)]
        rfl
      have continues : (some (⟨seqId + 1, ∅, false, false⟩ : StreamReassembly)).getD
          StreamReassembly.fresh = ⟨seqId + 1, ∅, false, false⟩ := rfl
      have dataFrame : FrameKind.data ≠ .end ∧ FrameKind.data ≠ .cancel :=
        ⟨FrameKind.noConfusion, FrameKind.noConfusion⟩
      obtain ⟨items, after⟩ := ih dataFrame continues
      dsimp only
      rw [framesFrom, List.map_cons, runEntry_cons, accepted, List.length_cons, ← shifted]
      simp only [if_neg plain.1]
      exact ⟨congrArg (_ :: ·) items, after⟩

/-- Before a frame arrives in order, its stream is caught up. -/
theorem InOrder.caughtUp {front : List Frame} {frame : Frame}
    (inOrder : InOrder (front ++ [frame])) :
    ((FrameMuxStreamDecoder.acceptAll ∅ (front.map Frame.decoded)).2[frame.streamId]?).getD
      StreamReassembly.fresh = ⟨frame.seqId, ∅, false, false⟩ := by
  rcases inOrder frame.streamId with ⟨emitted, framesEq⟩
  rw [List.filter_append, List.filter_cons_of_pos (by simp), List.filter_nil] at framesEq
  rcases Emitted.frames_concat framesEq.symm with ⟨payloads, frontEq, seqIdEq⟩
  have ofStream : (front.map Frame.decoded).filter (fun other =>
      other.inner.streamId = frame.streamId) =
        (framesFrom frame.streamId 0 .open payloads).map fun other => ⟨other, none⟩ := by
    rw [inOrder.front.map_decoded, List.filter_map, ← frontEq]
    rfl
  have entryEq := demux_entry StreamReassembly.accept
    (fun frame : DecodedFrame => frame.inner.streamId) ∅ (front.map Frame.decoded) frame.streamId
  rw [ExtTreeMap.getElem?_empty, ofStream] at entryEq
  rw [FrameMuxStreamDecoder.acceptAll]
  simp only
  rw [entryEq, (runEntry_accept_framesFrom ⟨FrameKind.noConfusion, FrameKind.noConfusion⟩ rfl
    payloads).2, seqIdEq]
  exact congrArg (fun seqId => (⟨seqId, ∅, false, false⟩ : StreamReassembly)) (UInt32.zero_add _)

/-- Frames in order are handed out as they arrive. -/
theorem InOrder.acceptAll {frames : List Frame} (inOrder : InOrder frames) :
    (FrameMuxStreamDecoder.acceptAll ∅ (frames.map Frame.decoded)).1 =
      frames.map fun frame => .ok ⟨frame, none⟩ := by
  induction frames using List.reverseRecOn with
  | nil => rfl
  | append_singleton front frame ih =>
      have decodedEq := Frame.decoded_eq
        (inOrder.notCancel (List.mem_append_right front (List.mem_singleton_self frame)))
      have accepted := @StreamReassembly.accept_next _ ⟨frame, none⟩ inOrder.caughtUp
        (inOrder.notCancel (List.mem_append_right front (List.mem_singleton_self frame)))
      rw [List.map_append, List.map_append, FrameMuxStreamDecoder.acceptAll_append,
        ih inOrder.front, List.map_singleton, decodedEq, FrameMuxStreamDecoder.acceptAll_cons,
        FrameMuxStreamDecoder.acceptFrame]
      simp [accepted]

/-- The same from the middle of a delivery. -/
theorem InOrder.acceptAll_later {done more : List Frame} (inOrder : InOrder (done ++ more)) :
    (FrameMuxStreamDecoder.acceptAll
        (FrameMuxStreamDecoder.acceptAll ∅ (done.map Frame.decoded)).2
        (more.map Frame.decoded)).1 = more.map fun frame => .ok ⟨frame, none⟩ := by
  have whole := inOrder.acceptAll
  rw [List.map_append, List.map_append, FrameMuxStreamDecoder.acceptAll_append,
    inOrder.front.acceptAll] at whole
  exact List.append_cancel_left whole

/-! ## Sequence ids past the wrap -/

/-- The frames whose last byte is among the first `count` bytes. -/
def completed : List Frame → Nat → List Frame
  | [], _ => []
  | frame :: rest, count =>
      if (FrameCodec.encode frame).length ≤ count then
        frame :: completed rest (count - (FrameCodec.encode frame).length)
      else
        []

theorem completed_eq (done : List Frame) {later : List Frame} (fits : Fits later)
    {unread back : List UInt8} (incomplete : FrameMuxStreamDecoder.Incomplete unread)
    (remaining : unread ++ back = frameBytes later) :
    completed (done ++ later) (frameBytes done ++ unread).length = done := by
  induction done with
  | nil =>
      cases later with
      | nil => rfl
      | cons frame others =>
          have short : ¬ (FrameCodec.encode frame).length ≤ unread.length := by
            intro long
            rw [frameBytes_cons] at remaining
            obtain ⟨more, unreadEq⟩ : FrameCodec.encode frame <+: unread :=
              List.prefix_of_prefix_length_le (List.prefix_append _ _)
                (remaining ▸ List.prefix_append _ _) long
            rw [← unreadEq] at incomplete
            exact FrameMuxStreamDecoder.complete_encode (fits frame List.mem_cons_self) more
              incomplete
          rw [List.nil_append, frameBytes_nil, List.nil_append, completed, if_neg short]
  | cons frame others ih =>
      have long : (FrameCodec.encode frame).length ≤
          (frameBytes (frame :: others) ++ unread).length := by
        rw [frameBytes_cons, List.append_assoc, List.length_append]
        exact Nat.le_add_right _ _
      have left : (frameBytes (frame :: others) ++ unread).length -
          (FrameCodec.encode frame).length = (frameBytes others ++ unread).length := by
        rw [frameBytes_cons, List.append_assoc, List.length_append, Nat.add_sub_cancel_left]
      rw [List.cons_append, completed, if_pos long, left, ih]

/-- The chunks of a stream that the decoder does not know are handed out as they arrive,
and the stream is left caught up. -/
theorem FrameMuxStreamDecoder.acceptAll_framesFrom {streams : Streams} {streamId : UInt32}
    (unknown : streams[streamId]? = none) (payloads : List (List UInt8)) :
    let frames := framesFrom streamId 0 .open payloads
    let run := acceptAll streams (frames.map Frame.decoded)
    run.1 = frames.map (fun frame => .ok ⟨frame, none⟩) ∧
      run.2[streamId]?.getD StreamReassembly.fresh =
        ⟨UInt32.ofNat payloads.length, ∅, false, false⟩ := by
  intro frames run
  have decodedEq : frames.map Frame.decoded = frames.map fun frame => ⟨frame, none⟩ :=
    List.map_congr_left fun _ member => Frame.decoded_eq (mem_framesFrom member).2
  have onlyOwn : ∀ frame ∈ frames.map Frame.decoded, frame.inner.streamId = streamId := by
    intro frame member
    rw [decodedEq] at member
    obtain ⟨sent, sentMem, rfl⟩ := List.mem_map.mp member
    exact (mem_streamFrames (List.mem_append_left _ sentMem :
      sent ∈ streamFrames streamId payloads [])).1
  have allOwn : ((frames.map Frame.decoded).filter fun frame =>
      frame.inner.streamId = streamId) = frames.map Frame.decoded :=
    List.filter_eq_self.mpr fun frame member => decide_eq_true (onlyOwn frame member)
  have caughtUp : streams[streamId]?.getD StreamReassembly.fresh = ⟨0, ∅, false, false⟩ := by
    rw [unknown]
    rfl
  obtain ⟨items, after⟩ := @runEntry_accept_framesFrom streamId 0 .open
    ⟨FrameKind.noConfusion, FrameKind.noConfusion⟩ _ caughtUp payloads
  rw [← decodedEq] at items after
  constructor
  · have outputs := demux_of_key StreamReassembly.accept streams onlyOwn
    have tagged : run.1 = (demux StreamReassembly.accept (fun frame => frame.inner.streamId)
      streams (frames.map Frame.decoded)).1.map Prod.snd := rfl
    rw [tagged, outputs, List.map_map]
    exact (List.map_id _).trans items
  · have entry := demux_entry StreamReassembly.accept
      (fun frame : DecodedFrame => frame.inner.streamId) streams (frames.map Frame.decoded) streamId
    rw [allOwn] at entry
    have stored : run.2[streamId]? =
      (runEntry StreamReassembly.accept streams[streamId]? (frames.map Frame.decoded)).2 := entry
    rw [stored, after, UInt32.zero_add]

/-- The same for the frames sent first. -/
theorem FrameMuxStreamDecoder.acceptAll_front {streams : Streams} {streamId : UInt32}
    (unknown : streams[streamId]? = none) {payloads : List (List UInt8)} {front back : List Frame}
    (split : framesFrom streamId 0 .open payloads = front ++ back) :
    let run := acceptAll streams (front.map Frame.decoded)
    run.1 = front.map (fun frame => .ok ⟨frame, none⟩) ∧
      run.2[streamId]?.getD StreamReassembly.fresh =
        ⟨UInt32.ofNat front.length, ∅, false, false⟩ := by
  have frontEq : front = framesFrom streamId 0 .open (payloads.take front.length) := by
    rw [← Emitted.framesFrom_take, split, List.take_left]
  have accepted := acceptAll_framesFrom unknown (payloads.take front.length)
  rw [← framesFrom_length streamId 0 .open (payloads.take front.length), ← frontEq] at accepted
  exact accepted

theorem fits_framesFrom {streamId seqId : UInt32} {kind : FrameKind} {payloads : List (List UInt8)}
    (small : ∀ payload ∈ payloads, payload.length < 2 ^ 32) :
    Fits (framesFrom streamId seqId kind payloads) := by
  intro frame member
  apply small
  rw [← framesFrom_payloads streamId seqId kind payloads]
  exact List.mem_map_of_mem member

/-- What a new encoder has sent is described by payloads that its sequence id counts. -/
theorem WriteOp.applyAll_new (streamId : UInt32) {maxChunkSize : Nat}
    (positive : 0 < maxChunkSize) (ops : List WriteOp) :
    let written := applyAll (FrameStreamEncoder.new streamId maxChunkSize) ops
    ∃ payloads, written.1 = framesFrom streamId 0 .open payloads ∧
      written.2.nextSeqId = UInt32.ofNat payloads.length ∧
      ∀ payload ∈ payloads, payload.length ≤ maxChunkSize := by
  intro written
  obtain ⟨payloads, kept, -, -, sizes, applied⟩ :=
    applyAll_eq (FrameStreamEncoder.new_isOpen streamId maxChunkSize) positive ops
      (show [].length = 0 % maxChunkSize by simp)
  refine ⟨payloads, congrArg Prod.fst applied, ?_, fun payload member => (sizes payload member).2⟩
  exact (congrArg (fun run => run.2.nextSeqId) applied).trans (UInt32.zero_add _)

/-- What reads of a part of the bytes of some frames do: the frames are accepted as they
become complete. -/
theorem FrameMuxStreamDecoder.reads_completed {frames : List Frame} (fits : Fits frames)
    (streams : Streams) {chunks : List (List UInt8)} {chunk inFlight : List UInt8}
    (sent : chunks.flatten ++ chunk ++ inFlight = frameBytes frames) :
    let earlier := (⟨[], streams⟩ : FrameMuxStreamDecoder).readChunks chunks
    let read := earlier.2.readBytes chunk
    ∃ done more rest, frames = done ++ more ++ rest ∧ (inFlight = [] → rest = []) ∧
      completed frames chunks.flatten.length = done ∧
      completed frames (chunks.flatten ++ chunk).length = done ++ more ∧
      earlier.1 = (acceptAll streams (done.map Frame.decoded)).1 ∧
      earlier.1 ++ read.1 = (acceptAll streams ((done ++ more).map Frame.decoded)).1 ∧
      read.2.streams = (acceptAll streams ((done ++ more).map Frame.decoded)).2 := by
  intro earlier read
  rw [List.append_assoc] at sent
  obtain ⟨done, later, unread, split, deliveredEq, laterEq, waiting⟩ := exists_delivered fits sent
  rw [split] at fits
  have laterEq' := laterEq
  rw [← List.append_assoc] at laterEq'
  obtain ⟨more, rest, partly, laterSplit, chunkEq, restEq, stillWaiting⟩ :=
    exists_delivered fits.right laterEq'
  have laterFits : Fits (more ++ rest) := laterSplit ▸ fits.right
  have earlierEq : earlier = ((acceptAll streams (done.map Frame.decoded)).1,
      ⟨unread, (acceptAll streams (done.map Frame.decoded)).2⟩) := by
    have boundary : Incomplete (⟨[], streams⟩ : FrameMuxStreamDecoder).buffer := incomplete_nil
    have fed : (⟨[], streams⟩ : FrameMuxStreamDecoder).buffer = [] := rfl
    have delivered : [] ++ chunks.flatten = frameBytes done ++ unread := deliveredEq
    exact (readChunks_eq_readBytes boundary chunks).trans
      (readBytes_frameBytes fits.left fed delivered waiting)
  have buffered : earlier.2.buffer = unread := by
    rw [earlierEq]
  have readEq := readBytes_frameBytes laterFits.left buffered chunkEq stillWaiting
  have streamsEq : earlier.2.streams = (acceptAll streams (done.map Frame.decoded)).2 := by
    rw [earlierEq]
  rw [streamsEq] at readEq
  refine ⟨done, more, rest, ?_, ?_, ?_, ?_, ?_, ?_, ?_⟩
  · rw [split, laterSplit, List.append_assoc]
  · intro nothing
    rw [nothing, List.append_nil] at restEq
    cases rest with
    | nil => rfl
    | cons frame others =>
        rw [restEq, frameBytes_cons] at stillWaiting
        exact absurd stillWaiting (complete_encode (laterFits.right frame List.mem_cons_self) _)
  · rw [split, deliveredEq, completed_eq done fits.right waiting laterEq]
  · have delivered : chunks.flatten ++ chunk = frameBytes (done ++ more) ++ partly := by
      rw [deliveredEq, List.append_assoc, chunkEq, frameBytes_append, List.append_assoc]
    rw [split, laterSplit, ← List.append_assoc, delivered,
      completed_eq (done ++ more) laterFits.right stillWaiting restEq]
  · rw [earlierEq]
  · rw [earlierEq, List.map_append, acceptAll_append]
    exact congrArg (_ ++ Prod.fst ·) readEq
  · rw [List.map_append, acceptAll_append]
    exact congrArg (fun result => result.2.streams) readEq

/-- An encoder and a decoder that receives its frames in order stay in lockstep, however
many frames have been sent.  Every read hands out the frames it completes, no frame waits
between reads, and the decoder expects the frame that the encoder sends next as soon as it
has received all earlier ones. -/
theorem sequence_ids_in_lockstep (streamId : UInt32) (maxChunkSize : Nat)
    (positive : 1 ≤ maxChunkSize) (bounded : maxChunkSize < 2 ^ 32) (ops : List WriteOp)
    (streams : Streams) (unknown : streams[streamId]? = none) (chunks : List (List UInt8))
    (chunk inFlight : List UInt8)
    (sent : chunks.flatten ++ chunk ++ inFlight =
      frameBytes (WriteOp.applyAll (FrameStreamEncoder.new streamId maxChunkSize) ops).1) :
    let written := WriteOp.applyAll (FrameStreamEncoder.new streamId maxChunkSize) ops
    let earlier := (⟨[], streams⟩ : FrameMuxStreamDecoder).readChunks chunks
    let read := earlier.2.readBytes chunk
    let before := completed written.1 chunks.flatten.length
    let after := completed written.1 (chunks.flatten ++ chunk).length
    let stream := read.2.streams[streamId]?.getD StreamReassembly.fresh
    earlier.1 = before.map (fun frame => .ok ⟨frame, none⟩) ∧ before <+: after ∧
      after <+: written.1 ∧
      read.1 = (after.drop before.length).map (fun frame => .ok ⟨frame, none⟩) ∧
      stream.buffer = ∅ ∧
      written.2.nextSeqId =
        stream.nextExpected + UInt32.ofNat (written.1.length - after.length) ∧
      (inFlight = [] → after = written.1 ∧ written.2.nextSeqId = stream.nextExpected) := by
  intro written earlier read before after stream
  obtain ⟨payloads, framesEq, seqIdEq, sizes⟩ := WriteOp.applyAll_new streamId positive ops
  have framesEq : written.1 = framesFrom streamId 0 .open payloads := framesEq
  have fits : Fits written.1 := by
    rw [framesEq]
    exact fits_framesFrom fun payload member => (sizes payload member).trans_lt bounded
  have seqIdEq : written.2.nextSeqId = UInt32.ofNat written.1.length := by
    rw [framesEq, framesFrom_length]
    exact seqIdEq
  obtain ⟨done, more, rest, split, allArrived, beforeEq, afterEq, earlierItems, readItems,
    streamsEq⟩ := FrameMuxStreamDecoder.reads_completed fits streams sent
  have beforeEq : before = done := beforeEq
  have afterEq : after = done ++ more := afterEq
  have doneItems := (FrameMuxStreamDecoder.acceptAll_front unknown
    (framesEq.symm.trans (split.trans (List.append_assoc _ _ _)))).1
  obtain ⟨moreItems, caughtUp⟩ := FrameMuxStreamDecoder.acceptAll_front unknown
    (framesEq.symm.trans split)
  have streamEq : stream = ⟨UInt32.ofNat (done ++ more).length, ∅, false, false⟩ := by
    rw [← caughtUp, ← streamsEq]
  have earlierEq : earlier.1 = done.map (fun frame => .ok ⟨frame, none⟩) :=
    earlierItems.trans doneItems
  refine ⟨beforeEq ▸ earlierEq, ?_, ?_, ?_, ?_, ?_, ?_⟩
  · rw [beforeEq, afterEq]
    exact List.prefix_append done more
  · rw [afterEq, split]
    exact List.prefix_append (done ++ more) rest
  · have items := readItems.trans moreItems
    rw [List.map_append, ← earlierEq] at items
    rw [afterEq, beforeEq, List.drop_left]
    exact List.append_cancel_left items
  · rw [streamEq]
  · have total : written.1.length = (done ++ more).length + rest.length := by
      rw [split, List.length_append]
    rw [seqIdEq, streamEq, afterEq, total, Nat.add_sub_cancel_left, UInt32.ofNat_add]
  · intro nothing
    have whole : written.1 = done ++ more := by
      rw [split, allArrived nothing, List.append_nil]
    refine ⟨afterEq.trans whole.symm, ?_⟩
    rw [seqIdEq, streamEq, whole]

/-- A stream cut into frames of two bytes, read up to the middle of its second frame and
then to its end. -/
theorem sequence_ids_in_lockstep_cut :
    let ops : List WriteOp := [.writeBytes [5, 6, 7], .flush]
    let bytes := frameBytes (WriteOp.applyAll (FrameStreamEncoder.new 1 2) ops).1
    let earlier := (⟨[], ∅⟩ : FrameMuxStreamDecoder).readChunks [bytes.take 20]
    earlier.1 = [.ok ⟨⟨1, 0, .open, [5, 6]⟩, none⟩] ∧
      (earlier.2.readBytes (bytes.drop 20)).1 = [.ok ⟨⟨1, 1, .data, [7]⟩, none⟩] ∧
      (WriteOp.applyAll (FrameStreamEncoder.new 1 2) ops).2.nextSeqId =
        ((earlier.2.readBytes (bytes.drop 20)).2.streams[(1 : UInt32)]?.getD
          StreamReassembly.fresh).nextExpected := by
  intro ops bytes earlier
  have unknown : (∅ : Streams)[(1 : UInt32)]? = none := ExtTreeMap.getElem?_empty
  have cut : [bytes.take 20].flatten ++ bytes.drop 20 ++ [] = bytes := by
    decide +kernel
  obtain ⟨first, -, -, second, -, -, inStep⟩ := sequence_ids_in_lockstep 1 2 (by decide) (by decide)
    ops ∅ unknown [bytes.take 20] (bytes.drop 20) [] cut
  have firstFrame : completed (WriteOp.applyAll (FrameStreamEncoder.new 1 2) ops).1
      [bytes.take 20].flatten.length = [⟨1, 0, .open, [5, 6]⟩] := by
    decide +kernel
  have bothFrames : completed (WriteOp.applyAll (FrameStreamEncoder.new 1 2) ops).1
      ([bytes.take 20].flatten ++ bytes.drop 20).length =
        [⟨1, 0, .open, [5, 6]⟩, ⟨1, 1, .data, [7]⟩] := by
    decide +kernel
  rw [firstFrame] at first second
  rw [bothFrames] at second
  refine ⟨first, second, ?_⟩
  simpa only [earlier] using (inStep rfl).2

end Muxio.Framing
