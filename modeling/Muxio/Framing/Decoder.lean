import Muxio.Framing.Codec
import Muxio.Transition.Demux
import Muxio.Transition.Drain

/-!
# The multiplexing frame decoder

`FrameMuxStreamDecoder` gathers bytes, cuts complete frames off the front of
its buffer, and reorders the frames of every logical stream by sequence id.
The byte loop and the inner release loop are both instances of
`Muxio.Transition.exhaust`; the reassembly table is a demultiplexer keyed by
stream id.

Sequence numbers wrap modulo `2 ^ 32`, as release builds do.
-/

namespace Muxio.Framing

open Std
open Muxio.Transition

/-- What the decoder queues for its caller. -/
abbrev Item := Except FrameDecodeError DecodedFrame

/-- Reassembly state of one logical stream. -/
structure StreamReassembly where
  nextExpected : UInt32
  buffer : ExtTreeMap UInt32 DecodedFrame compare
  isCanceled : Bool
  isEnded : Bool

namespace StreamReassembly

/-- The entry created by the first frame of a stream. -/
def fresh : StreamReassembly := ⟨0, ∅, false, false⟩

/-- One iteration of the release loop: hand out the next expected frame. -/
def releaseNext : LoopBody StreamReassembly Item := fun stream =>
  match stream.buffer[stream.nextExpected]? with
  | none => none
  | some frame =>
      some ([.ok frame],
        { stream with
          buffer := stream.buffer.erase stream.nextExpected
          nextExpected := stream.nextExpected + 1 })

/-- Hand out every frame that is now in order. -/
def release (stream : StreamReassembly) : List Item × StreamReassembly :=
  exhaust releaseNext (fun state => state.buffer.size) stream

/-- Hold a frame until it is in order, and note an end frame. -/
def hold (stream : StreamReassembly) (frame : DecodedFrame) : StreamReassembly :=
  let stream := if frame.inner.kind = .end then { stream with isEnded := true } else stream
  { stream with buffer := stream.buffer.insert frame.inner.seqId frame }

/-- Take in one decoded frame of a stream whose table entry is given. -/
def accept : EntryStep StreamReassembly DecodedFrame Item := fun entry frame =>
  if (entry.map isCanceled).getD false then
    ([.ok { frame with decodeError := some .readAfterCancel }], entry)
  else if frame.inner.kind = .cancel then
    ([.ok { frame with decodeError := some .readAfterCancel }], none)
  else
    let released := ((entry.getD fresh).hold frame).release
    if released.2.isEnded && released.2.buffer.isEmpty then
      (released.1, none)
    else
      (released.1, some released.2)

end StreamReassembly

/-- Reassembly entries by stream id. -/
abbrev Streams := ExtTreeMap UInt32 StreamReassembly compare

/-- The decoder: bytes of an unfinished frame, and the streams being
reassembled. -/
structure FrameMuxStreamDecoder where
  buffer : List UInt8
  streams : Streams

namespace FrameMuxStreamDecoder

def new : FrameMuxStreamDecoder := ⟨[], ∅⟩

/-- Hand a decoded frame to the entry of its stream. -/
def acceptFrame (streams : Streams) (frame : DecodedFrame) : List Item × Streams :=
  let result := StreamReassembly.accept streams[frame.inner.streamId]? frame
  (result.1, setEntry streams frame.inner.streamId result.2)

/-- One iteration of the loop of `read_bytes`: cut one frame off the buffer. -/
def readFrame (w : Nat) : LoopBody FrameMuxStreamDecoder Item := fun decoder =>
  if decoder.buffer.length < frameLengthFieldSize then
    none
  else
    let len := FrameCodec.lengthField decoder.buffer
    let total := usizeAdd w frameHeaderSize len
    if decoder.buffer.length < total then
      none
    else
      match FrameCodec.decode w (decoder.buffer.take total) with
      | .ok frame =>
          let accepted := acceptFrame decoder.streams frame
          some (accepted.1, ⟨decoder.buffer.drop total, accepted.2⟩)
      | .error error =>
          some ([.error error], { decoder with buffer := decoder.buffer.drop total })

/-- Append bytes to the buffer. -/
def feed (decoder : FrameMuxStreamDecoder) (data : List UInt8) : FrameMuxStreamDecoder :=
  { decoder with buffer := decoder.buffer ++ data }

/-- Take in new bytes and return every item they complete. -/
def readBytes (decoder : FrameMuxStreamDecoder) (data : List UInt8) :
    List Item × FrameMuxStreamDecoder :=
  exhaust (readFrame usizeBits) (fun state => state.buffer.length) (decoder.feed data)

/-- Successive reads, with all items in order. -/
def readChunks (decoder : FrameMuxStreamDecoder) (chunks : List (List UInt8)) :
    List Item × FrameMuxStreamDecoder :=
  readAll (readFrame usizeBits) (fun state => state.buffer.length) feed decoder chunks

/-! ## The byte loop -/

/-- A buffer that does not yet hold a complete frame. -/
def Incomplete (buf : List UInt8) : Prop :=
  buf.length < frameLengthFieldSize ∨
    buf.length < frameHeaderSize + FrameCodec.lengthField buf

theorem incomplete_nil : Incomplete [] :=
  Or.inl (by simp)

theorem readFrame_eq_none_iff (decoder : FrameMuxStreamDecoder) :
    readFrame usizeBits decoder = none ↔ Incomplete decoder.buffer := by
  have total := FrameCodec.usizeAdd_lengthField decoder.buffer
  unfold readFrame Incomplete
  simp only [total]
  by_cases short : decoder.buffer.length < frameLengthFieldSize
  · rw [if_pos short]
    exact iff_of_true rfl (Or.inl short)
  · rw [if_neg short]
    by_cases partialFrame :
        decoder.buffer.length < frameHeaderSize + FrameCodec.lengthField decoder.buffer
    · rw [if_pos partialFrame]
      exact iff_of_true rfl (Or.inr partialFrame)
    · rw [if_neg partialFrame]
      refine iff_of_false ?_ (not_or.mpr ⟨short, partialFrame⟩)
      split
      · exact Option.some_ne_none _
      · exact Option.some_ne_none _

/-- The length of the frame at the front of a buffer. -/
def frameLength (buf : List UInt8) : Nat :=
  frameHeaderSize + FrameCodec.lengthField buf

theorem frameLength_le {buf : List UInt8} (complete : ¬ Incomplete buf) :
    frameLength buf ≤ buf.length :=
  Nat.le_of_not_lt (not_or.mp complete).2

/-- A complete buffer has the frame at its front decoded. -/
theorem readFrame_complete {decoder : FrameMuxStreamDecoder}
    (complete : ¬ Incomplete decoder.buffer) :
    readFrame usizeBits decoder =
      match FrameCodec.decode usizeBits (decoder.buffer.take (frameLength decoder.buffer)) with
      | .ok frame =>
          some ((acceptFrame decoder.streams frame).1,
            ⟨decoder.buffer.drop (frameLength decoder.buffer),
              (acceptFrame decoder.streams frame).2⟩)
      | .error error =>
          some ([.error error],
            ⟨decoder.buffer.drop (frameLength decoder.buffer), decoder.streams⟩) := by
  rw [Incomplete, not_or] at complete
  unfold readFrame
  simp only [FrameCodec.usizeAdd_lengthField, if_neg complete.1, if_neg complete.2]
  rfl

/-- What an iteration that runs does: it cuts a whole frame off the buffer, which is
accepted, or reported when it is no frame. -/
theorem readFrame_cases {decoder next : FrameMuxStreamDecoder} {out : List Item}
    (runs : readFrame usizeBits decoder = some (out, next)) :
    ¬ Incomplete decoder.buffer ∧
      next.buffer = decoder.buffer.drop (frameLength decoder.buffer) ∧
      ((∃ frame, FrameCodec.decode usizeBits
            (decoder.buffer.take (frameLength decoder.buffer)) = .ok frame ∧
          out = (acceptFrame decoder.streams frame).1 ∧
          next.streams = (acceptFrame decoder.streams frame).2) ∨
        ∃ error, FrameCodec.decode usizeBits
            (decoder.buffer.take (frameLength decoder.buffer)) = .error error ∧
          out = [.error error] ∧ next.streams = decoder.streams) := by
  have complete : ¬ Incomplete decoder.buffer := by
    rw [← readFrame_eq_none_iff, runs]
    exact Option.some_ne_none _
  refine ⟨complete, ?_⟩
  rw [readFrame_complete complete] at runs
  split at runs
  · rename_i frame decoded
    obtain ⟨rfl, rfl⟩ := Prod.mk.inj (Option.some.inj runs)
    exact ⟨rfl, .inl ⟨frame, decoded, rfl, rfl⟩⟩
  · rename_i error failed
    obtain ⟨rfl, rfl⟩ := Prod.mk.inj (Option.some.inj runs)
    exact ⟨rfl, .inr ⟨error, failed, rfl, rfl⟩⟩

/-- What a frame keeps of the streams, an iteration keeps. -/
theorem readFrame_streams (holds : Streams → Prop)
    (kept : ∀ streams frame, holds streams → holds (acceptFrame streams frame).2)
    {decoder next : FrameMuxStreamDecoder} {out : List Item}
    (runs : readFrame usizeBits decoder = some (out, next)) (before : holds decoder.streams) :
    holds next.streams := by
  obtain ⟨-, -, ⟨frame, -, -, streamsEq⟩ | ⟨error, -, -, streamsEq⟩⟩ := readFrame_cases runs
  · rw [streamsEq]
    exact kept _ frame before
  · rw [streamsEq]
    exact before

/-- What a frame keeps of the streams, a read keeps. -/
theorem readBytes_streams (holds : Streams → Prop)
    (kept : ∀ streams frame, holds streams → holds (acceptFrame streams frame).2)
    {decoder : FrameMuxStreamDecoder} (before : holds decoder.streams) (data : List UInt8) :
    holds (decoder.readBytes data).2.streams := by
  have start : holds (decoder.feed data).streams := before
  exact exhaust_invariant
    (fun _ _ _ runs => readFrame_streams holds kept runs) (fun state => state.buffer.length) start

theorem readFrame_decreasing :
    Decreasing (readFrame usizeBits) fun decoder => decoder.buffer.length := by
  intro decoder out next runs
  obtain ⟨complete, bufferEq, -⟩ := readFrame_cases runs
  have whole := frameLength_le complete
  simp only [bufferEq, List.length_drop, frameLength, frameHeaderSize] at whole ⊢
  omega

theorem frameLength_append {buf : List UInt8} (complete : ¬ Incomplete buf) (data : List UInt8) :
    frameLength (buf ++ data) = frameLength buf := by
  have long := Nat.le_of_not_lt (not_or.mp complete).1
  rw [frameLength, FrameCodec.lengthField_append buf data long, frameLength]

theorem complete_append {buf : List UInt8} (complete : ¬ Incomplete buf) (data : List UInt8) :
    ¬ Incomplete (buf ++ data) := by
  have whole := frameLength_le complete
  have same := frameLength_append complete data
  obtain ⟨long, -⟩ := not_or.mp complete
  rw [Incomplete, not_or, List.length_append]
  rw [frameLength] at same
  omega

theorem readFrame_stable : Stable (readFrame usizeBits) feed := by
  intro decoder out next runs data
  obtain ⟨complete, -, -⟩ := readFrame_cases runs
  have whole := frameLength_le complete
  have completeFed : ¬ Incomplete (decoder.feed data).buffer := complete_append complete data
  rw [readFrame_complete completeFed]
  rw [readFrame_complete complete] at runs
  simp only [feed, frameLength_append complete, List.take_append_of_le_length whole,
    List.drop_append_of_le_length whole]
  split at runs
  · simp only [Option.some.injEq, Prod.mk.injEq] at runs
    rcases runs with ⟨rfl, rfl⟩
    rfl
  · simp only [Option.some.injEq, Prod.mk.injEq] at runs
    rcases runs with ⟨rfl, rfl⟩
    rfl

@[simp]
theorem feed_nil (decoder : FrameMuxStreamDecoder) : decoder.feed [] = decoder := by
  simp [feed]

theorem feed_feed (decoder : FrameMuxStreamDecoder) (first second : List UInt8) :
    (decoder.feed first).feed second = decoder.feed (first ++ second) := by
  simp [feed, List.append_assoc]

/-- Reads cut anywhere return the items of one read of all the bytes. -/
theorem readChunks_eq_readBytes {decoder : FrameMuxStreamDecoder}
    (waiting : Incomplete decoder.buffer) (chunks : List (List UInt8)) :
    decoder.readChunks chunks = decoder.readBytes chunks.flatten := by
  exact readAll_eq_exhaust readFrame_decreasing readFrame_stable feed_nil feed_feed
    ((readFrame_eq_none_iff decoder).mpr waiting) chunks

/-- A decoder whose buffer already holds a complete frame differs only in that
it has to be called at all. -/
theorem readChunks_of_ne_nil (decoder : FrameMuxStreamDecoder) {chunks : List (List UInt8)}
    (nonempty : chunks ≠ []) : decoder.readChunks chunks = decoder.readBytes chunks.flatten :=
  readAll_of_ne_nil readFrame_decreasing readFrame_stable feed_nil feed_feed decoder nonempty

/-- Two ways of cutting the same bytes give the same items and leave the same
decoder, whatever the bytes are and from every state.  Making no call at all
counts as a cut only where no complete frame is waiting. -/
theorem items_independent_of_reads (decoder : FrameMuxStreamDecoder)
    (first second : List (List UInt8)) (sameBytes : first.flatten = second.flatten)
    (called : first ≠ [] ∧ second ≠ [] ∨ Incomplete decoder.buffer) :
    decoder.readChunks first = decoder.readChunks second := by
  rcases called with ⟨firstCalled, secondCalled⟩ | waiting
  · rw [readChunks_of_ne_nil decoder firstCalled, readChunks_of_ne_nil decoder secondCalled,
      sameBytes]
  · rw [readChunks_eq_readBytes waiting, readChunks_eq_readBytes waiting, sameBytes]

/-- A frame of an unknown kind and a cancel frame, cut inside the second length
field. -/
theorem items_independent_of_reads_corrupt :
    let bytes := [0, 0, 0, 0, 1, 0, 0, 0, 0, 0, 0, 0, 9, 0, 0, 0, 0, 1, 0, 0, 0, 5, 0, 0, 0, 3]
    (new.readChunks [bytes]).1 = (new.readChunks [bytes.take 15, [], bytes.drop 15]).1 ∧
      (new.readChunks [bytes]).2 = (new.readChunks [bytes.take 15, [], bytes.drop 15]).2 ∧
      (new.readChunks [bytes]).1 =
        [.error .corruptFrame, .ok ⟨⟨1, 5, .cancel, []⟩, some .readAfterCancel⟩] := by
  intro bytes
  have same := items_independent_of_reads new [bytes] [bytes.take 15, [], bytes.drop 15]
    (by decide) (.inl ⟨List.cons_ne_nil _ _, List.cons_ne_nil _ _⟩)
  exact ⟨congrArg Prod.fst same, congrArg Prod.snd same, by decide⟩

/-- After a read the buffer holds no complete frame. -/
theorem readBytes_incomplete (decoder : FrameMuxStreamDecoder) (data : List UInt8) :
    Incomplete (decoder.readBytes data).2.buffer :=
  (readFrame_eq_none_iff _).mp (exhaust_declines readFrame_decreasing _)

/-! ## From bytes to frames -/

/-- Run the reassembly table over decoded frames. -/
def acceptAll (streams : Streams) (frames : List DecodedFrame) : List Item × Streams :=
  let run := demux StreamReassembly.accept (fun frame => frame.inner.streamId) streams frames
  (run.1.map Prod.snd, run.2)

@[simp]
theorem acceptAll_nil (streams : Streams) : acceptAll streams [] = ([], streams) :=
  rfl

theorem acceptAll_cons (streams : Streams) (frame : DecodedFrame) (rest : List DecodedFrame) :
    acceptAll streams (frame :: rest) =
      ((acceptFrame streams frame).1 ++ (acceptAll (acceptFrame streams frame).2 rest).1,
        (acceptAll (acceptFrame streams frame).2 rest).2) := by
  simp [acceptAll, acceptFrame, demux_cons, List.map_map, Function.comp_def]

theorem acceptAll_append (streams : Streams) (first second : List DecodedFrame) :
    acceptAll streams (first ++ second) =
      ((acceptAll streams first).1 ++ (acceptAll (acceptAll streams first).2 second).1,
        (acceptAll (acceptAll streams first).2 second).2) := by
  simp [acceptAll, demux_append]

theorem complete_encode {frame : Frame} (fits : frame.payload.length < 2 ^ 32)
    (rest : List UInt8) : ¬ Incomplete (FrameCodec.encode frame ++ rest) := by
  have length := FrameCodec.encode_length frame
  rw [Incomplete, not_or, List.length_append, length, FrameCodec.lengthField_encode fits]
  simp only [frameHeaderSize, frameLengthFieldSize]
  omega

/-- A complete frame at the front of the buffer is decoded and accepted. -/
theorem readFrame_encode {frame : Frame} (fits : frame.payload.length < 2 ^ 32)
    (rest : List UInt8) (streams : Streams) :
    readFrame usizeBits ⟨FrameCodec.encode frame ++ rest, streams⟩ =
      some ((acceptFrame streams frame.decoded).1,
        ⟨rest, (acceptFrame streams frame.decoded).2⟩) := by
  have length := FrameCodec.encode_length frame
  have cut : frameLength (FrameCodec.encode frame ++ rest) =
      frameHeaderSize + frame.payload.length := by
    rw [frameLength, FrameCodec.lengthField_encode fits]
  rw [readFrame_complete (complete_encode fits rest)]
  simp only [cut, List.take_left' length, List.drop_left' length, FrameCodec.decode_encode fits]
  rfl

/-- Reading whole frames followed by an incomplete one is accepting the frames
in order. -/
theorem exhaust_frameBytes {frames : List Frame} (fits : Fits frames) {rest : List UInt8}
    (incomplete : Incomplete rest) (streams : Streams) :
    exhaust (readFrame usizeBits) (fun state => state.buffer.length)
        ⟨frameBytes frames ++ rest, streams⟩ =
      ((acceptAll streams (frames.map Frame.decoded)).1,
        ⟨rest, (acceptAll streams (frames.map Frame.decoded)).2⟩) := by
  induction frames generalizing streams with
  | nil =>
      exact exhaust_of_none _ ((readFrame_eq_none_iff ⟨rest, streams⟩).mpr incomplete)
  | cons frame others ih =>
      have frameFits := fits frame List.mem_cons_self
      have step := readFrame_encode frameFits (frameBytes others ++ rest) streams
      rw [frameBytes_cons, List.append_assoc, exhaust_of_some readFrame_decreasing step,
        ih fits.tail, List.map_cons, acceptAll_cons]

theorem readBytes_frameBytes {frames : List Frame} (fits : Fits frames) {front rest : List UInt8}
    {decoder : FrameMuxStreamDecoder} {data : List UInt8} (bufferEq : decoder.buffer = front)
    (deliveredEq : front ++ data = frameBytes frames ++ rest) (incomplete : Incomplete rest) :
    decoder.readBytes data =
      ((acceptAll decoder.streams (frames.map Frame.decoded)).1,
        ⟨rest, (acceptAll decoder.streams (frames.map Frame.decoded)).2⟩) := by
  have fed : decoder.feed data = ⟨frameBytes frames ++ rest, decoder.streams⟩ := by
    rw [← deliveredEq, ← bufferEq]
    rfl
  rw [readBytes, fed, exhaust_frameBytes fits incomplete]

/-- Reading one whole frame when nothing is buffered is accepting it. -/
theorem readBytes_encode {decoder : FrameMuxStreamDecoder} (boundary : decoder.buffer = [])
    {frame : Frame} (fits : frame.payload.length < 2 ^ 32) :
    decoder.readBytes (FrameCodec.encode frame) =
      ((acceptFrame decoder.streams frame.decoded).1,
        ⟨[], (acceptFrame decoder.streams frame.decoded).2⟩) := by
  have only : Fits [frame] := fun other member => List.mem_singleton.mp member ▸ fits
  have whole : [] ++ FrameCodec.encode frame = frameBytes [frame] ++ [] := by
    simp
  rw [readBytes_frameBytes only boundary whole incomplete_nil, List.map_singleton,
    acceptAll_cons, acceptAll_nil, List.append_nil]

/-- A proper part of an encoded frame is incomplete. -/
theorem incomplete_of_proper {frame : Frame} (fits : frame.payload.length < 2 ^ 32)
    {front back : List UInt8} (parts : front ++ back = FrameCodec.encode frame)
    (proper : back ≠ []) : Incomplete front := by
  by_cases short : front.length < frameLengthFieldSize
  · exact Or.inl short
  · right
    have field : FrameCodec.lengthField front = frame.payload.length := by
      rw [← FrameCodec.lengthField_append front back (Nat.le_of_not_lt short), parts]
      simpa using FrameCodec.lengthField_encode fits []
    have lengths := congrArg List.length parts
    have positive := List.length_pos_of_ne_nil proper
    rw [List.length_append, FrameCodec.encode_length] at lengths
    rw [field]
    omega

/-- A delivery of part of the bytes in flight completes some of the frames and
leaves the rest of the bytes for later deliveries. -/
theorem exists_delivered {pending : List Frame} (fits : Fits pending) {front back : List UInt8}
    (inFlight : front ++ back = frameBytes pending) :
    ∃ complete later unread, pending = complete ++ later ∧
      front = frameBytes complete ++ unread ∧ unread ++ back = frameBytes later ∧
      Incomplete unread := by
  induction pending generalizing front with
  | nil =>
      rcases List.append_eq_nil_iff.mp inFlight with ⟨rfl, rfl⟩
      exact ⟨[], [], [], rfl, rfl, rfl, incomplete_nil⟩
  | cons frame others ih =>
      have frameFits := fits frame List.mem_cons_self
      rw [frameBytes_cons] at inFlight
      rcases List.append_eq_append_iff.mp inFlight with
        ⟨missing, encodeEq, backEq⟩ | ⟨delivered, frontEq, othersEq⟩
      · by_cases whole : missing = []
        · subst whole
          rw [List.append_nil] at encodeEq
          rw [List.nil_append] at backEq
          exact ⟨[frame], others, [], rfl, by simp [encodeEq], by simpa using backEq,
            incomplete_nil⟩
        · refine ⟨[], frame :: others, front, rfl, rfl, ?_,
            incomplete_of_proper frameFits encodeEq.symm whole⟩
          rw [frameBytes_cons, backEq, ← List.append_assoc, ← encodeEq]
      · rcases ih fits.tail othersEq.symm with
          ⟨complete, later, unread, othersSplit, deliveredEq, laterEq, incomplete⟩
        refine ⟨frame :: complete, later, unread, by rw [othersSplit]; rfl, ?_, laterEq,
          incomplete⟩
        rw [frontEq, deliveredEq, frameBytes_cons, List.append_assoc]

end FrameMuxStreamDecoder

end Muxio.Framing
