import Muxio.Framing.InOrder
import Muxio.Rpc.Calls

/-!
# One direction of a connection

The streams one end has opened, the frames it has put on the wire, and how many
bytes have been delivered.  Frames of one stream go out in the order of their
emission, frames of different streams in any order; bytes arrive in order, cut
anywhere.

A session that reads the bytes of such a link never fails, and what it has
delivered of a stream is determined by the frames of the stream that have arrived.
-/

namespace Muxio.Rpc

open Std
open Muxio.Framing
open Muxio.Transition

universe u

/-! ## Outgoing streams -/

/-- A chunk size that `FrameStreamEncoder` can work with. -/
structure ChunkSize where
  bytes : Nat
  positive : 0 < bytes
  bounded : bytes < 2 ^ 32

/-- How the encoder of a stream and the frames it has emitted come about: the
header, writes and flushes, and possibly the end. -/
inductive Streamed (header : RpcHeader) (streamId : UInt32) (maxChunkSize : Nat) :
    FrameStreamEncoder → List Frame → Prop
  | running (ops : List WriteOp) :
      Streamed header streamId maxChunkSize
        (WriteOp.applyAll (FrameStreamEncoder.new streamId maxChunkSize)
          (.writeBytes header.toBytes :: ops)).2
        (WriteOp.applyAll (FrameStreamEncoder.new streamId maxChunkSize)
          (.writeBytes header.toBytes :: ops)).1
  | ended (ops : List WriteOp) {encoder : FrameStreamEncoder} (closed : encoder.isEnded = true) :
      Streamed header streamId maxChunkSize encoder
        (WriteOp.emitStream streamId maxChunkSize (.writeBytes header.toBytes :: ops))

theorem applyAll_concat (encoder : FrameStreamEncoder) (ops : List WriteOp) (op : WriteOp) :
    WriteOp.applyAll encoder (ops ++ [op]) =
      ((WriteOp.applyAll encoder ops).1 ++ (op.apply (WriteOp.applyAll encoder ops).2).frames,
        (op.apply (WriteOp.applyAll encoder ops).2).encoder) := by
  rw [WriteOp.applyAll_append]
  simp only [WriteOp.applyAll, List.append_nil]

theorem writeError_of_ended {encoder : FrameStreamEncoder} (closed : encoder.isEnded = true) :
    ∃ error, encoder.writeError = some error := by
  unfold FrameStreamEncoder.writeError
  split
  · exact ⟨_, rfl⟩
  · exact ⟨_, rfl⟩

theorem applyAll_new_isOpen (streamId : UInt32) {maxChunkSize : Nat} (positive : 0 < maxChunkSize)
    (ops : List WriteOp) :
    (WriteOp.applyAll (FrameStreamEncoder.new streamId maxChunkSize) ops).2.IsOpen := by
  have isOpen := FrameStreamEncoder.new_isOpen streamId maxChunkSize
  rcases WriteOp.applyAll_eq isOpen positive ops (show [].length = 0 % maxChunkSize by simp) with
    ⟨payloads, rest, -, -, -, run⟩
  rw [run]
  exact isOpen.advance payloads rest

namespace Streamed

variable {header : RpcHeader} {streamId : UInt32} {maxChunkSize : Nat}
  {encoder : FrameStreamEncoder} {frames : List Frame}

/-- Writes and flushes continue a stream; after the end they do nothing. -/
theorem apply (streamed : Streamed header streamId maxChunkSize encoder frames) (op : WriteOp) :
    Streamed header streamId maxChunkSize (op.apply encoder).encoder
      (frames ++ (op.apply encoder).frames) := by
  cases streamed with
  | running ops =>
      have next : Streamed header streamId maxChunkSize _ _ := running (ops ++ [op])
      rw [← List.cons_append, applyAll_concat] at next
      exact next
  | ended ops closed =>
      rcases writeError_of_ended closed with ⟨error, refused⟩
      cases op with
      | writeBytes data =>
          simp only [WriteOp.apply, FrameStreamEncoder.writeBytes, refused, List.append_nil]
          exact ended ops closed
      | flush =>
          simp only [WriteOp.apply, FrameStreamEncoder.flush, refused, List.append_nil]
          exact ended ops closed

/-- The end closes a stream; after the end it does nothing. -/
theorem endStream (positive : 0 < maxChunkSize)
    (streamed : Streamed header streamId maxChunkSize encoder frames) :
    Streamed header streamId maxChunkSize encoder.endStream.encoder
      (frames ++ encoder.endStream.frames) := by
  cases streamed with
  | running ops =>
      have isOpen := applyAll_new_isOpen streamId positive (.writeBytes header.toBytes :: ops)
      apply ended ops
      simp only [FrameStreamEncoder.endStream, isOpen.writeError]
  | ended ops closed =>
      rcases writeError_of_ended closed with ⟨error, refused⟩
      simp only [FrameStreamEncoder.endStream, refused, List.append_nil]
      exact ended ops closed

/-- A message, complete or not, starts a stream. -/
theorem sendPayload (positive : 0 < maxChunkSize) (payload : Option (List UInt8))
    (isFinalized : Bool) :
    let sent := RpcStreamEncoder.sendPayload (openedStream streamId maxChunkSize header) payload
      isFinalized
    Streamed header streamId maxChunkSize sent.encoder sent.frames := by
  cases isFinalized with
  | false =>
      rcases continueWith_openedStream streamId positive header payload false with
        ⟨-, -, encoderEq, framesEq⟩
      simp only [sendPayload_eq, Bool.false_eq_true, if_false, encoderEq, framesEq]
      exact running (payloadOps payload false)
  | true =>
      rcases continueWith_openedStream streamId positive header payload true with
        ⟨⟨emitted, succeeded⟩, -, encoderEq, framesEq⟩
      have written : Streamed header streamId maxChunkSize _ _ :=
        running (payloadOps payload true)
      simp only [sendPayload_eq, if_true, EncoderOutcome.andThen_of_ok succeeded, encoderEq,
        framesEq]
      exact written.endStream positive

/-- Whatever a stream has emitted is in sequence, is the beginning of its bytes,
and fits the frame format; a stream that has ended has emitted all of its bytes. -/
theorem exists_emitted (positive : 0 < maxChunkSize) (bounded : maxChunkSize < 2 ^ 32)
    (streamed : Streamed header streamId maxChunkSize encoder frames) :
    ∃ (emitted : Emitted) (later data : List UInt8), frames = emitted.frames streamId ∧
      emitted.bytes ++ later = header.toBytes ++ data ∧
      (emitted.last.isSome → later = []) ∧ Fits frames := by
  have fits : ∀ {emitted : Emitted}, (∀ payload ∈ emitted.payloads ++ emitted.last.toList,
      payload.length ≤ maxChunkSize) → Fits (emitted.frames streamId) := by
    intro emitted short frame member
    have payloadMem := List.mem_map_of_mem (f := Frame.payload) member
    rw [Emitted.frames_payloads] at payloadMem
    exact (short _ payloadMem).trans_lt bounded
  cases streamed with
  | running ops =>
      rcases WriteOp.applyAll_eq (FrameStreamEncoder.new_isOpen streamId maxChunkSize) positive
        (.writeBytes header.toBytes :: ops) (show [].length = 0 % maxChunkSize by simp) with
        ⟨payloads, rest, dataEq, -, bounds, run⟩
      rw [run]
      refine ⟨⟨payloads, none⟩, rest, WriteOp.written ops, rfl, ?_, nofun, ?_⟩
      · simpa [Emitted.bytes, WriteOp.written, WriteOp.data, FrameStreamEncoder.new]
          using dataEq.symm
      · apply @fits ⟨payloads, none⟩
        intro payload member
        exact (bounds payload (by simpa using member)).2
  | ended ops closed =>
      rcases WriteOp.emitStream_eq streamId positive (.writeBytes header.toBytes :: ops) with
        ⟨payloads, last, framesEq, dataEq, lastLength, bounds⟩
      rw [framesEq]
      refine ⟨⟨payloads, some last⟩, [], WriteOp.written ops, rfl, ?_, fun _ => rfl, ?_⟩
      · simpa [Emitted.bytes, WriteOp.written, WriteOp.data] using dataEq.symm
      · apply @fits ⟨payloads, some last⟩
        intro payload member
        rcases List.mem_append.mp member with chunk | ending
        · exact (bounds payload chunk).2
        · rw [List.mem_singleton.mp ending, lastLength]
          exact (Nat.mod_lt _ positive).le

end Streamed

/-- A stream that one end has opened. -/
structure Outgoing where
  header : RpcHeader
  streamId : UInt32
  chunkSize : ChunkSize
  encoder : RpcStreamEncoder
  frames : List Frame
  streamed : Streamed header streamId chunkSize.bytes encoder frames

namespace Outgoing

/-- Write or flush. -/
def apply (outgoing : Outgoing) (op : WriteOp) : Outgoing :=
  { outgoing with
    encoder := (op.apply outgoing.encoder).encoder
    frames := outgoing.frames ++ (op.apply outgoing.encoder).frames
    streamed := outgoing.streamed.apply op }

/-- End the stream. -/
def endStream (outgoing : Outgoing) : Outgoing :=
  { outgoing with
    encoder := outgoing.encoder.endStream.encoder
    frames := outgoing.frames ++ outgoing.encoder.endStream.frames
    streamed := outgoing.streamed.endStream outgoing.chunkSize.positive }

end Outgoing

/-! ## What a receiver makes of a stream -/

namespace RpcHeader

/-- The header that the receiver of a stream reads.  The length field keeps the low
16 bits of the metadata length; the bytes beyond them are payload to the receiver. -/
def onWire (header : RpcHeader) : RpcHeader :=
  { header with
    rpcMetadataBytes :=
      header.rpcMetadataBytes.take (header.rpcMetadataBytes.length % 2 ^ 16) }

theorem onWire_fits (header : RpcHeader) : header.onWire.Fits := by
  have bounded := Nat.mod_lt header.rpcMetadataBytes.length (show 0 < 2 ^ 16 by decide)
  simp only [Fits, onWire, List.length_take]
  omega

theorem onWire_of_fits {header : RpcHeader} (fits : header.Fits) : header.onWire = header := by
  have small : header.rpcMetadataBytes.length % 2 ^ 16 = header.rpcMetadataBytes.length :=
    Nat.mod_eq_of_lt (Nat.lt_succ_of_le fits)
  rw [onWire, small, List.take_length]

theorem toBytes_eq_onWire (header : RpcHeader) :
    header.toBytes = header.onWire.toBytes ++
      header.rpcMetadataBytes.drop (header.rpcMetadataBytes.length % 2 ^ 16) := by
  have field : UInt16.ofNat header.onWire.rpcMetadataBytes.length =
      UInt16.ofNat header.rpcMetadataBytes.length := by
    have short := Nat.mod_le header.rpcMetadataBytes.length (2 ^ 16)
    rw [onWire, List.length_take, min_eq_left short]
    exact UInt16.toNat_inj.mp (by simp)
  simp only [toBytes, field, List.append_assoc]
  simp [onWire]

/-- The events of what has been emitted of a stream. -/
def emittedEvents (header : RpcHeader) (emitted : Emitted) : List RpcStreamEvent :=
  match emitted.last with
  | none => header.openEvents emitted.payloads
  | some last => header.closedEvents emitted.payloads last

theorem mem_emittedEvents {header : RpcHeader} {emitted : Emitted} {event : RpcStreamEvent}
    (member : event ∈ header.emittedEvents emitted) :
    event.isError = false ∧ event.requestId = some header.rpcRequestId ∧
      event.rpcHeader = some header := by
  unfold emittedEvents at member
  split at member
  · exact (mem_openEvents member).2
  · exact mem_closedEvents member

/-- Frames in sequence that carry the beginning of a stream decode to its events. -/
theorem runEntry_emitted {header : RpcHeader} (fits : header.Fits) {emitted : Emitted}
    {later data : List UInt8} (agrees : emitted.bytes ++ later = header.toBytes ++ data)
    (allSent : emitted.last.isSome → later = []) (streamId : UInt32) :
    (runEntry RpcSession.decodeEntry none ((emitted.frames streamId).map
      fun frame => ⟨frame, none⟩)).1 = header.emittedEvents emitted := by
  rcases emitted with ⟨payloads, last⟩
  cases last with
  | none =>
      rw [Emitted.bytes, Option.getD_none, List.append_nil] at agrees
      exact RpcSession.runEntry_framesFrom streamId fits agrees
  | some last =>
      rw [allSent rfl, List.append_nil] at agrees
      exact congrArg Prod.fst (RpcSession.runEntry_streamFrames streamId fits agrees)

end RpcHeader

/-- A stream that arrives in order on an unused id, in any reads. -/
theorem RpcSession.decodeChunks_emitted {session : RpcSession} {header : RpcHeader}
    (headerFits : header.Fits) {emitted : Emitted} {later data : List UInt8}
    (agrees : emitted.bytes ++ later = header.toBytes ++ data)
    (allSent : emitted.last.isSome → later = []) {streamId : UInt32}
    (fits : Fits (emitted.frames streamId))
    (idle : session.frameMuxStreamDecoder.buffer = [])
    (unusedMux : session.frameMuxStreamDecoder.streams[streamId]? = none)
    (unusedRpc : session.rpcStreamDecoders[streamId]? = none) {chunks : List (List UInt8)}
    (cut : chunks.flatten = frameBytes (emitted.frames streamId)) :
    (session.decodeChunks chunks).1 = header.emittedEvents emitted := by
  have onStream : ∀ frame ∈ (emitted.frames streamId).map
      fun frame => (⟨frame, none⟩ : DecodedFrame),
      frame.inner.streamId = streamId := by
    intro frame member
    obtain ⟨inner, innerMem, rfl⟩ := List.mem_map.mp member
    exact (Emitted.mem_frames innerMem).1
  have inOrder : InOrder (emitted.frames streamId) := by
    intro other
    by_cases same : streamId = other
    · subst same
      refine ⟨emitted, List.filter_eq_self.mpr fun frame member => ?_⟩
      exact decide_eq_true (Emitted.mem_frames member).1
    · refine ⟨⟨[], none⟩, List.filter_eq_nil_iff.mpr fun frame member => ?_⟩
      rw [(Emitted.mem_frames member).1, decide_eq_true_eq]
      exact same
  have inSequence : ∀ streams : Streams, streams[streamId]? = none →
      (FrameMuxStreamDecoder.acceptAll streams ((emitted.frames streamId).map Frame.decoded)).1 =
        (emitted.frames streamId).map fun frame => .ok ⟨frame, none⟩ := by
    intro streams unused
    rw [← inOrder.acceptAll, inOrder.map_decoded, FrameMuxStreamDecoder.acceptAll,
      FrameMuxStreamDecoder.acceptAll, demux_of_key _ _ onStream, demux_of_key _ _ onStream, unused,
      ExtTreeMap.getElem?_empty]
  have items : (session.frameMuxStreamDecoder.readChunks chunks).1 =
      ((emitted.frames streamId).map fun frame => ⟨frame, none⟩).map Except.ok := by
    have waiting : FrameMuxStreamDecoder.Incomplete session.frameMuxStreamDecoder.buffer := by
      rw [idle]
      exact FrameMuxStreamDecoder.incomplete_nil
    rw [FrameMuxStreamDecoder.readChunks_eq_readBytes waiting,
      FrameMuxStreamDecoder.readBytes_frameBytes fits idle (by rw [cut, List.append_nil]; rfl)
        FrameMuxStreamDecoder.incomplete_nil, inSequence _ unusedMux, List.map_map]
    rfl
  have events : (RpcSession.decodeAll session.rpcStreamDecoders
      (session.frameMuxStreamDecoder.readChunks chunks).1).1 = header.emittedEvents emitted := by
    rw [items, RpcSession.decodeAll_frames]
    dsimp only
    rw [demux_of_key _ _ onStream, unusedRpc, List.map_map,
      RpcHeader.runEntry_emitted headerFits agrees allSent]
    exact List.map_id _
  rw [RpcSession.decodeChunks_of_no_error]
  · exact events
  · rw [events]
    exact fun event member => (RpcHeader.mem_emittedEvents member).1

namespace Outgoing

theorem exists_emitted (outgoing : Outgoing) :
    ∃ (emitted : Emitted) (later data : List UInt8),
      outgoing.frames = emitted.frames outgoing.streamId ∧
      emitted.bytes ++ later = outgoing.header.onWire.toBytes ++ data ∧
      (emitted.last.isSome → later = []) ∧ Fits outgoing.frames := by
  rcases outgoing.streamed.exists_emitted outgoing.chunkSize.positive outgoing.chunkSize.bounded
    with ⟨emitted, later, data, framesEq, agrees, allSent, fits⟩
  rw [RpcHeader.toBytes_eq_onWire, List.append_assoc] at agrees
  exact ⟨emitted, later, _, framesEq, agrees, allSent, fits⟩

theorem streamId_of_mem {outgoing : Outgoing} {frame : Frame} (member : frame ∈ outgoing.frames) :
    frame.streamId = outgoing.streamId := by
  rcases outgoing.exists_emitted with ⟨emitted, -, -, framesEq, -⟩
  rw [framesEq] at member
  exact (Emitted.mem_frames member).1

/-- What has arrived of a stream decodes to events of its request. -/
theorem mem_runEntry {outgoing : Outgoing} {front : List Frame}
    (arrived : front <+: outgoing.frames)
    {event : RpcStreamEvent}
    (member : event ∈ (runEntry RpcSession.decodeEntry none
      (front.map fun frame => ⟨frame, none⟩)).1) :
    event.isError = false ∧ event.requestId = some outgoing.header.rpcRequestId ∧
      event.rpcHeader = some outgoing.header.onWire := by
  rcases outgoing.exists_emitted with ⟨emitted, later, data, framesEq, agrees, allSent, -⟩
  rcases arrived with ⟨back, split⟩
  rcases Emitted.exists_of_frames_append (framesEq.symm.trans split.symm) with
    ⟨earlier, missing, frontEq, bytesEq, whole⟩
  rw [bytesEq, List.append_assoc] at agrees
  have earlierSent : earlier.last.isSome → missing ++ later = [] := by
    intro ended
    rcases whole (.inr ended) with ⟨rfl, rfl⟩
    exact allSent ended
  rw [frontEq, RpcHeader.runEntry_emitted outgoing.header.onWire_fits agrees earlierSent] at member
  exact RpcHeader.mem_emittedEvents member

end Outgoing

/-! ## The wire -/

/-- One direction of a connection. -/
structure Link where
  /-- The streams the sender has opened. -/
  streams : List Outgoing
  /-- The frames put on the wire, in order. -/
  wire : List Frame
  /-- How many bytes of the wire the receiver has read. -/
  delivered : Nat

namespace Link

def new : Link := ⟨[], [], 0⟩

/-- Open a stream. -/
def opened (link : Link) (outgoing : Outgoing) : Link :=
  { link with streams := link.streams ++ [outgoing] }

/-- Go on with the stream of an id. -/
def change (link : Link) (streamId : UInt32) (continued : Outgoing → Outgoing) : Link :=
  { link with
    streams := link.streams.map fun outgoing =>
      if outgoing.streamId = streamId then continued outgoing else outgoing }

/-- The frames of a stream that are on the wire. -/
def sentOn (link : Link) (streamId : UInt32) : List Frame :=
  link.wire.filter fun frame => frame.streamId = streamId

/-- Put the next frame of a stream, if there is one, on the wire. -/
def send (link : Link) (streamId : UInt32) : Link :=
  match link.streams.find? fun outgoing => outgoing.streamId = streamId with
  | none => link
  | some outgoing =>
      match outgoing.frames[(link.sentOn streamId).length]? with
      | none => link
      | some frame => { link with wire := link.wire ++ [frame] }

/-- The bytes on the wire that have not been read. -/
def inFlight (link : Link) : List UInt8 := (frameBytes link.wire).drop link.delivered

/-- What a read of at most `count` bytes gets. -/
def chunk (link : Link) (count : Nat) : List UInt8 := link.inFlight.take count

def deliver (link : Link) (count : Nat) : Link :=
  { link with delivered := link.delivered + (link.chunk count).length }

theorem change_ids (link : Link) (streamId : UInt32) {continued : Outgoing → Outgoing}
    (sameId : ∀ outgoing, (continued outgoing).streamId = outgoing.streamId) :
    (link.change streamId continued).streams.map Outgoing.streamId =
      link.streams.map Outgoing.streamId := by
  rw [change, List.map_map]
  apply List.map_congr_left
  intro outgoing member
  simp only [Function.comp_apply]
  split
  · exact sameId outgoing
  · rfl

/-- The wire carries, of every stream, the first frames in order, and nothing else. -/
structure Sound (link : Link) : Prop where
  distinct : (link.streams.map Outgoing.streamId).Nodup
  inSequence : ∀ outgoing ∈ link.streams, link.sentOn outgoing.streamId <+: outgoing.frames
  known : ∀ frame ∈ link.wire, frame.streamId ∈ link.streams.map Outgoing.streamId
  within : link.delivered ≤ (frameBytes link.wire).length

theorem sound_new : Sound new :=
  ⟨List.nodup_nil, nofun, nofun, Nat.le_refl 0⟩

namespace Sound

variable {link : Link}

theorem sentOn_unknown (sound : Sound link) {streamId : UInt32}
    (unknown : streamId ∉ link.streams.map Outgoing.streamId) : link.sentOn streamId = [] := by
  apply List.filter_eq_nil_iff.mpr
  intro frame member same
  apply unknown
  rw [← of_decide_eq_true same]
  exact sound.known frame member

theorem opened (sound : Sound link) {outgoing : Outgoing}
    (fresh : outgoing.streamId ∉ link.streams.map Outgoing.streamId) :
    Sound (link.opened outgoing) := by
  constructor
  · rw [Link.opened, List.map_append]
    exact sound.distinct.append (List.nodup_singleton _) (by simpa using fresh)
  · intro other member
    rcases List.mem_append.mp member with early | late
    · exact sound.inSequence other early
    · rw [List.mem_singleton.mp late]
      have unsent := sound.sentOn_unknown fresh
      exact unsent ▸ List.nil_prefix
  · intro frame member
    rw [Link.opened, List.map_append]
    exact List.mem_append_left _ (sound.known frame member)
  · exact sound.within

theorem change (sound : Sound link) (streamId : UInt32) {continued : Outgoing → Outgoing}
    (sameId : ∀ outgoing, (continued outgoing).streamId = outgoing.streamId)
    (longer : ∀ outgoing, outgoing.frames <+: (continued outgoing).frames) :
    Sound (link.change streamId continued) := by
  have ids := link.change_ids streamId sameId
  constructor
  · rw [ids]
    exact sound.distinct
  · intro later member
    rcases List.mem_map.mp member with ⟨outgoing, earlier, rfl⟩
    split
    · rw [sameId]
      exact (sound.inSequence outgoing earlier).trans (longer outgoing)
    · exact sound.inSequence outgoing earlier
  · rw [ids]
    exact sound.known
  · exact sound.within

theorem exists_outgoing (sound : Sound link) {frame : Frame} (member : frame ∈ link.wire) :
    ∃ outgoing ∈ link.streams, frame ∈ outgoing.frames ∧
      outgoing.streamId = frame.streamId := by
  rcases List.mem_map.mp (sound.known frame member) with ⟨outgoing, outgoingMem, sameId⟩
  refine ⟨outgoing, outgoingMem, ?_, sameId⟩
  apply (sound.inSequence outgoing outgoingMem).subset
  exact List.mem_filter.mpr ⟨member, by simp [sameId]⟩

theorem fits (sound : Sound link) : Fits link.wire := by
  intro frame member
  rcases sound.exists_outgoing member with ⟨outgoing, -, frameMem, -⟩
  rcases outgoing.exists_emitted with ⟨-, -, -, -, -, -, fits⟩
  exact fits frame frameMem

theorem inOrder (sound : Sound link) : InOrder link.wire := by
  intro streamId
  by_cases known : streamId ∈ link.streams.map Outgoing.streamId
  · rcases List.mem_map.mp known with ⟨outgoing, member, rfl⟩
    rcases outgoing.exists_emitted with ⟨emitted, -, -, framesEq, -⟩
    rcases sound.inSequence outgoing member with ⟨unsent, split⟩
    rcases Emitted.exists_of_frames_append (framesEq.symm.trans split.symm) with
      ⟨earlier, -, sentEq, -⟩
    exact ⟨earlier, sentEq⟩
  · exact ⟨⟨[], none⟩, sound.sentOn_unknown known⟩

theorem send (sound : Sound link) (streamId : UInt32) : Sound (link.send streamId) := by
  unfold Link.send
  split
  · exact sound
  · rename_i outgoing found
    split
    · exact sound
    · rename_i frame next
      have member := List.mem_of_find?_eq_some found
      have sameId : outgoing.streamId = streamId := by
        simpa using List.find?_some found
      have frameId : frame.streamId = streamId :=
        (Outgoing.streamId_of_mem (List.mem_of_getElem? next)).trans sameId
      constructor
      · exact sound.distinct
      · intro other otherMem
        have sequence := sound.inSequence other otherMem
        simp only [sentOn, List.filter_append] at sequence ⊢
        by_cases selected : other.streamId = streamId
        · have same : other = outgoing :=
            List.inj_on_of_nodup_map sound.distinct otherMem member (selected.trans sameId.symm)
          subst same
          rcases sequence with ⟨unsent, split⟩
          have nextUnsent : unsent[0]? = some frame := by
            rw [← split, sentOn, ← sameId, List.getElem?_append_right (Nat.le_refl _)] at next
            simpa using next
          rcases List.head?_eq_some_iff.mp (List.head?_eq_getElem? ▸ nextUnsent) with
            ⟨rest, rfl⟩
          refine ⟨rest, ?_⟩
          rw [← split, List.filter_cons_of_pos (by simp [frameId, selected])]
          simp
        · rw [List.filter_cons_of_neg (by simpa [frameId] using Ne.symm selected)]
          simpa using sequence
      · intro other otherMem
        rcases List.mem_append.mp otherMem with early | late
        · exact sound.known other early
        · rw [List.mem_singleton.mp late, frameId, ← sameId]
          exact List.mem_map_of_mem member
      · rw [frameBytes_append, List.length_append]
        exact sound.within.trans (Nat.le_add_right _ _)

theorem deliver (sound : Sound link) (count : Nat) : Sound (link.deliver count) := by
  refine ⟨sound.distinct, sound.inSequence, sound.known, ?_⟩
  have within := sound.within
  simp only [Link.deliver, chunk, inFlight, List.length_take, List.length_drop]
  omega

end Sound

/-! ## The receiver -/

/-- What a fresh session makes of frames that arrive in order. -/
def decodeFrames (frames : List Frame) : List (UInt32 × RpcStreamEvent) × Decoders :=
  demux RpcSession.decodeEntry (fun frame => frame.inner.streamId) ∅
    (frames.map fun frame => ⟨frame, none⟩)

/-- A session that has received some frames of a link whole and holds the first
bytes of another. -/
structure Arrived (link : Link) (session : RpcSession) (complete later : List Frame)
    (unread : List UInt8) : Prop where
  wire : link.wire = complete ++ later
  pending : unread ++ link.inFlight = frameBytes later
  waiting : FrameMuxStreamDecoder.Incomplete unread
  mux : session.frameMuxStreamDecoder =
    ⟨unread, (FrameMuxStreamDecoder.acceptAll ∅ (complete.map Frame.decoded)).2⟩
  decoders : session.rpcStreamDecoders = (decodeFrames complete).2

variable {link : Link} {session : RpcSession} {complete later : List Frame} {unread : List UInt8}

theorem arrived_new (idSpace : IdSpace) (handedOut : Nat) :
    Arrived new (RpcSession.new idSpace handedOut).1 [] [] [] :=
  ⟨rfl, rfl, FrameMuxStreamDecoder.incomplete_nil, rfl, rfl⟩

theorem send_wire (link : Link) (streamId : UInt32) :
    ∃ more, (link.send streamId).wire = link.wire ++ more := by
  unfold Link.send
  split
  · exact ⟨[], (List.append_nil _).symm⟩
  · split
    · exact ⟨[], (List.append_nil _).symm⟩
    · exact ⟨_, rfl⟩

@[simp]
theorem send_streams (link : Link) (streamId : UInt32) :
    (link.send streamId).streams = link.streams := by
  unfold Link.send
  split
  · rfl
  · split <;> rfl

@[simp]
theorem send_delivered (link : Link) (streamId : UInt32) :
    (link.send streamId).delivered = link.delivered := by
  unfold Link.send
  split
  · rfl
  · split <;> rfl

/-- Frames put on the wire later do not matter to what has arrived. -/
theorem Arrived.more {after : Link} {more : List Frame}
    (arrived : Arrived link session complete later unread) (sound : Sound link)
    (wireEq : after.wire = link.wire ++ more) (deliveredEq : after.delivered = link.delivered) :
    Arrived after session complete (later ++ more) unread := by
  refine ⟨?_, ?_, arrived.waiting, arrived.mux, arrived.decoders⟩
  · rw [wireEq, arrived.wire, List.append_assoc]
  · rw [inFlight, wireEq, deliveredEq, frameBytes_append,
      List.drop_append_of_le_length sound.within, frameBytes_append, ← arrived.pending,
      List.append_assoc]
    rfl

/-- Only the two decoders of a session matter to what has arrived. -/
theorem Arrived.of_decoders {other : RpcSession}
    (arrived : Arrived link session complete later unread)
    (sameMux : other.frameMuxStreamDecoder = session.frameMuxStreamDecoder)
    (sameDecoders : other.rpcStreamDecoders = session.rpcStreamDecoders) :
    Arrived link other complete later unread :=
  ⟨arrived.wire, arrived.pending, arrived.waiting, sameMux.trans arrived.mux,
    sameDecoders.trans arrived.decoders⟩

/-- The events of one stream come from its frames alone. -/
theorem decodeFrames_stream (frames : List Frame) (streamId : UInt32) :
    ((decodeFrames frames).1.filter fun output => output.1 = streamId) =
      (runEntry RpcSession.decodeEntry none
        ((frames.filter fun frame => frame.streamId = streamId).map
          fun frame => ⟨frame, none⟩)).1.map (Prod.mk streamId) := by
  have outputs := demux_outputs RpcSession.decodeEntry
    (fun frame : DecodedFrame => frame.inner.streamId) ∅
    (frames.map fun frame => ⟨frame, none⟩) streamId
  rw [ExtTreeMap.getElem?_empty, List.filter_map] at outputs
  exact outputs

theorem decodeFrames_append (first second : List Frame) :
    decodeFrames (first ++ second) =
      ((decodeFrames first).1 ++ (demux RpcSession.decodeEntry
          (fun frame => frame.inner.streamId) (decodeFrames first).2
          (second.map fun frame => ⟨frame, none⟩)).1,
        (demux RpcSession.decodeEntry (fun frame => frame.inner.streamId) (decodeFrames first).2
          (second.map fun frame => ⟨frame, none⟩)).2) := by
  rw [decodeFrames, List.map_append, demux_append]
  rfl

/-- What has arrived of a stream is the beginning of what was emitted. -/
theorem Sound.arrived_prefix (sound : Sound link) (split : link.wire = complete ++ later)
    {outgoing : Outgoing} (member : outgoing ∈ link.streams) :
    (complete.filter fun frame => frame.streamId = outgoing.streamId) <+: outgoing.frames := by
  have sequence := sound.inSequence outgoing member
  rw [sentOn, split, List.filter_append] at sequence
  exact (List.prefix_append _ _).trans sequence

/-- The events a session has delivered are those of the streams opened. -/
theorem Sound.mem_decodeFrames (sound : Sound link) (split : link.wire = complete ++ later)
    {streamId : UInt32} {event : RpcStreamEvent}
    (member : (streamId, event) ∈ (decodeFrames complete).1) :
    ∃ outgoing ∈ link.streams, outgoing.streamId = streamId ∧ event.isError = false ∧
      event.requestId = some outgoing.header.rpcRequestId ∧
      event.rpcHeader = some outgoing.header.onWire := by
  have selected : (streamId, event) ∈ (decodeFrames complete).1.filter
      fun output => output.1 = streamId := List.mem_filter.mpr ⟨member, by simp⟩
  rw [decodeFrames_stream] at selected
  rcases List.mem_map.mp selected with ⟨found, eventMem, same⟩
  rw [(Prod.mk.inj same).2] at eventMem
  by_cases known : streamId ∈ link.streams.map Outgoing.streamId
  · rcases List.mem_map.mp known with ⟨outgoing, outgoingMem, rfl⟩
    have arrived := sound.arrived_prefix split outgoingMem
    exact ⟨outgoing, outgoingMem, rfl, Outgoing.mem_runEntry arrived eventMem⟩
  · have nothing := sound.sentOn_unknown known
    rw [sentOn, split, List.filter_append] at nothing
    rw [(List.append_eq_nil_iff.mp nothing).1] at eventMem
    contradiction

/-- Frames that arrive in order are decoded without error. -/
theorem Sound.decodeItems_later {more : List Frame} (sound : Sound link)
    (split : link.wire = complete ++ more ++ later) :
    ∃ events, RpcSession.decodeItems (decodeFrames complete).2
        (more.map fun frame => .ok ⟨frame, none⟩) =
          (events, .ok (), (decodeFrames (complete ++ more)).2) ∧
      (decodeFrames (complete ++ more)).1.map Prod.snd =
        (decodeFrames complete).1.map Prod.snd ++ events := by
  have asItems : (more.map fun frame => (.ok ⟨frame, none⟩ : Item)) =
      (more.map fun frame => ⟨frame, none⟩).map Except.ok := by
    rw [List.map_map]
    rfl
  have decoded := RpcSession.decodeAll_frames (decodeFrames complete).2
    (more.map fun frame => ⟨frame, none⟩)
  have noError : ∀ event ∈ (RpcSession.decodeAll (decodeFrames complete).2
      ((more.map fun frame => ⟨frame, none⟩).map Except.ok)).1, event.isError = false := by
    intro event member
    rw [decoded] at member
    rcases List.mem_map.mp member with ⟨output, outputMem, rfl⟩
    have inHistory : output ∈ (decodeFrames (complete ++ more)).1 := by
      rw [decodeFrames_append]
      exact List.mem_append_right _ outputMem
    rcases sound.mem_decodeFrames split inHistory with ⟨-, -, -, noError, -⟩
    exact noError
  refine ⟨(RpcSession.decodeAll (decodeFrames complete).2
    ((more.map fun frame => ⟨frame, none⟩).map Except.ok)).1, ?_, ?_⟩
  · rw [asItems, RpcSession.decodeItems_of_no_error noError, decoded, decodeFrames_append]
  · rw [decodeFrames_append, List.map_append, decoded]

theorem chunk_append_inFlight (link : Link) (count : Nat) :
    link.chunk count ++ (link.deliver count).inFlight = link.inFlight := by
  have rest : (link.deliver count).inFlight = link.inFlight.drop count := by
    rw [inFlight, deliver, ← List.drop_drop]
    change link.inFlight.drop (link.chunk count).length = link.inFlight.drop count
    rw [chunk, List.length_take]
    rcases Nat.le_total count link.inFlight.length with within | beyond
    · rw [min_eq_left within]
    · rw [min_eq_right beyond, List.drop_length, List.drop_eq_nil_of_le beyond]
  rw [rest]
  exact List.take_append_drop count link.inFlight

/-- A read takes some further frames whole; it never fails, and the session then
stands where the frames received so far put it. -/
theorem Arrived.deliver (arrived : Arrived link session complete later unread)
    (sound : Sound link) (count : Nat) :
    ∃ more later' unread',
      Arrived (link.deliver count) (session.decodeBytes (link.chunk count)).2.2
        (complete ++ more) later' unread' ∧
      (session.decodeBytes (link.chunk count)).2.1 = .ok () ∧
      (decodeFrames (complete ++ more)).1.map Prod.snd =
        (decodeFrames complete).1.map Prod.snd ++
          (session.decodeBytes (link.chunk count)).1 := by
  have fits := sound.fits
  have inOrder := sound.inOrder
  have pending := arrived.pending
  rw [← chunk_append_inFlight link count, ← List.append_assoc] at pending
  rw [arrived.wire] at fits inOrder
  rcases FrameMuxStreamDecoder.exists_delivered fits.right pending with
    ⟨more, later', unread', laterEq, chunkEq, pending', waiting'⟩
  have moreFits : Fits more := (laterEq ▸ fits.right : Fits (more ++ later')).left
  have split : link.wire = complete ++ more ++ later' := by
    rw [arrived.wire, laterEq, List.append_assoc]
  rw [laterEq, ← List.append_assoc] at inOrder
  have bufferEq : session.frameMuxStreamDecoder.buffer = unread := by rw [arrived.mux]
  have frames := FrameMuxStreamDecoder.readBytes_frameBytes moreFits bufferEq chunkEq waiting'
  rw [arrived.mux] at frames
  simp only at frames
  rw [inOrder.front.acceptAll_later] at frames
  rcases sound.decodeItems_later split with ⟨events, decoded, eventsEq⟩
  have read : session.decodeBytes (link.chunk count) =
      (events, .ok (), { session with
        frameMuxStreamDecoder :=
          ⟨unread', (FrameMuxStreamDecoder.acceptAll ∅ ((complete ++ more).map Frame.decoded)).2⟩
        rpcStreamDecoders := (decodeFrames (complete ++ more)).2 }) := by
    rw [RpcSession.decodeBytes, arrived.mux, frames, arrived.decoders]
    simp only
    rw [decoded, List.map_append, FrameMuxStreamDecoder.acceptAll_append]
  refine ⟨more, later', unread', ?_, ?_, ?_⟩
  · rw [read]
    exact ⟨split, pending', waiting', rfl, rfl⟩
  · rw [read]
  · rw [read, eventsEq]

end Link

end Muxio.Rpc
