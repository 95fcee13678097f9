import Muxio.Rpc.Messages
import Muxio.Service.StreamedResponses

/-!
# Messages on one stream

A sender that flushes after every message keeps the boundaries of its messages on the
wire: no frame carries bytes of two of them, and only a message longer than the chunk
size is cut.  What the receiver hears of such a stream is the list of these pieces.
-/

namespace Muxio.Framing

open Muxio.Transition

/-- Cut one piece off a message. -/
def cutPiece (size : Nat) : LoopBody (List UInt8) (List UInt8) := fun message =>
  if message.isEmpty then none else some ([message.take size], message.drop size)

/-- A message in pieces of the given size; the last one may be shorter. -/
def inPieces (size : Nat) (message : List UInt8) : List (List UInt8) :=
  (exhaust (cutPiece size) List.length message).1

section Pieces

variable {size : Nat} (positive : 0 < size)
include positive

theorem cutPiece_decreasing : Decreasing (cutPiece size) List.length := by
  intro message out rest cuts
  unfold cutPiece at cuts
  split at cuts
  · contradiction
  · rename_i nonempty
    cases cuts
    have some := List.length_pos_iff.mpr fun empty => nonempty (List.isEmpty_iff.mpr empty)
    rw [List.length_drop]
    omega

theorem inPieces_cons {message : List UInt8} (nonempty : message ≠ []) :
    inPieces size message = message.take size :: inPieces size (message.drop size) := by
  have cuts : cutPiece size message = some ([message.take size], message.drop size) :=
    if_neg fun empty => nonempty (List.isEmpty_iff.mp empty)
  rw [inPieces, exhaust_of_some (cutPiece_decreasing positive) cuts]
  rfl

/-- The pieces of a message make it up. -/
theorem inPieces_flatten (message : List UInt8) : (inPieces size message).flatten = message := by
  induction message using exhaust_induction (cutPiece_decreasing positive) with
  | declined message declines =>
      have empty : message = [] := by
        by_contra nonempty
        rw [cutPiece, if_neg fun empty => nonempty (List.isEmpty_iff.mp empty)] at declines
        contradiction
      rw [empty]
      rfl
  | iterated message out rest cuts ih =>
      unfold cutPiece at cuts
      split at cuts
      · contradiction
      · rename_i nonempty
        cases cuts
        rw [inPieces_cons positive fun empty => nonempty (List.isEmpty_iff.mpr empty),
          List.flatten_cons, ih, List.take_append_drop]

theorem flatMap_inPieces_flatten (messages : List (List UInt8)) :
    (messages.flatMap (inPieces size)).flatten = messages.flatten := by
  induction messages with
  | nil => rfl
  | cons message rest ih =>
      rw [List.flatMap_cons, List.flatten_append, inPieces_flatten positive, ih, List.flatten_cons]

/-- Full pieces and what is left of the message. -/
theorem inPieces_full {full : List (List UInt8)} {rest : List UInt8}
    (fullLength : ∀ piece ∈ full, piece.length = size) (short : rest.length < size) :
    inPieces size (full.flatten ++ rest) = full ++ if rest = [] then [] else [rest] := by
  induction full with
  | nil =>
      split
      · rename_i empty
        rw [empty]
        rfl
      · rename_i nonempty
        rw [List.flatten_nil, List.nil_append, inPieces_cons positive nonempty,
          List.take_of_length_le short.le, List.drop_of_length_le short.le]
        rfl
  | cons piece others ih =>
      have length := fullLength piece List.mem_cons_self
      have nonempty : piece ++ (others.flatten ++ rest) ≠ [] := by
        intro empty
        rw [(List.append_eq_nil_iff.mp empty).1] at length
        exact positive.ne length
      rw [List.flatten_cons, List.append_assoc, inPieces_cons positive nonempty, ← length,
        List.take_left, List.drop_left, length,
        ih fun other member => fullLength other (List.mem_cons_of_mem _ member)]
      rfl

/-- A short message is one piece. -/
theorem inPieces_short {message : List UInt8} (nonempty : message ≠ [])
    (short : message.length ≤ size) : inPieces size message = [message] := by
  rw [inPieces_cons positive nonempty, List.take_of_length_le short, List.drop_of_length_le short]
  rfl

end Pieces

/-! ## Flushed messages -/

namespace FrameStreamEncoder

variable {encoder : FrameStreamEncoder}

/-- Writing and flushing puts everything that was to be sent into frames. -/
theorem applyAll_flushed (isOpen : encoder.IsOpen) (positive : 0 < encoder.maxChunkSize)
    (message : List UInt8) :
    WriteOp.applyAll encoder [.writeBytes message, .flush] =
      (framesFrom encoder.streamId encoder.nextSeqId encoder.nextKind
          (inPieces encoder.maxChunkSize (encoder.buffer ++ message)),
        encoder.advance (inPieces encoder.maxChunkSize (encoder.buffer ++ message)) []) := by
  rcases exhaust_writeChunk positive { encoder with buffer := encoder.buffer ++ message } with
    ⟨full, rest, bufferEq, restLength, fullLength, loopEq⟩
  have short : rest.length < encoder.maxChunkSize := restLength ▸ Nat.mod_lt _ positive
  have written : encoder.writeBytes message =
      ⟨.ok (emittedBytes (framesFrom encoder.streamId encoder.nextSeqId encoder.nextKind full)),
        framesFrom encoder.streamId encoder.nextSeqId encoder.nextKind full,
        encoder.advance full rest⟩ := by
    rw [writeBytes, isOpen.writeError]
    simp only [loopEq]
    rfl
  have stillOpen := (isOpen.advance full rest).writeError
  have pieces := inPieces_full positive fullLength short
  rw [← bufferEq] at pieces
  rw [pieces]
  simp only [WriteOp.applyAll, WriteOp.apply, written, List.append_nil]
  by_cases empty : rest = []
  · have nothing : (encoder.advance full rest).flush = ⟨.ok 0, [], encoder.advance full rest⟩ := by
      rw [flush, stillOpen]
      exact if_pos (List.isEmpty_iff.mpr empty)
    rw [nothing, if_pos empty, List.append_nil, List.append_nil, empty]
  · have flushed : (encoder.advance full rest).flush.frames =
          framesFrom encoder.streamId (encoder.nextSeqId + UInt32.ofNat full.length)
            (kindAfter encoder.nextKind full) [rest] ∧
        (encoder.advance full rest).flush.encoder =
          (encoder.advance full rest).advance [rest] [] := by
      have nonempty : ¬(encoder.advance full rest).buffer.isEmpty = true :=
        fun isEmpty => empty (List.isEmpty_iff.mp isEmpty)
      rw [flush, stillOpen]
      simp only
      rw [if_neg nonempty]
      exact ⟨rfl, rfl⟩
    rw [flushed.1, flushed.2, if_neg empty, framesFrom_append, advance_advance]

/-- With nothing buffered these are the pieces of the message. -/
theorem applyAll_message (isOpen : encoder.IsOpen) (positive : 0 < encoder.maxChunkSize)
    (idle : encoder.buffer = []) (message : List UInt8) :
    WriteOp.applyAll encoder [.writeBytes message, .flush] =
      (framesFrom encoder.streamId encoder.nextSeqId encoder.nextKind
          (inPieces encoder.maxChunkSize message),
        encoder.advance (inPieces encoder.maxChunkSize message) []) := by
  rw [applyAll_flushed isOpen positive message, idle, List.nil_append]

end FrameStreamEncoder

end Muxio.Framing

namespace Muxio.Service

open Muxio.Framing
open Muxio.Rpc
open Muxio.Transition

/-- Write a message to a stream and flush it; `false` if either fails, and then nothing
more is tried. -/
def forwardMessage (outgoing : Outgoing) (message : List UInt8) : Outgoing × Bool :=
  let written := outgoing.apply (.writeBytes message)
  match ((WriteOp.writeBytes message).apply outgoing.encoder).result with
  | .error _ => (written, false)
  | .ok _ =>
      match (WriteOp.flush.apply written.encoder).result with
      | .error _ => (written.apply .flush, false)
      | .ok _ => (written.apply .flush, true)

/-- The payloads of the frames of a stream that starts with its header. -/
def forwardedPayloads (outgoing : Outgoing) (messages : List (List UInt8)) : List (List UInt8) :=
  outgoing.header.toBytes :: messages.flatMap (inPieces outgoing.chunkSize.bytes)

/-- The stream has carried its header and the messages, each one flushed, and has ended
or not. -/
structure Forwarded (outgoing : Outgoing) (messages : List (List UInt8)) (ended : Bool) :
    Prop where
  short : outgoing.header.toBytes.length ≤ outgoing.chunkSize.bytes
  fits : outgoing.header.Fits
  frames : outgoing.frames =
    if ended then streamFrames outgoing.streamId (forwardedPayloads outgoing messages) []
    else framesFrom outgoing.streamId 0 .open (forwardedPayloads outgoing messages)
  encoder : ended = false → outgoing.encoder =
    (FrameStreamEncoder.new outgoing.streamId outgoing.chunkSize.bytes).advance
      (forwardedPayloads outgoing messages) []

/-- The events of such a stream. -/
def forwardedEvents (header : RpcHeader) (pieces : List (List UInt8)) (ended : Bool) :
    List RpcStreamEvent :=
  header.headerEvent :: pieces.map header.chunkEvent ++ if ended then [header.endEvent] else []

/-- Frames that carry a header and pieces after it are heard as such a stream. -/
theorem eventsOfFrames_payloads {header : RpcHeader} (fits : header.Fits)
    {payloads kept : List (List UInt8)} {data : List UInt8}
    (agrees : payloads.flatten = header.toBytes ++ data)
    (cut : pieces header.toBytes.length payloads = some kept) (streamId : UInt32) (ended : Bool) :
    eventsOfFrames (if ended then streamFrames streamId payloads []
      else framesFrom streamId 0 .open payloads) = forwardedEvents header kept ended := by
  have openEventsEq : header.openEvents payloads =
      header.headerEvent :: kept.map header.chunkEvent := by
    rw [RpcHeader.openEvents, cut]
  have whole : payloads.flatten ++ [] = header.toBytes ++ data :=
    (List.append_nil _).trans agrees
  rw [eventsOfFrames]
  cases ended with
  | false =>
      rw [if_neg Bool.false_ne_true, RpcSession.runEntry_framesFrom _ fits whole, openEventsEq]
      exact (List.append_nil _).symm
  | true =>
      rw [if_pos rfl, RpcSession.runEntry_streamFrames _ fits whole, RpcHeader.closedEvents, cut]
      exact congrArg (· ++ [header.endEvent]) openEventsEq

namespace Forwarded

variable {outgoing : Outgoing} {messages : List (List UInt8)}

theorem toBytes_ne_nil (header : RpcHeader) : header.toBytes ≠ [] :=
  List.ne_nil_of_length_pos header.toBytes_pos

/-- A stream that has been opened without a payload and flushed. -/
theorem opened (short : outgoing.header.toBytes.length ≤ outgoing.chunkSize.bytes)
    (fits : outgoing.header.Fits)
    (framesEq : outgoing.frames = (RpcStreamEncoder.sendPayload
      (openedStream outgoing.streamId outgoing.chunkSize.bytes outgoing.header) none false).frames)
    (encoderEq : outgoing.encoder = (RpcStreamEncoder.sendPayload
      (openedStream outgoing.streamId outgoing.chunkSize.bytes outgoing.header) none
        false).encoder) :
    Forwarded (outgoing.apply .flush) [] false := by
  have message := FrameStreamEncoder.applyAll_message
    (FrameStreamEncoder.new_isOpen outgoing.streamId outgoing.chunkSize.bytes)
    outgoing.chunkSize.positive rfl outgoing.header.toBytes
  have onePiece : inPieces outgoing.chunkSize.bytes outgoing.header.toBytes =
      [outgoing.header.toBytes] :=
    inPieces_short outgoing.chunkSize.positive (toBytes_ne_nil _) short
  have pieces : inPieces (FrameStreamEncoder.new outgoing.streamId
      outgoing.chunkSize.bytes).maxChunkSize outgoing.header.toBytes =
        [outgoing.header.toBytes] := onePiece
  rw [pieces] at message
  constructor
  case short => exact short
  case fits => exact fits
  case frames =>
    have framesEq' := congrArg Prod.fst message
    simp only [WriteOp.applyAll, List.append_nil] at framesEq'
    simp only [Outgoing.apply, framesEq, encoderEq]
    exact framesEq'
  case encoder =>
    intro _
    simp only [Outgoing.apply, encoderEq]
    exact congrArg Prod.snd message

theorem isOpen (forwarded : Forwarded outgoing messages false) :
    outgoing.encoder.IsOpen ∧ outgoing.encoder.streamId = outgoing.streamId ∧
      outgoing.encoder.maxChunkSize = outgoing.chunkSize.bytes ∧ outgoing.encoder.buffer = [] := by
  rw [forwarded.encoder rfl]
  exact ⟨(FrameStreamEncoder.new_isOpen _ _).advance _ _, rfl, rfl, rfl⟩

/-- Messages are forwarded as long as the stream has not ended. -/
theorem forward (forwarded : Forwarded outgoing messages false) (message : List UInt8) :
    (forwardMessage outgoing message).2 = true ∧
      Forwarded (forwardMessage outgoing message).1 (messages ++ [message]) false := by
  rcases forwarded.isOpen with ⟨isOpen, streamIdEq, sizeEq, idle⟩
  have positive : 0 < outgoing.encoder.maxChunkSize := sizeEq ▸ outgoing.chunkSize.positive
  rcases WriteOp.apply_ok isOpen positive (.writeBytes message) with
    ⟨⟨emitted, written⟩, stillOpen, sameSize⟩
  rcases WriteOp.apply_ok stillOpen (sameSize ▸ positive) .flush with ⟨⟨more, flushed⟩, -, -⟩
  have forwardEq : forwardMessage outgoing message =
      ((outgoing.apply (.writeBytes message)).apply .flush, true) := by
    rw [forwardMessage, written]
    simp only
    rw [show (outgoing.apply (.writeBytes message)).encoder =
      ((WriteOp.writeBytes message).apply outgoing.encoder).encoder from rfl, flushed]
  have ops := FrameStreamEncoder.applyAll_message isOpen positive idle message
  have payloadsEq : forwardedPayloads outgoing (messages ++ [message]) =
      forwardedPayloads outgoing messages ++ inPieces outgoing.chunkSize.bytes message := by
    simp [forwardedPayloads]
  rw [forwardEq]
  refine ⟨rfl, ⟨forwarded.short, forwarded.fits, ?_, ?_⟩⟩
  · have appended : ((outgoing.apply (.writeBytes message)).apply .flush).frames =
        outgoing.frames ++ (WriteOp.applyAll outgoing.encoder
          [.writeBytes message, .flush]).1 := by
      simp only [Outgoing.apply, WriteOp.applyAll, List.append_nil, List.append_assoc]
    have sameSeq : outgoing.encoder.nextSeqId =
        0 + UInt32.ofNat (forwardedPayloads outgoing messages).length := by
      rw [forwarded.encoder rfl]
      rfl
    have sameKind : outgoing.encoder.nextKind =
        kindAfter .open (forwardedPayloads outgoing messages) := by
      rw [forwarded.encoder rfl]
      rfl
    rw [appended, ops, forwarded.frames, sizeEq, sameSeq, sameKind, streamIdEq]
    exact (framesFrom_append _ _ _ _ _).symm.trans (congrArg _ payloadsEq.symm)
  · intro _
    have advanced : ((outgoing.apply (.writeBytes message)).apply .flush).encoder =
        (WriteOp.applyAll outgoing.encoder [.writeBytes message, .flush]).2 := rfl
    rw [advanced, ops, sizeEq, forwarded.encoder rfl, FrameStreamEncoder.advance_advance,
      ← payloadsEq]
    rfl

/-- Ending the stream adds the end and nothing else. -/
theorem finish (forwarded : Forwarded outgoing messages false) :
    Forwarded outgoing.endStream messages true := by
  rcases forwarded.isOpen with ⟨isOpen, streamIdEq, -, idle⟩
  have ended : outgoing.encoder.endStream.frames =
      [⟨outgoing.streamId, UInt32.ofNat (forwardedPayloads outgoing messages).length, .end,
        []⟩] := by
    rw [FrameStreamEncoder.endStream, isOpen.writeError, forwarded.encoder rfl]
    simp [FrameStreamEncoder.advance, FrameStreamEncoder.new]
  constructor
  case short => exact forwarded.short
  case fits => exact forwarded.fits
  case frames =>
    simp only [Outgoing.endStream, ended, forwarded.frames]
    rfl
  case encoder => exact fun unended => absurd unended (by decide)

/-- What is heard of the stream. -/
theorem events {ended : Bool} (forwarded : Forwarded outgoing messages ended) :
    eventsOfFrames outgoing.frames = forwardedEvents outgoing.header
      (messages.flatMap (inPieces outgoing.chunkSize.bytes)) ended := by
  rw [forwarded.frames]
  apply eventsOfFrames_payloads forwarded.fits
  · exact List.flatten_cons
  · simp [forwardedPayloads, pieces]

end Forwarded

end Muxio.Service
