import Muxio.Framing.Encoder
import Muxio.Rpc.Core

/-!
# RPC streams

`RpcStreamEncoder` is a frame encoder whose first write is the header of the
message.  `RpcStreamDecoder` gathers bytes until it has a header, then passes
the payload of every frame on.

The second half of the module says what the decoder does with the frames of one
stream in terms of their payloads alone: the header bytes are cut off the front
of the payloads, wherever the frame boundaries fall, and the remaining pieces
become the chunk events.  The end frame is special.  Its payload is dropped once
the header is known, and no end event is produced when it is the frame that
completes the header.
-/

namespace Muxio.Rpc

open Muxio.Framing

/-! ## The encoder -/

/-- The wrapper around a frame encoder; its own copy of the stream id is the
encoder's. -/
abbrev RpcStreamEncoder := FrameStreamEncoder

/-- Create an encoder and write the header to it. -/
def RpcStreamEncoder.new (streamId : UInt32) (maxChunkSize : Nat) (header : RpcHeader) :
    EncoderOutcome :=
  (FrameStreamEncoder.new streamId maxChunkSize).writeBytes header.toBytes

/-- What `call` and `respond` do with a new encoder: send the payload, if there
is one, and close the stream if the message is complete. -/
def RpcStreamEncoder.sendPayload (opened : EncoderOutcome) (payload : Option (List UInt8))
    (isFinalized : Bool) : EncoderOutcome :=
  let written := match payload with
    | some bytes => opened.andThen fun encoder => encoder.writeBytes bytes
    | none => opened
  if isFinalized then
    (written.andThen FrameStreamEncoder.flush).andThen FrameStreamEncoder.endStream
  else
    written

/-! ## The decoder -/

inductive RpcDecoderState where
  | awaitHeader
  | awaitPayload
  | done
  deriving DecidableEq, Repr

/-- Decoder of one RPC stream. -/
structure RpcStreamDecoder where
  state : RpcDecoderState
  header : Option RpcHeader
  rpcRequestId : Option UInt32
  rpcMethodId : Option UInt64
  buffer : List UInt8
  metaLen : Nat
  deriving DecidableEq, Repr

namespace RpcStreamDecoder

def new : RpcStreamDecoder := ⟨.awaitHeader, none, none, none, [], 0⟩

/-- Decode a frame while the header is incomplete.  The kind of the frame plays
no part. -/
def decodeHeaderFrame (decoder : RpcStreamDecoder) (frame : DecodedFrame) :
    Except FrameDecodeError (List RpcStreamEvent) × RpcStreamDecoder :=
  let buffer := decoder.buffer ++ frame.inner.payload
  let decoder := { decoder with buffer := buffer }
  if buffer.length < rpcFrameFrameHeaderSize then
    (.ok [], decoder)
  else
    match readMsgType buffer with
    | none => (.error .corruptFrame, decoder)
    | some rpcMsgType =>
        let rpcRequestId := readRequestId buffer
        let rpcMethodId := readMethodId buffer
        let metaLen := readMetaLen buffer
        let decoder := { decoder with rpcMethodId := some rpcMethodId }
        let headerEnd := rpcFrameMetadataLengthOffset + rpcFrameMetadataLengthSize + metaLen
        if buffer.length < headerEnd then
          (.ok [], { decoder with metaLen := metaLen })
        else
          let header : RpcHeader :=
            { rpcMsgType := rpcMsgType
              rpcRequestId := rpcRequestId
              rpcMethodId := rpcMethodId
              rpcMetadataBytes := slice buffer
                (rpcFrameMetadataLengthOffset + rpcFrameMetadataLengthSize) headerEnd }
          let rest := buffer.drop headerEnd
          (.ok (.header rpcRequestId rpcMethodId header ::
              if rest.isEmpty then []
              else [.payloadChunk header rpcRequestId rpcMethodId rest]),
            { decoder with
              header := some header
              state := .awaitPayload
              rpcRequestId := some rpcRequestId
              buffer := [] })

/-- Decode a frame once the header is known. -/
def decodePayloadFrame (decoder : RpcStreamDecoder) (frame : DecodedFrame) :
    Except FrameDecodeError (List RpcStreamEvent) × RpcStreamDecoder :=
  match decoder.header with
  | none => (.error .corruptFrame, decoder)
  | some header =>
      if frame.inner.kind = .end then
        let decoder := { decoder with state := .done }
        match decoder.rpcRequestId, decoder.rpcMethodId with
        | some rpcRequestId, some rpcMethodId =>
            (.ok [.end header rpcRequestId rpcMethodId], decoder)
        | _, _ => (.error .corruptFrame, decoder)
      else if frame.inner.kind = .cancel then
        (.error .readAfterCancel, decoder)
      else
        match decoder.rpcRequestId, decoder.rpcMethodId with
        | some rpcRequestId, some rpcMethodId =>
            (.ok [.payloadChunk header rpcRequestId rpcMethodId frame.inner.payload], decoder)
        | _, _ => (.error .corruptFrame, decoder)

/-- Decode one frame of the stream. -/
def decodeRpcFrame (decoder : RpcStreamDecoder) (frame : DecodedFrame) :
    Except FrameDecodeError (List RpcStreamEvent) × RpcStreamDecoder :=
  match decoder.state with
  | .awaitHeader => decoder.decodeHeaderFrame frame
  | .awaitPayload => decoder.decodePayloadFrame frame
  | .done => (.ok [], decoder)

end RpcStreamDecoder

/-! ## Cutting the header off -/

/-- What remains of a list of payloads once the first `missing` bytes have been
taken off as the header; `none` while the header is incomplete. -/
def pieces : Nat → List (List UInt8) → Option (List (List UInt8))
  | _, [] => none
  | missing, payload :: rest =>
      if payload.length < missing then
        pieces (missing - payload.length) rest
      else if (payload.drop missing).isEmpty then
        some rest
      else
        some (payload.drop missing :: rest)

theorem pieces_append (missing : Nat) (first second : List (List UInt8)) :
    pieces missing (first ++ second) =
      match pieces missing first with
      | some kept => some (kept ++ second)
      | none => pieces (missing - first.flatten.length) second := by
  induction first generalizing missing with
  | nil => rfl
  | cons payload rest ih =>
      rw [List.cons_append, pieces, pieces]
      by_cases short : payload.length < missing
      · rw [if_pos short, if_pos short, ih]
        simp [Nat.sub_sub]
      · rw [if_neg short, if_neg short]
        split <;> rfl

theorem pieces_eq_none_iff {missing : Nat} (positive : 0 < missing)
    (payloads : List (List UInt8)) :
    pieces missing payloads = none ↔ payloads.flatten.length < missing := by
  induction payloads generalizing missing with
  | nil => simp [pieces, positive]
  | cons payload rest ih =>
      rw [pieces, List.flatten_cons, List.length_append]
      by_cases short : payload.length < missing
      · rw [if_pos short, ih (Nat.sub_pos_of_lt short)]
        omega
      · rw [if_neg short]
        refine iff_of_false ?_ (by omega)
        split <;> exact Option.some_ne_none _

/-- The pieces are the bytes after the header. -/
theorem pieces_flatten {missing : Nat} {payloads kept : List (List UInt8)}
    (complete : pieces missing payloads = some kept) :
    kept.flatten = payloads.flatten.drop missing := by
  induction payloads generalizing missing with
  | nil => simp [pieces] at complete
  | cons payload rest ih =>
      rw [pieces] at complete
      rw [List.flatten_cons, List.drop_append]
      split at complete
      · rename_i short
        rw [ih complete, List.drop_eq_nil_of_le short.le, List.nil_append]
      · rename_i long
        have noneMissing : missing - payload.length = 0 := by omega
        rw [noneMissing, List.drop_zero]
        split at complete
        · rename_i exact_
          rw [Option.some.injEq] at complete
          rw [List.isEmpty_iff.mp exact_, complete, List.nil_append]
        · rw [Option.some.injEq] at complete
          rw [← complete, List.flatten_cons]

/-- Nonempty payloads leave nonempty pieces. -/
theorem pieces_ne_nil {missing : Nat} {payloads kept : List (List UInt8)}
    (complete : pieces missing payloads = some kept)
    (nonempty : ∀ payload ∈ payloads, payload ≠ []) :
    ∀ piece ∈ kept, piece ≠ [] := by
  induction payloads generalizing missing with
  | nil => simp [pieces] at complete
  | cons payload rest ih =>
      have restNonempty : ∀ other ∈ rest, other ≠ [] :=
        fun other member => nonempty other (List.mem_cons_of_mem _ member)
      rw [pieces] at complete
      split at complete
      · exact ih complete restNonempty
      · split at complete
        · rw [Option.some.injEq] at complete
          rwa [← complete]
        · rename_i notEmpty
          rw [Option.some.injEq] at complete
          rw [← complete]
          intro piece member
          rcases List.mem_cons.mp member with rfl | later
          · simpa using notEmpty
          · exact restNonempty piece later

namespace RpcHeader

/-- The events of a stream whose frames so far carry the given payloads. -/
def openEvents (header : RpcHeader) (payloads : List (List UInt8)) : List RpcStreamEvent :=
  match pieces header.toBytes.length payloads with
  | none => []
  | some kept => header.headerEvent :: kept.map header.chunkEvent

/-- The events of a stream that ends with a frame carrying `last`. -/
def closedEvents (header : RpcHeader) (payloads : List (List UInt8)) (last : List UInt8) :
    List RpcStreamEvent :=
  match pieces header.toBytes.length payloads with
  | none => header.openEvents (payloads ++ [last])
  | some _ => header.openEvents payloads ++ [header.endEvent]

theorem toBytes_pos (header : RpcHeader) : 0 < header.toBytes.length := by
  rw [toBytes_length, rpcFrameFrameHeaderSize]
  simp only [rpcFrameMetadataLengthOffset, rpcFrameMetadataLengthSize]
  omega

end RpcHeader

/-! ## What the decoder makes of one stream -/

namespace RpcStreamDecoder

/-- A decoder that has read the given header. -/
structure Streaming (header : RpcHeader) (decoder : RpcStreamDecoder) : Prop where
  awaiting : decoder.state = .awaitPayload
  known : decoder.header = some header
  requestId : decoder.rpcRequestId = some header.rpcRequestId
  methodId : decoder.rpcMethodId = some header.rpcMethodId

/-- Where the decoder stands after frames with the given payloads. -/
def Stands (header : RpcHeader) (payloads : List (List UInt8)) (decoder : RpcStreamDecoder) :
    Prop :=
  match pieces header.toBytes.length payloads with
  | none => decoder.state = .awaitHeader ∧ decoder.buffer = payloads.flatten
  | some _ => Streaming header decoder

theorem new_stands (header : RpcHeader) : Stands header [] new :=
  ⟨rfl, rfl⟩

section Header

variable {header : RpcHeader} {decoder : RpcStreamDecoder} {frame : DecodedFrame}
  {tail data : List UInt8}

/-- A frame that leaves the header incomplete is only buffered. -/
theorem decodeHeaderFrame_of_short (fits : header.Fits)
    (agrees : decoder.buffer ++ frame.inner.payload ++ tail = header.toBytes ++ data)
    (short : (decoder.buffer ++ frame.inner.payload).length < header.toBytes.length) :
    ∃ next, decoder.decodeHeaderFrame frame = (.ok [], next) ∧ next.state = decoder.state ∧
      next.buffer = decoder.buffer ++ frame.inner.payload := by
  unfold decodeHeaderFrame
  by_cases noFields : (decoder.buffer ++ frame.inner.payload).length < rpcFrameFrameHeaderSize
  · exact ⟨_, if_pos noFields, rfl, rfl⟩
  · rcases RpcHeader.readFields agrees (Nat.le_of_not_lt noFields) with
      ⟨msgType, -, -, metaLen⟩
    have incomplete : (decoder.buffer ++ frame.inner.payload).length <
        rpcFrameMetadataLengthOffset + rpcFrameMetadataLengthSize +
          header.rpcMetadataBytes.length := by
      rwa [RpcHeader.toBytes_length] at short
    simp only [if_neg noFields, msgType, metaLen fits, if_pos incomplete]
    exact ⟨_, rfl, rfl, rfl⟩

/-- The frame that completes the header yields it, with the bytes behind it. -/
theorem decodeHeaderFrame_of_complete (fits : header.Fits)
    (agrees : decoder.buffer ++ frame.inner.payload ++ tail = header.toBytes ++ data)
    (complete : header.toBytes.length ≤ (decoder.buffer ++ frame.inner.payload).length) :
    ∃ next, decoder.decodeHeaderFrame frame =
        (.ok (header.headerEvent ::
          if ((decoder.buffer ++ frame.inner.payload).drop header.toBytes.length).isEmpty then []
          else [header.chunkEvent
            ((decoder.buffer ++ frame.inner.payload).drop header.toBytes.length)]), next) ∧
      Streaming header next := by
  have length := header.toBytes_length
  have hasFields : ¬ (decoder.buffer ++ frame.inner.payload).length < rpcFrameFrameHeaderSize := by
    omega
  rcases RpcHeader.readFields agrees (Nat.le_of_not_lt hasFields) with
    ⟨msgType, requestId, methodId, metaLen⟩
  have headerEnd : rpcFrameMetadataLengthOffset + rpcFrameMetadataLengthSize +
      header.rpcMetadataBytes.length = header.toBytes.length := length.symm
  have metadata : slice (decoder.buffer ++ frame.inner.payload)
      (rpcFrameMetadataLengthOffset + rpcFrameMetadataLengthSize) header.toBytes.length =
        header.rpcMetadataBytes := by
    rw [slice_eq_of_append_eq agrees complete le_rfl, length]
    exact header.slice_metadata
  unfold decodeHeaderFrame
  simp only [if_neg hasFields, msgType, requestId, methodId, metaLen fits, headerEnd,
    if_neg (Nat.not_lt.mpr complete), metadata]
  exact ⟨_, rfl, rfl, rfl, rfl, rfl⟩

end Header

/-- What any frame can do to a decoder that waits for its header: the message
type is unknown, the header is still incomplete, or the frame completes it. -/
theorem decodeHeaderFrame_cases (decoder : RpcStreamDecoder) (frame : DecodedFrame) :
    (∃ next, decoder.decodeHeaderFrame frame = (.error .corruptFrame, next)) ∨
      (∃ next, decoder.decodeHeaderFrame frame = (.ok [], next) ∧ next.state = decoder.state ∧
        next.buffer = decoder.buffer ++ frame.inner.payload ∧
        (next.buffer = [] → next = decoder) ∧
        next.buffer.length < rpcFrameFrameHeaderSize + 2 ^ 16) ∨
      ∃ header rest next, decoder.decodeHeaderFrame frame =
          (.ok (header.headerEvent ::
            if rest.isEmpty then [] else [header.chunkEvent rest]), next) ∧
        header.toBytes.length + rest.length = (decoder.buffer ++ frame.inner.payload).length ∧
        Streaming header next := by
  unfold decodeHeaderFrame
  dsimp only
  generalize bufferEq : decoder.buffer ++ frame.inner.payload = buffer
  by_cases short : buffer.length < rpcFrameFrameHeaderSize
  · rw [if_pos short]
    refine .inr (.inl ⟨_, rfl, rfl, rfl, ?_, Nat.lt_of_lt_of_le short (Nat.le_add_right _ _)⟩)
    rintro rfl
    rw [(List.append_eq_nil_iff.mp bufferEq).1.symm]
  · rw [if_neg short]
    cases readMsgType buffer with
    | none => exact .inl ⟨_, rfl⟩
    | some rpcMsgType =>
        dsimp only
        split
        · rename_i incomplete
          have bounded : readMetaLen buffer < 2 ^ 16 := UInt16.toNat_lt _
          refine .inr (.inl ⟨_, rfl, rfl, rfl, ?_,
            Nat.lt_trans incomplete (Nat.add_lt_add_left bounded _)⟩)
          rintro rfl
          exact absurd (by decide) short
        · rename_i complete
          refine .inr (.inr ⟨⟨rpcMsgType, readRequestId buffer, readMethodId buffer, _⟩,
            buffer.drop _, _, rfl, ?_, ⟨rfl, rfl, rfl, rfl⟩⟩)
          rw [RpcHeader.toBytes_length, slice, List.length_drop, List.length_take,
            List.length_drop]
          simp only [rpcFrameFrameHeaderSize] at *
          omega

theorem Streaming.decode_end {header : RpcHeader} {decoder : RpcStreamDecoder}
    (streaming : Streaming header decoder) {frame : DecodedFrame}
    (isEnd : frame.inner.kind = .end) :
    (decoder.decodeRpcFrame frame).1 = .ok [header.endEvent] := by
  simp [decodeRpcFrame, decodePayloadFrame, streaming.awaiting, streaming.known,
    streaming.requestId, streaming.methodId, isEnd, RpcHeader.endEvent]

theorem Streaming.decode_cancel {header : RpcHeader} {decoder : RpcStreamDecoder}
    (streaming : Streaming header decoder) {frame : DecodedFrame}
    (isCancel : frame.inner.kind = .cancel) :
    decoder.decodeRpcFrame frame = (.error .readAfterCancel, decoder) := by
  simp [decodeRpcFrame, decodePayloadFrame, streaming.awaiting, streaming.known, isCancel]

theorem Streaming.decode_data {header : RpcHeader} {decoder : RpcStreamDecoder}
    (streaming : Streaming header decoder) {frame : DecodedFrame}
    (notEnd : frame.inner.kind ≠ .end) (notCancel : frame.inner.kind ≠ .cancel) :
    decoder.decodeRpcFrame frame = (.ok [header.chunkEvent frame.inner.payload], decoder) := by
  simp [decodeRpcFrame, decodePayloadFrame, streaming.awaiting, streaming.known,
    streaming.requestId, streaming.methodId, notEnd, notCancel, RpcHeader.chunkEvent]

section Stream

variable {header : RpcHeader} {payloads : List (List UInt8)} {decoder : RpcStreamDecoder}
  {frame : DecodedFrame} {tail data : List UInt8}

/-- A frame decoded before the header is complete continues the stream, whatever
its kind. -/
theorem Stands.decode_header (fits : header.Fits) (stands : Stands header payloads decoder)
    (incomplete : pieces header.toBytes.length payloads = none)
    (agrees : (payloads ++ [frame.inner.payload]).flatten ++ tail = header.toBytes ++ data) :
    ∃ next, decoder.decodeRpcFrame frame =
        (.ok (header.openEvents (payloads ++ [frame.inner.payload])), next) ∧
      Stands header (payloads ++ [frame.inner.payload]) next := by
  unfold Stands at stands
  simp only [incomplete] at stands
  have flat : (payloads ++ [frame.inner.payload]).flatten =
      decoder.buffer ++ frame.inner.payload := by
    simp [stands.2]
  rw [flat] at agrees
  have appended := pieces_append header.toBytes.length payloads [frame.inner.payload]
  simp only [incomplete] at appended
  have before := (pieces_eq_none_iff header.toBytes_pos payloads).mp incomplete
  rw [decodeRpcFrame, stands.1]
  by_cases short : (decoder.buffer ++ frame.inner.payload).length < header.toBytes.length
  · rcases decodeHeaderFrame_of_short fits agrees short with ⟨next, run, stateEq, bufferEq⟩
    have still : pieces header.toBytes.length (payloads ++ [frame.inner.payload]) = none :=
      (pieces_eq_none_iff header.toBytes_pos _).mpr (flat ▸ short)
    refine ⟨next, ?_, ?_⟩
    · simp only [run, RpcHeader.openEvents, still]
    · simp only [Stands, still, stateEq, bufferEq, stands.1, flat, and_self]
  · have complete := Nat.le_of_not_lt short
    rcases decodeHeaderFrame_of_complete fits agrees complete with ⟨next, run, streaming⟩
    have dropped : (decoder.buffer ++ frame.inner.payload).drop header.toBytes.length =
        frame.inner.payload.drop (header.toBytes.length - payloads.flatten.length) := by
      rw [stands.2, List.drop_append, List.drop_eq_nil_of_le before.le, List.nil_append]
    have notShort : ¬ frame.inner.payload.length <
        header.toBytes.length - payloads.flatten.length := by
      rw [stands.2, List.length_append] at complete
      omega
    rw [pieces, if_neg notShort] at appended
    refine ⟨next, ?_, ?_⟩
    · rw [run, RpcHeader.openEvents, appended, dropped]
      by_cases exact_ : (frame.inner.payload.drop
          (header.toBytes.length - payloads.flatten.length)).isEmpty
      · simp only [exact_, if_true, List.map_nil]
      · simp only [exact_, if_false, Bool.false_eq_true, List.map_cons, List.map_nil]
    · rw [Stands, appended]
      by_cases exact_ : (frame.inner.payload.drop
          (header.toBytes.length - payloads.flatten.length)).isEmpty
      · simp only [exact_, if_true]
        exact streaming
      · simp only [exact_, if_false, Bool.false_eq_true]
        exact streaming

/-- An open or data frame adds its payload to the stream. -/
theorem Stands.decode_data (fits : header.Fits) (stands : Stands header payloads decoder)
    (notEnd : frame.inner.kind ≠ .end) (notCancel : frame.inner.kind ≠ .cancel)
    (agrees : (payloads ++ [frame.inner.payload]).flatten ++ tail = header.toBytes ++ data) :
    ∃ events next, decoder.decodeRpcFrame frame = (.ok events, next) ∧
      header.openEvents (payloads ++ [frame.inner.payload]) =
        header.openEvents payloads ++ events ∧
      Stands header (payloads ++ [frame.inner.payload]) next := by
  cases complete : pieces header.toBytes.length payloads with
  | none =>
      rcases stands.decode_header fits complete agrees with ⟨next, run, standsNext⟩
      refine ⟨_, next, run, ?_, standsNext⟩
      rw [RpcHeader.openEvents.eq_1 header payloads, complete, List.nil_append]
  | some kept =>
      have streaming : Streaming header decoder := by
        rw [Stands, complete] at stands
        exact stands
      have appended := pieces_append header.toBytes.length payloads [frame.inner.payload]
      simp only [complete] at appended
      refine ⟨_, decoder, streaming.decode_data notEnd notCancel, ?_, ?_⟩
      · simp only [RpcHeader.openEvents, complete, appended, List.map_append, List.map_cons,
          List.map_nil, List.cons_append]
      · rw [Stands, appended]
        exact streaming

/-- The end frame closes the stream. -/
theorem Stands.decode_end (fits : header.Fits) (stands : Stands header payloads decoder)
    (isEnd : frame.inner.kind = .end)
    (agrees : (payloads ++ [frame.inner.payload]).flatten ++ tail = header.toBytes ++ data) :
    ∃ events, (decoder.decodeRpcFrame frame).1 = .ok events ∧
      header.closedEvents payloads frame.inner.payload = header.openEvents payloads ++ events := by
  cases complete : pieces header.toBytes.length payloads with
  | none =>
      rcases stands.decode_header fits complete agrees with ⟨next, run, -⟩
      refine ⟨_, congrArg Prod.fst run, ?_⟩
      simp only [RpcHeader.closedEvents, complete]
      rw [RpcHeader.openEvents.eq_1 header payloads, complete, List.nil_append]
  | some kept =>
      have streaming : Streaming header decoder := by
        rw [Stands, complete] at stands
        exact stands
      refine ⟨_, streaming.decode_end isEnd, ?_⟩
      simp only [RpcHeader.closedEvents, complete]

end Stream

/-! ## Streams as lists of frames -/

/-- Decode the frames of one stream, as they come in. -/
def decodeFrames (decoder : RpcStreamDecoder) :
    List Frame → Except FrameDecodeError (List RpcStreamEvent)
  | [] => .ok []
  | frame :: rest =>
      match decoder.decodeRpcFrame ⟨frame, none⟩ with
      | (.error error, _) => .error error
      | (.ok events, next) => (decodeFrames next rest).map (events ++ ·)

theorem decodeFrames_cons {decoder next : RpcStreamDecoder} {frame : Frame}
    {events : List RpcStreamEvent}
    (decoded : decoder.decodeRpcFrame ⟨frame, none⟩ = (.ok events, next)) (rest : List Frame) :
    decoder.decodeFrames (frame :: rest) = (next.decodeFrames rest).map (events ++ ·) := by
  rw [decodeFrames, decoded]

/-- Frames that carry the beginning of a stream decode to its events, and what follows them
is decoded from where they lead to. -/
theorem Stands.decodeFrames_append {header : RpcHeader} (fits : header.Fits)
    {frames : List Frame} (plain : ∀ frame ∈ frames, frame.kind ≠ .end ∧ frame.kind ≠ .cancel)
    {before : List (List UInt8)} {decoder : RpcStreamDecoder}
    (stands : Stands header before decoder) {tail data : List UInt8}
    (agrees : (before ++ frames.map Frame.payload).flatten ++ tail = header.toBytes ++ data)
    (others : List Frame) :
    ∃ events next, decoder.decodeFrames (frames ++ others) =
        (next.decodeFrames others).map (events ++ ·) ∧
      header.openEvents (before ++ frames.map Frame.payload) =
        header.openEvents before ++ events ∧
      Stands header (before ++ frames.map Frame.payload) next := by
  induction frames generalizing before decoder with
  | nil =>
      refine ⟨[], decoder, ?_, by simp, by simpa using stands⟩
      rw [List.nil_append]
      cases decoder.decodeFrames others <;> rfl
  | cons frame rest ih =>
      obtain ⟨notEnd, notCancel⟩ := plain frame List.mem_cons_self
      have split : before ++ (frame :: rest).map Frame.payload =
          (before ++ [frame.payload]) ++ rest.map Frame.payload := by
        simp
      rw [split] at agrees ⊢
      have firstAgrees : (before ++ [frame.payload]).flatten ++
          ((rest.map Frame.payload).flatten ++ tail) = header.toBytes ++ data := by
        rw [← agrees]
        simp only [List.flatten_append, List.append_assoc]
      let arrived : DecodedFrame := ⟨frame, none⟩
      have arrivedData : arrived.inner.kind ≠ .end := notEnd
      obtain ⟨events, next, decoded, eventsEq, standsNext⟩ :=
        stands.decode_data fits arrivedData notCancel firstAgrees
      obtain ⟨later, last, decodedLater, laterEq, standsLast⟩ :=
        ih (fun other member => plain other (List.mem_cons_of_mem _ member)) standsNext agrees
      refine ⟨events ++ later, last, ?_, ?_, standsLast⟩
      · rw [List.cons_append, decodeFrames_cons decoded, decodedLater]
        cases last.decodeFrames others with
        | error error => rfl
        | ok final => exact congrArg Except.ok (List.append_assoc events later final).symm
      · rw [laterEq, eventsEq, List.append_assoc]

/-- Frames that carry the beginning of a stream decode to its events. -/
theorem Stands.decodeFrames {header : RpcHeader} (fits : header.Fits)
    {frames : List Frame} (plain : ∀ frame ∈ frames, frame.kind ≠ .end ∧ frame.kind ≠ .cancel)
    {before : List (List UInt8)} {decoder : RpcStreamDecoder}
    (stands : Stands header before decoder) {tail data : List UInt8}
    (agrees : (before ++ frames.map Frame.payload).flatten ++ tail = header.toBytes ++ data) :
    ∃ events, decoder.decodeFrames frames = .ok events ∧
      header.openEvents (before ++ frames.map Frame.payload) =
        header.openEvents before ++ events := by
  obtain ⟨events, next, decoded, eventsEq, -⟩ :=
    stands.decodeFrames_append fits plain agrees []
  rw [List.append_nil] at decoded
  refine ⟨events, decoded.trans ?_, eventsEq⟩
  exact congrArg Except.ok (List.append_nil events)

end RpcStreamDecoder

/-- However the bytes of a header and a payload are cut into frames, with an end frame behind
them, the decoder yields the header, the payload in chunks and the end.  What the end frame
itself carries plays no part. -/
theorem RpcHeader.recognized_in_any_frames (header : RpcHeader)
    (fits : header.rpcMetadataBytes.length ≤ 65535) (payload : List UInt8) (frames : List Frame)
    (plain : ∀ frame ∈ frames, frame.kind ≠ .end ∧ frame.kind ≠ .cancel)
    (cut : (frames.map Frame.payload).flatten = header.toBytes ++ payload) (last : Frame)
    (isEnd : last.kind = .end) :
    ∃ chunks : List (List UInt8),
      RpcStreamDecoder.new.decodeFrames (frames ++ [last]) =
        .ok (header.headerEvent :: chunks.map header.chunkEvent ++ [header.endEvent]) ∧
      chunks.flatten = payload := by
  have agrees : ([] ++ frames.map Frame.payload).flatten ++ [] = header.toBytes ++ payload := by
    rw [List.nil_append, List.append_nil, cut]
  obtain ⟨events, next, decoded, eventsEq, stands⟩ :=
    (RpcStreamDecoder.new_stands header).decodeFrames_append fits plain agrees [last]
  rw [List.nil_append] at eventsEq stands
  cases complete : pieces header.toBytes.length (frames.map Frame.payload) with
  | none =>
      have short := (pieces_eq_none_iff header.toBytes_pos _).mp complete
      rw [cut, List.length_append] at short
      omega
  | some chunks =>
      have streaming : RpcStreamDecoder.Streaming header next := by
        rw [RpcStreamDecoder.Stands, complete] at stands
        exact stands
      let arrived : DecodedFrame := ⟨last, none⟩
      have arrivedEnd : arrived.inner.kind = .end := isEnd
      have ended : next.decodeFrames [last] = .ok [header.endEvent] := by
        have result := streaming.decode_end arrivedEnd
        rw [RpcStreamDecoder.decodeFrames_cons (Prod.ext result rfl)]
        rfl
      have opened : events = header.headerEvent :: chunks.map header.chunkEvent := by
        have all := eventsEq
        rw [RpcHeader.openEvents, complete] at all
        exact all.symm
      refine ⟨chunks, ?_, ?_⟩
      · rw [decoded, ended, opened]
        rfl
      · rw [pieces_flatten complete, cut, List.drop_left]

/-- A header with metadata, cut inside its fixed part and inside its metadata, with an empty
frame in between. -/
theorem RpcHeader.recognized_in_any_frames_cut :
    let header : RpcHeader := ⟨.call, 7, 5, [1, 2]⟩
    let bytes := header.toBytes ++ [8, 9]
    ∃ chunks : List (List UInt8),
      RpcStreamDecoder.new.decodeFrames
          [⟨1, 0, .open, bytes.take 4⟩, ⟨1, 1, .data, []⟩, ⟨1, 2, .data, (bytes.drop 4).take 12⟩,
            ⟨1, 3, .data, bytes.drop 16⟩, ⟨1, 4, .end, []⟩] =
        .ok (header.headerEvent :: chunks.map header.chunkEvent ++ [header.endEvent]) ∧
      chunks.flatten = [8, 9] := by
  intro header bytes
  have plain : ∀ frame ∈ ([⟨1, 0, .open, bytes.take 4⟩, ⟨1, 1, .data, []⟩,
      ⟨1, 2, .data, (bytes.drop 4).take 12⟩, ⟨1, 3, .data, bytes.drop 16⟩] : List Frame),
      frame.kind ≠ .end ∧ frame.kind ≠ .cancel := by
    decide
  exact header.recognized_in_any_frames (by decide) [8, 9] _ plain (by decide) ⟨1, 4, .end, []⟩
    rfl

end Muxio.Rpc
