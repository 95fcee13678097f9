import Muxio.Framing.Checked
import Muxio.Rpc.Session

/-!
# The grammar of stream events

Whatever bytes arrive, the events made of the frames of one stream id are a
sequence of segments: a header, payload chunks, and at most one end, all with
the ids and the header that opened the segment.  A segment may stay without an
end, when its stream decoder is dropped by a cancel frame, a malformed header
or an end frame that completes the header.

The slices that the stream decoder takes of its buffer are checked here as
those of the frame decoder were, so that the same runs are seen not to panic.
-/

namespace Muxio.Rpc

open Std
open Muxio.Encoding
open Muxio.Framing
open Muxio.Transition

/-! ## Slices of the stream decoder -/

namespace RpcStreamDecoder

/-- `decodeHeaderFrame` with its ranges checked. -/
def decodeHeaderFrameChecked (decoder : RpcStreamDecoder) (frame : DecodedFrame) :
    Option (Except FrameDecodeError (List RpcStreamEvent) × RpcStreamDecoder) :=
  let buffer := decoder.buffer ++ frame.inner.payload
  let decoder := { decoder with buffer := buffer }
  if buffer.length < rpcFrameFrameHeaderSize then
    some (.ok [], decoder)
  else do
    match RpcMessageType.tryFrom (← buffer[rpcFrameMsgTypeOffset]?) with
    | none => some (.error .corruptFrame, decoder)
    | some rpcMsgType =>
        let rpcRequestId :=
          u32FromLeBytes (← sliceChecked buffer rpcFrameIdOffset rpcFrameMethodIdOffset)
        let rpcMethodId :=
          u64FromLeBytes (← sliceChecked buffer rpcFrameMethodIdOffset rpcFrameMetadataLengthOffset)
        let decoder := { decoder with rpcMethodId := some rpcMethodId }
        let metaLen := (u16FromLeBytes (← sliceChecked buffer rpcFrameMetadataLengthOffset
          (rpcFrameMetadataLengthOffset + rpcFrameMetadataLengthSize))).toNat
        let headerEnd := rpcFrameMetadataLengthOffset + rpcFrameMetadataLengthSize + metaLen
        if buffer.length < headerEnd then
          some (.ok [], { decoder with metaLen := metaLen })
        else
          let header : RpcHeader :=
            { rpcMsgType := rpcMsgType
              rpcRequestId := rpcRequestId
              rpcMethodId := rpcMethodId
              rpcMetadataBytes := ← sliceChecked buffer
                (rpcFrameMetadataLengthOffset + rpcFrameMetadataLengthSize) headerEnd }
          let rest ← dropChecked buffer headerEnd
          some (.ok (.header rpcRequestId rpcMethodId header ::
              if rest.isEmpty then []
              else [.payloadChunk header rpcRequestId rpcMethodId rest]),
            { decoder with
              header := some header
              state := .awaitPayload
              rpcRequestId := some rpcRequestId
              buffer := [] })

theorem decodeHeaderFrameChecked_eq (decoder : RpcStreamDecoder) (frame : DecodedFrame) :
    decoder.decodeHeaderFrameChecked frame = some (decoder.decodeHeaderFrame frame) := by
  rw [decodeHeaderFrameChecked, decodeHeaderFrame]
  dsimp only
  by_cases short : (decoder.buffer ++ frame.inner.payload).length < rpcFrameFrameHeaderSize
  · rw [if_pos short, if_pos short]
  · have long : rpcFrameFrameHeaderSize ≤ (decoder.buffer ++ frame.inner.payload).length :=
      Nat.not_lt.mp short
    generalize decoder.buffer ++ frame.inner.payload = buffer at *
    have typeByte : buffer[rpcFrameMsgTypeOffset]? = some (buffer.getD rpcFrameMsgTypeOffset 0) :=
      getElem?_eq_getD (Nat.lt_of_lt_of_le (by decide) long)
    rw [if_neg short, if_neg short, typeByte,
      sliceChecked_eq (by decide) (Nat.le_trans (by decide) long),
      sliceChecked_eq (by decide) (Nat.le_trans (by decide) long),
      sliceChecked_eq (by decide) (Nat.le_trans (by decide) long)]
    simp only [Option.bind_eq_bind, Option.bind_some, readMsgType]
    cases RpcMessageType.tryFrom (buffer.getD rpcFrameMsgTypeOffset 0) with
    | none => rfl
    | some rpcMsgType =>
        simp only [readRequestId, readMethodId]
        change (if buffer.length < rpcFrameMetadataLengthOffset + rpcFrameMetadataLengthSize +
          readMetaLen buffer then _ else _) = _
        by_cases incomplete : buffer.length <
            rpcFrameMetadataLengthOffset + rpcFrameMetadataLengthSize + readMetaLen buffer
        · rw [if_pos incomplete, if_pos incomplete]
          rfl
        · have within := Nat.not_lt.mp incomplete
          rw [if_neg incomplete, if_neg incomplete]
          change (sliceChecked buffer _ (_ + readMetaLen buffer)).bind _ = _
          rw [sliceChecked_eq (Nat.le_add_right _ _) within, Option.bind_some]
          change (dropChecked buffer (_ + readMetaLen buffer)).bind _ = _
          rw [dropChecked_eq within, Option.bind_some]

/-- `decodeRpcFrame` with its ranges checked. -/
def decodeRpcFrameChecked (decoder : RpcStreamDecoder) (frame : DecodedFrame) :
    Option (Except FrameDecodeError (List RpcStreamEvent) × RpcStreamDecoder) :=
  match decoder.state with
  | .awaitHeader => decoder.decodeHeaderFrameChecked frame
  | .awaitPayload => some (decoder.decodePayloadFrame frame)
  | .done => some (.ok [], decoder)

theorem decodeRpcFrameChecked_eq (decoder : RpcStreamDecoder) (frame : DecodedFrame) :
    decoder.decodeRpcFrameChecked frame = some (decoder.decodeRpcFrame frame) := by
  rw [decodeRpcFrameChecked, decodeRpcFrame]
  cases decoder.state with
  | awaitHeader => exact decodeHeaderFrameChecked_eq decoder frame
  | awaitPayload => rfl
  | done => rfl

end RpcStreamDecoder

namespace RpcSession

section Checked

variable {τ : Type} (onEvent : EventDecoderHandler τ)

/-- The treatment of a frame once its stream decoder has answered. -/
def readDecoded (frame : DecodedFrame)
    (decoded : Except FrameDecodeError (List RpcStreamEvent) × RpcStreamDecoder) :
    Decoders × τ → Except FrameDecodeError Unit × Decoders × τ := fun (decoders, consumer) =>
  let streamId := frame.inner.streamId
  let decoders := decoders.insert streamId decoded.2
  match decoded.1 with
  | .ok events =>
      match deliverEvents onEvent streamId (decoders, consumer) events with
      | (.error error, state) => (.error error, state)
      | (.ok (), decoders, consumer) =>
          if frame.inner.kind = .cancel ∨ frame.inner.kind = .end then
            (.ok (), decoders.erase streamId, consumer)
          else
            (.ok (), decoders, consumer)
  | .error error =>
      let decoders := decoders.erase streamId
      match onEvent consumer (.failure error) with
      | (.error callbackError, consumer) => (.error callbackError, decoders, consumer)
      | (.ok (), consumer) => (.error error, decoders, consumer)

/-- `readItem` with the ranges of the stream decoder checked. -/
def readItemChecked : Decoders × τ → Item → Option (Except FrameDecodeError Unit × Decoders × τ)
  | state, .error error => some (readItem onEvent state (.error error))
  | state, .ok frame => do
      let decoder := state.1[frame.inner.streamId]?.getD RpcStreamDecoder.new
      let decoded ← decoder.decodeRpcFrameChecked frame
      some (readDecoded onEvent frame decoded state)

/-- `readItems` with the ranges of the stream decoders checked. -/
def readItemsChecked :
    Decoders × τ → List Item → Option (Except FrameDecodeError Unit × Decoders × τ)
  | state, [] => some (.ok (), state)
  | state, item :: rest => do
      match ← readItemChecked onEvent state item with
      | (.error error, state) => some (.error error, state)
      | (.ok (), state) => readItemsChecked state rest

/-- `read_bytes` with every range checked. -/
def readBytesChecked (session : RpcSession) (consumer : τ) (input : List UInt8) :
    Option (Except FrameDecodeError Unit × RpcSession × τ) := do
  let frames ← session.frameMuxStreamDecoder.readBytesChecked input
  let run ← readItemsChecked onEvent (session.rpcStreamDecoders, consumer) frames.1
  some (run.1,
    { session with frameMuxStreamDecoder := frames.2, rpcStreamDecoders := run.2.1 },
    run.2.2)

/-- `readChunks` with every range checked. -/
def readChunksChecked (session : RpcSession) (consumer : τ) :
    List (List UInt8) → Option (List (Except FrameDecodeError Unit) × RpcSession × τ)
  | [] => some ([], session, consumer)
  | chunk :: rest => do
      let first ← readBytesChecked onEvent session consumer chunk
      let later ← readChunksChecked first.2.1 first.2.2 rest
      some (first.1 :: later.1, later.2)

theorem readItemChecked_eq (state : Decoders × τ) (item : Item) :
    readItemChecked onEvent state item = some (readItem onEvent state item) := by
  cases item with
  | error error => rfl
  | ok frame =>
      simp only [readItemChecked, RpcStreamDecoder.decodeRpcFrameChecked_eq, Option.bind_eq_bind,
        Option.bind_some]
      rfl

theorem readItemsChecked_eq (state : Decoders × τ) (items : List Item) :
    readItemsChecked onEvent state items = some (readItems onEvent state items) := by
  induction items generalizing state with
  | nil => rfl
  | cons item rest ih =>
      simp only [readItemsChecked, readItems, readItemChecked_eq, Option.bind_eq_bind,
        Option.bind_some]
      rcases readItem onEvent state item with ⟨result, next⟩
      cases result with
      | error error => rfl
      | ok done => exact ih next

theorem readBytesChecked_eq (session : RpcSession) (consumer : τ) (input : List UInt8) :
    readBytesChecked onEvent session consumer input =
      some (readBytes onEvent session consumer input) := by
  simp only [readBytesChecked, FrameMuxStreamDecoder.readBytesChecked_eq, readItemsChecked_eq,
    Option.bind_eq_bind, Option.bind_some]
  rfl

theorem readChunksChecked_eq (session : RpcSession) (consumer : τ) (chunks : List (List UInt8)) :
    readChunksChecked onEvent session consumer chunks =
      some (readChunks onEvent session consumer chunks) := by
  induction chunks generalizing session consumer with
  | nil => rfl
  | cons chunk rest ih =>
      simp only [readChunksChecked, readBytesChecked_eq, ih, Option.bind_eq_bind, Option.bind_some]
      rfl

end Checked

/-! ## Events by stream -/

/-- The events of a read with the stream id of the frame they were made from;
errors of the frame decoder belong to no stream. -/
def tagItems : Decoders → List Item → List (Option UInt32 × RpcStreamEvent)
  | _, [] => []
  | decoders, .error error :: rest => (none, .failure error) :: tagItems decoders rest
  | decoders, .ok frame :: rest =>
      let entry := decoders[frame.inner.streamId]?
      let step := decodeEntry entry frame
      step.1.map (Prod.mk (some frame.inner.streamId)) ++
        match rejection entry frame with
        | some _ => []
        | none => tagItems (setEntry decoders frame.inner.streamId step.2) rest

/-- The tagged events of successive reads. -/
def tagChunks (session : RpcSession) : List (List UInt8) → List (Option UInt32 × RpcStreamEvent)
  | [] => []
  | chunk :: rest =>
      tagItems session.rpcStreamDecoders (session.frameMuxStreamDecoder.readBytes chunk).1 ++
        tagChunks (session.decodeBytes chunk).2.2 rest

theorem tagItems_events (decoders : Decoders) (items : List Item) :
    (tagItems decoders items).map Prod.snd = (decodeItems decoders items).1 := by
  induction items generalizing decoders with
  | nil => rfl
  | cons item rest ih =>
      cases item with
      | error error => simp [tagItems, decodeItems, ih]
      | ok frame =>
          simp only [tagItems, decodeItems]
          cases rejection decoders[frame.inner.streamId]? frame with
          | some error => simp [Function.comp_def]
          | none => simp [ih, Function.comp_def]

theorem tagChunks_events (session : RpcSession) (chunks : List (List UInt8)) :
    (session.tagChunks chunks).map Prod.snd = (session.decodeChunks chunks).1 := by
  induction chunks generalizing session with
  | nil => rfl
  | cons chunk rest ih =>
      simp only [tagChunks, decodeChunks, List.map_append, tagItems_events, ih]
      rfl

/-- The events of one stream, errors left out. -/
def streamEventsOf (streamId : UInt32) (tagged : List (Option UInt32 × RpcStreamEvent)) :
    List RpcStreamEvent :=
  (tagged.filter fun output => output.1 = some streamId ∧ output.2.isError = false).map Prod.snd

theorem streamEventsOf_append (streamId : UInt32)
    (first second : List (Option UInt32 × RpcStreamEvent)) :
    streamEventsOf streamId (first ++ second) =
      streamEventsOf streamId first ++ streamEventsOf streamId second := by
  rw [streamEventsOf, List.filter_append, List.map_append]
  rfl

end RpcSession

/-! ## Segments -/

/-- A header, payload chunks, and perhaps an end. -/
structure Segment where
  header : RpcHeader
  payloads : List (List UInt8)
  ended : Bool

def Segment.events (segment : Segment) : List RpcStreamEvent :=
  segment.header.headerEvent :: segment.payloads.map segment.header.chunkEvent ++
    if segment.ended then [segment.header.endEvent] else []

theorem Segment.isError_of_mem {segment : Segment} {event : RpcStreamEvent}
    (member : event ∈ segment.events) : event.isError = false := by
  simp only [events, List.mem_append, List.mem_cons, List.mem_map] at member
  rcases member with (rfl | ⟨payload, -, rfl⟩) | last
  · rfl
  · rfl
  · cases ended : segment.ended with
    | false => simp [ended] at last
    | true =>
        rw [ended, if_pos rfl, List.mem_singleton] at last
        rw [last]
        rfl

/-- The events of a frame that is not rejected belong to the stream. -/
theorem filter_isError {events : List RpcStreamEvent} {segment : Segment}
    (made : events <:+ segment.events) :
    (events.filter fun event => event.isError = false) = events :=
  List.filter_eq_self.mpr fun _ member =>
    decide_eq_true (Segment.isError_of_mem (made.subset member))

/-- Events in the grammar, seen with the stream decoder they leave: a decoder
past its header continues the last segment. -/
inductive Grammatical : Option RpcStreamDecoder → List RpcStreamEvent → Prop
  | between (segments : List Segment) {entry : Option RpcStreamDecoder}
      (awaiting : (entry.getD RpcStreamDecoder.new).state = .awaitHeader) :
      Grammatical entry (segments.flatMap Segment.events)
  | inside (segments : List Segment) (payloads : List (List UInt8)) {header : RpcHeader}
      {decoder : RpcStreamDecoder} (streaming : RpcStreamDecoder.Streaming header decoder) :
      Grammatical (some decoder)
        (segments.flatMap Segment.events ++ Segment.events ⟨header, payloads, false⟩)

namespace Grammatical

variable {entry : Option RpcStreamDecoder} {events : List RpcStreamEvent}

/-- Every grammatical sequence is a concatenation of segments. -/
theorem segments (grammatical : Grammatical entry events) :
    ∃ segments : List Segment, events = segments.flatMap Segment.events := by
  cases grammatical with
  | between segments awaiting => exact ⟨segments, rfl⟩
  | @inside segments payloads header decoder streaming =>
      exact ⟨segments ++ [⟨header, payloads, false⟩], by simp⟩

/-- Dropping the stream decoder leaves the last segment without an end. -/
theorem dropped (grammatical : Grammatical entry events) : Grammatical none events := by
  obtain ⟨segments, rfl⟩ := grammatical.segments
  exact .between segments rfl

/-- So does dropping it with an error. -/
theorem failed (grammatical : Grammatical entry events) (error : FrameDecodeError) :
    Grammatical none
      (events ++ [RpcStreamEvent.failure error].filter fun event => event.isError = false) := by
  rw [List.filter_cons_of_neg (by simp [RpcStreamEvent.failure, RpcStreamEvent.isError]),
    List.filter_nil, List.append_nil]
  exact grammatical.dropped

/-- A frame read before the header is complete. -/
theorem headerFrame (grammatical : Grammatical entry events)
    (awaiting : (entry.getD RpcStreamDecoder.new).state = .awaitHeader) (frame : DecodedFrame) :
    Grammatical (RpcSession.decodeEntry entry frame).2
      (events ++ (RpcSession.decodeEntry entry frame).1.filter fun event =>
        event.isError = false) := by
  unfold RpcSession.decodeEntry
  rw [RpcStreamDecoder.decodeRpcFrame, awaiting]
  rcases RpcStreamDecoder.decodeHeaderFrame_cases (entry.getD RpcStreamDecoder.new) frame with
    ⟨next, decoded⟩ | ⟨next, decoded, stays, -⟩ | ⟨header, rest, next, decoded, -, streaming⟩
  · simp only [decoded]
    exact grammatical.failed _
  all_goals obtain ⟨segments, rfl⟩ := grammatical.segments
  · simp only [decoded, List.filter_nil, List.append_nil]
    apply Grammatical.between
    split
    · rfl
    · exact stays.trans awaiting
  · obtain ⟨payloads, opened⟩ : ∃ payloads,
        (header.headerEvent :: if rest.isEmpty then [] else [header.chunkEvent rest]) =
          Segment.events ⟨header, payloads, false⟩ := by
      cases rest.isEmpty with
      | true => exact ⟨[], rfl⟩
      | false => exact ⟨[rest], rfl⟩
    simp only [decoded, opened, filter_isError (List.suffix_refl _)]
    split
    · exact (Grammatical.inside segments payloads streaming).dropped
    · exact .inside segments payloads streaming

/-- A frame read behind the header. -/
theorem payloadFrame {header : RpcHeader} {decoder : RpcStreamDecoder} {segments : List Segment}
    {payloads : List (List UInt8)} (streaming : RpcStreamDecoder.Streaming header decoder)
    (frame : DecodedFrame) :
    Grammatical (RpcSession.decodeEntry (some decoder) frame).2
      (segments.flatMap Segment.events ++ Segment.events ⟨header, payloads, false⟩ ++
        (RpcSession.decodeEntry (some decoder) frame).1.filter fun event =>
          event.isError = false) := by
  have written := Grammatical.inside segments payloads streaming
  unfold RpcSession.decodeEntry
  rw [Option.getD_some]
  by_cases isEnd : frame.inner.kind = .end
  · have decoded := streaming.decode_end isEnd
    rcases answer : decoder.decodeRpcFrame frame with ⟨result, next⟩
    rw [answer] at decoded
    subst decoded
    let closed : Segment := ⟨header, payloads, true⟩
    have lengthened : segments.flatMap Segment.events ++
        Segment.events ⟨header, payloads, false⟩ ++ [header.endEvent] =
          (segments ++ [closed]).flatMap Segment.events := by
      simp [closed, Segment.events]
    have last : [header.endEvent] <:+ closed.events := List.suffix_append _ _
    simp only [isEnd, or_true, if_true, filter_isError last, lengthened]
    exact .between _ rfl
  · by_cases isCancel : frame.inner.kind = .cancel
    · simp only [streaming.decode_cancel isCancel]
      exact written.failed _
    · let longer : Segment := ⟨header, payloads ++ [frame.inner.payload], false⟩
      have lengthened : segments.flatMap Segment.events ++
          Segment.events ⟨header, payloads, false⟩ ++ [header.chunkEvent frame.inner.payload] =
            segments.flatMap Segment.events ++ longer.events := by
        simp [longer, Segment.events]
      have last : [header.chunkEvent frame.inner.payload] <:+ longer.events :=
        ⟨Segment.events ⟨header, payloads, false⟩, by simp [longer, Segment.events]⟩
      simp only [streaming.decode_data isEnd isCancel, filter_isError last, lengthened]
      rw [if_neg (by simp [isEnd, isCancel, RpcHeader.chunkEvent, RpcStreamEvent.isEnd])]
      exact .inside segments _ streaming

/-- Every frame of the stream keeps to the grammar. -/
theorem decodeEntry (grammatical : Grammatical entry events) (frame : DecodedFrame) :
    Grammatical (RpcSession.decodeEntry entry frame).2
      (events ++ (RpcSession.decodeEntry entry frame).1.filter fun event =>
        event.isError = false) := by
  cases grammatical with
  | between segments awaiting => exact (between segments awaiting).headerFrame awaiting frame
  | inside segments payloads streaming => exact payloadFrame streaming frame

end Grammatical

namespace RpcSession

/-- All streams of a session at once. -/
def AllGrammatical (decoders : Decoders) (tagged : List (Option UInt32 × RpcStreamEvent)) : Prop :=
  ∀ streamId, Grammatical decoders[streamId]? (streamEventsOf streamId tagged)

theorem streamEventsOf_tagged (streamId other : UInt32) (events : List RpcStreamEvent) :
    streamEventsOf streamId (events.map (Prod.mk (some other))) =
      if other = streamId then events.filter fun event => event.isError = false else [] := by
  by_cases same : other = streamId
  · rw [if_pos same, streamEventsOf, List.filter_map, List.map_map]
    simp [Function.comp_def, same]
  · rw [if_neg same, streamEventsOf, List.filter_map]
    simp [Function.comp_def, same]

/-- One item of the frame decoder concerns one stream at most. -/
theorem AllGrammatical.frame {decoders : Decoders}
    {tagged : List (Option UInt32 × RpcStreamEvent)} (grammatical : AllGrammatical decoders tagged)
    (frame : DecodedFrame) :
    AllGrammatical
      (setEntry decoders frame.inner.streamId
        (RpcSession.decodeEntry decoders[frame.inner.streamId]? frame).2)
      (tagged ++ (RpcSession.decodeEntry decoders[frame.inner.streamId]? frame).1.map
        (Prod.mk (some frame.inner.streamId))) := by
  intro streamId
  rw [streamEventsOf_append, streamEventsOf_tagged, getElem?_setEntry]
  by_cases same : frame.inner.streamId = streamId
  · rw [if_pos same, if_pos same, same]
    exact (grammatical streamId).decodeEntry frame
  · rw [if_neg same, if_neg same, List.append_nil]
    exact grammatical streamId

theorem AllGrammatical.items {decoders : Decoders}
    {tagged : List (Option UInt32 × RpcStreamEvent)} (grammatical : AllGrammatical decoders tagged)
    (items : List Item) :
    AllGrammatical (decodeItems decoders items).2.2 (tagged ++ tagItems decoders items) := by
  induction items generalizing decoders tagged with
  | nil => simpa [decodeItems, tagItems] using grammatical
  | cons item rest ih =>
      cases item with
      | error error =>
          have unchanged : AllGrammatical decoders (tagged ++ [(none, .failure error)]) := by
            intro streamId
            rw [streamEventsOf_append]
            simpa [streamEventsOf] using grammatical streamId
          simpa [decodeItems, tagItems] using ih unchanged
      | ok frame =>
          have next := grammatical.frame frame
          simp only [decodeItems, tagItems]
          cases rejection decoders[frame.inner.streamId]? frame with
          | some error => simpa using next
          | none => simpa [List.append_assoc] using ih next

theorem AllGrammatical.chunks {session : RpcSession}
    {tagged : List (Option UInt32 × RpcStreamEvent)}
    (grammatical : AllGrammatical session.rpcStreamDecoders tagged) (chunks : List (List UInt8)) :
    AllGrammatical (session.decodeChunks chunks).2.2.rpcStreamDecoders
      (tagged ++ session.tagChunks chunks) := by
  induction chunks generalizing session tagged with
  | nil => simpa [decodeChunks, tagChunks] using grammatical
  | cons chunk rest ih =>
      have first := grammatical.items (session.frameMuxStreamDecoder.readBytes chunk).1
      have later := @ih (session.decodeBytes chunk).2.2 _ first
      rw [List.append_assoc] at later
      exact later

/-- Arbitrary bytes in arbitrary reads: no range is out of bounds, and the
events of every stream are a sequence of segments. -/
theorem events_in_segments (idSpace : IdSpace) (handedOut : Nat) (chunks : List (List UInt8)) :
    readChunksChecked record (new idSpace handedOut).1 [] chunks =
        some (readChunks record (new idSpace handedOut).1 [] chunks) ∧
      ((new idSpace handedOut).1.tagChunks chunks).map Prod.snd =
        (readChunks record (new idSpace handedOut).1 [] chunks).2.2 ∧
      ∀ streamId, ∃ segments : List Segment,
        streamEventsOf streamId ((new idSpace handedOut).1.tagChunks chunks) =
          segments.flatMap Segment.events := by
  refine ⟨readChunksChecked_eq record _ [] chunks, ?_, ?_⟩
  · rw [tagChunks_events, readChunks_record, List.nil_append]
  · intro streamId
    have start : AllGrammatical (new idSpace handedOut).1.rpcStreamDecoders [] := by
      intro other
      exact .between [] rfl
    have grammatical := start.chunks chunks streamId
    rw [List.nil_append] at grammatical
    exact grammatical.segments

end RpcSession

end Muxio.Rpc
