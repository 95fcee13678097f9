import Muxio.Framing.Decoder
import Muxio.Rpc.IdSpace
import Muxio.Rpc.Stream

/-!
# The RPC session

`RpcSession` turns bytes into stream events: the frame decoder cuts and orders
frames, and one `RpcStreamDecoder` per stream id turns each frame into events,
which are handed to a callback one after another.

The callback may fail, and so may a stream decoder; either ends the read at
once.  The items that the frame decoder had already produced for the same read
are then gone: they are in no buffer any more.
-/

namespace Muxio.Rpc

open Std
open Muxio.Framing
open Muxio.Transition

universe u

/-- Stream decoders by stream id. -/
abbrev Decoders := ExtTreeMap UInt32 RpcStreamDecoder compare

structure RpcSession where
  nextStreamId : UInt32
  idSpace : IdSpace
  frameMuxStreamDecoder : FrameMuxStreamDecoder
  rpcStreamDecoders : Decoders

/-- A callback for stream events, with the state it owns. -/
abbrev EventDecoderHandler (τ : Type u) :=
  τ → RpcStreamEvent → Except FrameDecodeError Unit × τ

namespace RpcSession

/-- A session for one end of a connection; its first stream id is drawn here. -/
def new (idSpace : IdSpace) (handedOut : Nat) : RpcSession × Nat :=
  let id := incrementU32Id handedOut
  (⟨id.1, idSpace, FrameMuxStreamDecoder.new, ∅⟩, id.2)

/-- Open an outbound stream. -/
def initRequest (session : RpcSession) (header : RpcHeader) (maxChunkSize handedOut : Nat) :
    EncoderOutcome × RpcSession × Nat :=
  let streamId := session.idSpace.place session.nextStreamId
  let id := incrementU32Id handedOut
  (RpcStreamEncoder.new streamId maxChunkSize header, { session with nextStreamId := id.1 }, id.2)

section ReadBytes

variable {τ : Type u} (onEvent : EventDecoderHandler τ)

/-- Hand the events of one frame to the callback.  An end event removes the
stream decoder before the callback sees it. -/
def deliverEvents (streamId : UInt32) :
    Decoders × τ → List RpcStreamEvent → Except FrameDecodeError Unit × Decoders × τ
  | state, [] => (.ok (), state)
  | (decoders, consumer), event :: rest =>
      let decoders := if event.isEnd then decoders.erase streamId else decoders
      match onEvent consumer event with
      | (.error error, consumer) => (.error error, decoders, consumer)
      | (.ok (), consumer) => deliverEvents streamId (decoders, consumer) rest

/-- Process one item of the frame decoder. -/
def readItem : Decoders × τ → Item → Except FrameDecodeError Unit × Decoders × τ
  | (decoders, consumer), .error error =>
      match onEvent consumer (.failure error) with
      | (.error callbackError, consumer) => (.error callbackError, decoders, consumer)
      | (.ok (), consumer) => (.ok (), decoders, consumer)
  | (decoders, consumer), .ok frame =>
      let streamId := frame.inner.streamId
      let decoded := (decoders[streamId]?.getD RpcStreamDecoder.new).decodeRpcFrame frame
      let decoders := decoders.insert streamId decoded.2
      match decoded.1 with
      | .ok events =>
          match deliverEvents onEvent streamId (decoders, consumer) events with
          | (.error error, state) => (.error error, state)
          | (.ok (), decoders, consumer) =>
              if frame.inner.kind = .cancel ∨ frame.inner.kind = .end then
                (.ok (), decoders.erase streamId, consumer)
              else
                (.ok (), decoders, consumer)
      | .error error =>
          let decoders := decoders.erase streamId
          match onEvent consumer (.failure error) with
          | (.error callbackError, consumer) => (.error callbackError, decoders, consumer)
          | (.ok (), consumer) => (.error error, decoders, consumer)

/-- Process the items of one read until one of them fails. -/
def readItems : Decoders × τ → List Item → Except FrameDecodeError Unit × Decoders × τ
  | state, [] => (.ok (), state)
  | state, item :: rest =>
      match readItem onEvent state item with
      | (.error error, state) => (.error error, state)
      | (.ok (), state) => readItems state rest

/-- Decode bytes and hand every event to the callback. -/
def readBytes (session : RpcSession) (consumer : τ) (input : List UInt8) :
    Except FrameDecodeError Unit × RpcSession × τ :=
  let frames := session.frameMuxStreamDecoder.readBytes input
  let run := readItems onEvent (session.rpcStreamDecoders, consumer) frames.1
  (run.1,
    { session with frameMuxStreamDecoder := frames.2, rpcStreamDecoders := run.2.1 },
    run.2.2)

/-- Successive reads; the caller goes on after an error. -/
def readChunks (session : RpcSession) (consumer : τ) :
    List (List UInt8) → List (Except FrameDecodeError Unit) × RpcSession × τ
  | [] => ([], session, consumer)
  | chunk :: rest =>
      let first := readBytes onEvent session consumer chunk
      let later := readChunks first.2.1 first.2.2 rest
      (first.1 :: later.1, later.2)

end ReadBytes

/-! ## Callbacks that never fail -/

/-- What one frame does to the stream decoder of its stream, with the events it
yields; a frame that is rejected yields a failure event. -/
def decodeEntry : EntryStep RpcStreamDecoder DecodedFrame RpcStreamEvent := fun entry frame =>
  match (entry.getD RpcStreamDecoder.new).decodeRpcFrame frame with
  | (.ok events, decoder) =>
      (events,
        if events.any RpcStreamEvent.isEnd ∨ frame.inner.kind = .cancel ∨
          frame.inner.kind = .end then none else some decoder)
  | (.error error, _) => ([.failure error], none)

/-- The error with which a frame is rejected. -/
def rejection (entry : Option RpcStreamDecoder) (frame : DecodedFrame) :
    Option FrameDecodeError :=
  match ((entry.getD RpcStreamDecoder.new).decodeRpcFrame frame).1 with
  | .ok _ => none
  | .error error => some error

/-- The events, the result and the stream decoders of a read. -/
def decodeItems : Decoders → List Item →
    List RpcStreamEvent × Except FrameDecodeError Unit × Decoders
  | decoders, [] => ([], .ok (), decoders)
  | decoders, .error error :: rest =>
      let later := decodeItems decoders rest
      (.failure error :: later.1, later.2)
  | decoders, .ok frame :: rest =>
      let entry := decoders[frame.inner.streamId]?
      let step := decodeEntry entry frame
      let decoders := setEntry decoders frame.inner.streamId step.2
      match rejection entry frame with
      | some error => (step.1, .error error, decoders)
      | none =>
          let later := decodeItems decoders rest
          (step.1 ++ later.1, later.2)

/-- A callback that never fails. -/
def total {τ : Type u} (step : τ → RpcStreamEvent → τ) : EventDecoderHandler τ :=
  fun consumer event => (.ok (), step consumer event)

/-- The callback that records every event. -/
def record : EventDecoderHandler (List RpcStreamEvent) := total fun log event => log ++ [event]

theorem erase_insert_self (decoders : Decoders) (streamId : UInt32) (decoder : RpcStreamDecoder) :
    (decoders.insert streamId decoder).erase streamId = decoders.erase streamId := by
  refine ExtTreeMap.ext_getElem? fun {other} => ?_
  by_cases same : streamId = other
  · simp [same]
  · simp [ExtTreeMap.getElem?_erase, ExtTreeMap.getElem?_insert, same]

theorem erase_erase_self (decoders : Decoders) (streamId : UInt32) :
    (decoders.erase streamId).erase streamId = decoders.erase streamId := by
  refine ExtTreeMap.ext_getElem? fun {other} => ?_
  by_cases same : streamId = other
  · simp [same]
  · simp [ExtTreeMap.getElem?_erase, same]

section Total

variable {τ : Type u} (step : τ → RpcStreamEvent → τ)

theorem deliverEvents_total (streamId : UInt32) (decoders : Decoders) (consumer : τ)
    (events : List RpcStreamEvent) :
    deliverEvents (total step) streamId (decoders, consumer) events =
      (.ok (), if events.any RpcStreamEvent.isEnd then decoders.erase streamId else decoders,
        events.foldl step consumer) := by
  induction events generalizing decoders consumer with
  | nil => rfl
  | cons event rest ih =>
      simp only [deliverEvents, total, ih, List.any_cons, List.foldl_cons]
      by_cases ended : event.isEnd
      · simp [ended, erase_erase_self]
      · simp [ended]

theorem readItem_total_ok (decoders : Decoders) (consumer : τ) (frame : DecodedFrame) :
    readItem (total step) (decoders, consumer) (.ok frame) =
      ((match rejection decoders[frame.inner.streamId]? frame with
        | some error => .error error
        | none => .ok ()),
        setEntry decoders frame.inner.streamId
          (decodeEntry decoders[frame.inner.streamId]? frame).2,
        (decodeEntry decoders[frame.inner.streamId]? frame).1.foldl step consumer) := by
  rcases decoded : (decoders[frame.inner.streamId]?.getD RpcStreamDecoder.new).decodeRpcFrame
    frame with ⟨result, decoder⟩
  cases result with
  | error error =>
      simp [readItem, total, rejection, decodeEntry, decoded, setEntry, erase_insert_self]
  | ok events =>
      simp only [readItem, rejection, decodeEntry, decoded, deliverEvents_total]
      by_cases ended : events.any RpcStreamEvent.isEnd
      · by_cases closing : frame.inner.kind = .cancel ∨ frame.inner.kind = .end
        · simp [ended, closing, setEntry, erase_insert_self, erase_erase_self]
        · simp [ended, closing, setEntry, erase_insert_self]
      · by_cases closing : frame.inner.kind = .cancel ∨ frame.inner.kind = .end
        · simp [ended, closing, setEntry, erase_insert_self]
        · simp [ended, closing, setEntry]

/-- With a callback that never fails, a read delivers the events of
`decodeItems` in order. -/
theorem readItems_total (decoders : Decoders) (consumer : τ) (items : List Item) :
    readItems (total step) (decoders, consumer) items =
      ((decodeItems decoders items).2.1, (decodeItems decoders items).2.2,
        (decodeItems decoders items).1.foldl step consumer) := by
  induction items generalizing decoders consumer with
  | nil => rfl
  | cons item rest ih =>
      cases item with
      | error error =>
          simp only [readItems, readItem, total, decodeItems, ih, List.foldl_cons]
      | ok frame =>
          simp only [readItems, readItem_total_ok, decodeItems]
          cases rejection decoders[frame.inner.streamId]? frame with
          | some error => rfl
          | none => simp only [ih, List.foldl_append]

end Total

/-! ## Reads as functions on events -/

/-- The events, the result and the session of a read. -/
def decodeBytes (session : RpcSession) (input : List UInt8) :
    List RpcStreamEvent × Except FrameDecodeError Unit × RpcSession :=
  let frames := session.frameMuxStreamDecoder.readBytes input
  let decoded := decodeItems session.rpcStreamDecoders frames.1
  (decoded.1, decoded.2.1,
    { session with frameMuxStreamDecoder := frames.2, rpcStreamDecoders := decoded.2.2 })

/-- The events, the results and the session of successive reads. -/
def decodeChunks (session : RpcSession) :
    List (List UInt8) → List RpcStreamEvent × List (Except FrameDecodeError Unit) × RpcSession
  | [] => ([], [], session)
  | chunk :: rest =>
      let first := session.decodeBytes chunk
      let later := decodeChunks first.2.2 rest
      (first.1 ++ later.1, first.2.1 :: later.2.1, later.2.2)

theorem readBytes_total {τ : Type u} (step : τ → RpcStreamEvent → τ) (session : RpcSession)
    (consumer : τ) (input : List UInt8) :
    readBytes (total step) session consumer input =
      ((session.decodeBytes input).2.1, (session.decodeBytes input).2.2,
        (session.decodeBytes input).1.foldl step consumer) := by
  simp only [readBytes, decodeBytes, readItems_total]

theorem readChunks_total {τ : Type u} (step : τ → RpcStreamEvent → τ) (session : RpcSession)
    (consumer : τ) (chunks : List (List UInt8)) :
    readChunks (total step) session consumer chunks =
      ((session.decodeChunks chunks).2.1, (session.decodeChunks chunks).2.2,
        (session.decodeChunks chunks).1.foldl step consumer) := by
  induction chunks generalizing session consumer with
  | nil => rfl
  | cons chunk rest ih =>
      simp only [readChunks, decodeChunks, readBytes_total, ih, List.foldl_append]

/-- The recording callback ends with the events of the reads. -/
theorem readChunks_record (session : RpcSession) (log : List RpcStreamEvent)
    (chunks : List (List UInt8)) :
    (readChunks record session log chunks).2.2 = log ++ (session.decodeChunks chunks).1 := by
  have recorded : ∀ (events start : List RpcStreamEvent),
      events.foldl (fun log event => log ++ [event]) start = start ++ events := by
    intro events
    induction events with
    | nil => simp
    | cons event rest ih => simp [ih]
  rw [record, readChunks_total, recorded]

/-! ## Reads that reject nothing early -/

/-- Process all items, going on after a rejected frame. -/
def decodeAll : Decoders → List Item → List RpcStreamEvent × Decoders
  | decoders, [] => ([], decoders)
  | decoders, .error error :: rest =>
      let later := decodeAll decoders rest
      (.failure error :: later.1, later.2)
  | decoders, .ok frame :: rest =>
      let step := decodeEntry decoders[frame.inner.streamId]? frame
      let later := decodeAll (setEntry decoders frame.inner.streamId step.2) rest
      (step.1 ++ later.1, later.2)

/-- The items of a read that stand behind the first rejected frame.  They have
left the frame decoder, and the session never looks at them. -/
def lostItems : Decoders → List Item → List Item
  | _, [] => []
  | decoders, .error _ :: rest => lostItems decoders rest
  | decoders, .ok frame :: rest =>
      let entry := decoders[frame.inner.streamId]?
      match rejection entry frame with
      | some _ => rest
      | none =>
          lostItems (setEntry decoders frame.inner.streamId (decodeEntry entry frame).2) rest

theorem decodeAll_append (decoders : Decoders) (first second : List Item) :
    decodeAll decoders (first ++ second) =
      ((decodeAll decoders first).1 ++ (decodeAll (decodeAll decoders first).2 second).1,
        (decodeAll (decodeAll decoders first).2 second).2) := by
  induction first generalizing decoders with
  | nil => rfl
  | cons item rest ih =>
      cases item with
      | error error => simp [decodeAll, ih]
      | ok frame => simp [decodeAll, ih]

/-- A read that loses no item processes them all. -/
theorem decodeItems_of_nothing_lost {decoders : Decoders} {items : List Item}
    (nothingLost : lostItems decoders items = []) :
    (decodeItems decoders items).1 = (decodeAll decoders items).1 ∧
      (decodeItems decoders items).2.2 = (decodeAll decoders items).2 := by
  induction items generalizing decoders with
  | nil => exact ⟨rfl, rfl⟩
  | cons item rest ih =>
      cases item with
      | error error =>
          rcases ih nothingLost with ⟨eventsEq, decodersEq⟩
          exact ⟨congrArg (List.cons _) eventsEq, decodersEq⟩
      | ok frame =>
          simp only [lostItems] at nothingLost
          simp only [decodeItems, decodeAll]
          cases rejected : rejection decoders[frame.inner.streamId]? frame with
          | some error =>
              rw [rejected] at nothingLost
              simp only [show rest = [] from nothingLost, decodeAll, List.append_nil, and_self]
          | none =>
              rw [rejected] at nothingLost
              rcases ih nothingLost with ⟨eventsEq, decodersEq⟩
              exact ⟨congrArg (_ ++ ·) eventsEq, decodersEq⟩

/-! ## Read boundaries -/

/-- No read of the sequence loses an item. -/
def NothingLost : RpcSession → List (List UInt8) → Prop
  | _, [] => True
  | session, chunk :: rest =>
      lostItems session.rpcStreamDecoders (session.frameMuxStreamDecoder.readBytes chunk).1 = [] ∧
        NothingLost (session.decodeBytes chunk).2.2 rest

/-- Reads that lose nothing deliver what the items of all their frames give,
processed in order. -/
theorem decodeChunks_of_nothing_lost {session : RpcSession} {chunks : List (List UInt8)}
    (nothingLost : NothingLost session chunks) :
    (session.decodeChunks chunks).1 =
      (decodeAll session.rpcStreamDecoders
        (session.frameMuxStreamDecoder.readChunks chunks).1).1 := by
  induction chunks generalizing session with
  | nil => rfl
  | cons chunk rest ih =>
      rcases nothingLost with ⟨firstLost, restLost⟩
      rcases decodeItems_of_nothing_lost firstLost with ⟨eventsEq, decodersEq⟩
      have items : (session.frameMuxStreamDecoder.readChunks (chunk :: rest)).1 =
          (session.frameMuxStreamDecoder.readBytes chunk).1 ++
            ((session.frameMuxStreamDecoder.readBytes chunk).2.readChunks rest).1 := rfl
      rw [items, decodeAll_append, decodeChunks, ih restLost]
      simp only [decodeBytes, eventsEq, decodersEq]

/-- Two ways of cutting the same bytes into reads deliver the same events, as
long as no read completes further frames after one that its stream decoder
rejects. -/
theorem events_independent_of_reads (session : RpcSession)
    (waiting : FrameMuxStreamDecoder.Incomplete session.frameMuxStreamDecoder.buffer)
    (first second : List (List UInt8)) (sameBytes : first.flatten = second.flatten)
    (firstLossless : NothingLost session first) (secondLossless : NothingLost session second)
    (log : List RpcStreamEvent) :
    (readChunks record session log first).2.2 = (readChunks record session log second).2.2 := by
  rw [readChunks_record, readChunks_record, decodeChunks_of_nothing_lost firstLossless,
    decodeChunks_of_nothing_lost secondLossless,
    FrameMuxStreamDecoder.readChunks_eq_readBytes waiting,
    FrameMuxStreamDecoder.readChunks_eq_readBytes waiting, sameBytes]

/-- One whole stream, read at once and in two parts. -/
theorem events_independent_of_reads_two_parts :
    let bytes := frameBytes [⟨1, 0, .open, (RpcHeader.mk .call 7 5 [1]).toBytes⟩, ⟨1, 1, .end, []⟩]
    (readChunks record (new .client 0).1 [] [bytes]).2.2 =
      (readChunks record (new .client 0).1 [] [bytes.take 20, bytes.drop 20]).2.2 := by
  intro bytes
  refine events_independent_of_reads (new .client 0).1 FrameMuxStreamDecoder.incomplete_nil
    [bytes] [bytes.take 20, bytes.drop 20] (by simp) ?_ ?_ []
  · exact ⟨by decide, trivial⟩
  · exact ⟨by decide, by decide, trivial⟩

/-- A canceled stream and the first frame of another one.  Read together, the
cancel frame ends the read and the other stream loses its header; read apart,
the header is delivered. -/
theorem cancel_loses_frames_of_the_same_read :
    let canceled := frameBytes
      [⟨1, 0, .open, (RpcHeader.mk .response 7 5 []).toBytes⟩, ⟨1, 1, .cancel, []⟩]
    let other := frameBytes [⟨2, 0, .open, (RpcHeader.mk .response 8 5 []).toBytes⟩]
    [canceled ++ other].flatten = [canceled, other].flatten ∧
      (readChunks record (new .client 0).1 [] [canceled ++ other]).2.2 =
        [(RpcHeader.mk .response 7 5 []).headerEvent, .failure .readAfterCancel] ∧
      (readChunks record (new .client 0).1 [] [canceled, other]).2.2 =
        [(RpcHeader.mk .response 7 5 []).headerEvent, .failure .readAfterCancel,
          (RpcHeader.mk .response 8 5 []).headerEvent] := by
  refine ⟨by simp, ?_, ?_⟩
  · decide
  · decide

end RpcSession

end Muxio.Rpc
