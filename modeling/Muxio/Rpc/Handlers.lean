import Muxio.Rpc.Dispatcher
import Muxio.Rpc.Streams

/-!
# Who receives the events of a request

A stored response handler, a handler supplied by the router and the catch-all
compete for the events of one request.  The results here say who gets the events
of a response, and what becomes of a request whose stream is canceled.
-/

namespace Muxio.Rpc

open Std
open Muxio.Framing
open Muxio.Transition

universe u

/-! ## Responses to pending calls -/

namespace Slot

section Plain

variable {H : Type u} (router : Option (StreamMethodRouter H)) (catchAll : Bool) (rpcId : UInt32)
  {slot : Slot H} {handler : H}

/-- A stored handler that does not prebuffer gets an event the router leaves
alone. -/
theorem onEvent_plain (stored : slot.handler = some handler)
    (plain : slot.prebuffering ≠ some true) {event : RpcStreamEvent}
    (unrouted : slot.route router rpcId event = (slot, [])) :
    slot.onEvent router catchAll rpcId event =
      (if event.isEnd || event.isError then empty else slot, [.invoked handler event]) := by
  have notPrebuffering : slot.prebuffering.getD false = false := by
    cases flag : slot.prebuffering with
    | none => rfl
    | some value =>
        cases value with
        | false => rfl
        | true => exact absurd flag plain
  simp [onEvent, unrouted, settle, notPrebuffering, invoke, stored]

/-- Events that the router leaves alone go to the stored handler, up to one that ends the
stream. -/
theorem onEvents_plain (stored : slot.handler = some handler)
    (plain : slot.prebuffering ≠ some true) {front ending : List RpcStreamEvent}
    (unrouted : ∀ event ∈ front ++ ending, slot.route router rpcId event = (slot, []))
    (goesOn : ∀ event ∈ front, (event.isEnd || event.isError) = false)
    (short : ending.length ≤ 1) :
    (slot.onEvents router catchAll rpcId (front ++ ending)).2 =
      (front ++ ending).map (.invoked handler) := by
  induction front with
  | nil =>
      match ending, short with
      | [], _ => rfl
      | [event], _ =>
          rw [List.nil_append, onEvents,
            onEvent_plain router catchAll rpcId stored plain (unrouted event List.mem_cons_self)]
          rfl
  | cons event rest ih =>
      rw [List.cons_append, onEvents,
        onEvent_plain router catchAll rpcId stored plain (unrouted event List.mem_cons_self),
        goesOn event List.mem_cons_self]
      exact congrArg (_ :: ·)
        (ih (fun other member => unrouted other (List.mem_cons_of_mem _ member))
          fun other member => goesOn other (List.mem_cons_of_mem _ member))

/-- Payload chunks and the end of a stream go to the stored handler. -/
theorem onEvents_payload (stored : slot.handler = some handler)
    (plain : slot.prebuffering ≠ some true) (header : RpcHeader) (payloads : List (List UInt8)) :
    (slot.onEvents router catchAll rpcId
        (payloads.map header.chunkEvent ++ [header.endEvent])).2 =
      (payloads.map header.chunkEvent ++ [header.endEvent]).map (.invoked handler) := by
  apply onEvents_plain router catchAll rpcId stored plain
  · intro event member
    rcases List.mem_append.mp member with chunk | ending
    · obtain ⟨payload, -, rfl⟩ := List.mem_map.mp chunk
      rfl
    · rw [List.mem_singleton.mp ending]
      rfl
  · intro event member
    obtain ⟨payload, -, rfl⟩ := List.mem_map.mp member
    rfl
  · exact Nat.le_refl 1

/-- With a catch-all, exactly the streams that the router leaves alone and that
are not prebuffered go to the stored handler alone. -/
theorem onEvents_streamEvents_iff (stored : slot.handler = some handler) (header : RpcHeader)
    (payloads : List (List UInt8)) :
    (slot.onEvents router true rpcId (header.streamEvents payloads)).2 =
        (header.streamEvents payloads).map (.invoked handler) ↔
      (router.bind fun routerFn => routerFn header.rpcMethodId rpcId) = none ∧
        slot.prebuffering ≠ some true := by
  rw [RpcHeader.streamEvents, List.cons_append, onEvents, List.map_cons]
  cases routed : router.bind fun routerFn => routerFn header.rpcMethodId rpcId with
  | some replacement =>
      have replaced : slot.route router rpcId header.headerEvent =
          ({ slot with handler := some replacement },
            [.routed header.rpcMethodId rpcId replacement]) := by
        simp only [route, RpcHeader.headerEvent, routed]
      simp [onEvent, replaced]
  | none =>
      have unrouted : slot.route router rpcId header.headerEvent = (slot, []) := by
        simp only [route, RpcHeader.headerEvent, routed]
      by_cases flag : slot.prebuffering = some true
      · have settled : (slot.onEvent router true rpcId header.headerEvent).2 =
            [.invoked handler header.headerEvent, .caught header.headerEvent] := by
          rw [onEvent, unrouted]
          simp [settle, flag, invoke, stored, RpcHeader.headerEvent]
        simp only [settled, flag]
        cases payloads <;> simp
      · have step : slot.onEvent router true rpcId header.headerEvent =
            (slot, [.invoked handler header.headerEvent]) :=
          onEvent_plain router true rpcId stored flag unrouted
        have rest := onEvents_payload router true rpcId stored flag header payloads
        simp [step, rest, flag]

end Plain

end Slot

/-- No request has two handlers. -/
theorem Routing.handlers_distinct {H : Type u} (routing : Routing H) :
    routing.responseHandlers.toList.Pairwise fun first second => first.1 ≠ second.1 := by
  apply ExtTreeMap.distinct_keys_toList.imp
  intro first second different same
  rw [same] at different
  exact different compare_self

namespace RpcDispatcher

variable {H : Type u}

/-- The tables of a dispatcher that are keyed by request id. -/
def routing (dispatcher : RpcDispatcher H) : Routing H :=
  dispatcher.rpcRespondableSession.routing

/-- What reads do to one request. -/
theorem readChunks_ofRequest (dispatcher : RpcDispatcher H) (chunks : List (List UInt8))
    (rpcId : UInt32) :
    (dispatcher.readChunks chunks).2.1.routing.slot rpcId =
        ((dispatcher.routing.slot rpcId).onEvents
          dispatcher.rpcRespondableSession.streamMethodRouter
          dispatcher.rpcRespondableSession.catchAllResponseHandler rpcId
          ((dispatcher.session.decodeChunks chunks).1.filter fun event =>
            event.requestId = some rpcId)).1 ∧
      ((dispatcher.readChunks chunks).2.2.filter fun action => action.requestId = some rpcId) =
        ((dispatcher.routing.slot rpcId).onEvents
          dispatcher.rpcRespondableSession.streamMethodRouter
          dispatcher.rpcRespondableSession.catchAllResponseHandler rpcId
          ((dispatcher.session.decodeChunks chunks).1.filter fun event =>
            event.requestId = some rpcId)).2 := by
  rw [(dispatcher.readChunks_eq chunks).2]
  exact Routing.onEvents_slot _ _ _ _ _

/-- A response stream for a pending call is delivered to the handler that the
call stored, and to nobody else, exactly when the router offers no handler for
its method and the call does not prebuffer. -/
theorem response_reaches_caller_iff (dispatcher : RpcDispatcher H)
    (catchesAll : dispatcher.rpcRespondableSession.catchAllResponseHandler = true)
    {rpcRequestId : UInt32} {handler : H}
    (pending : dispatcher.routing.responseHandlers[rpcRequestId]? = some handler)
    (rpcMethodId : UInt64) (rpcMetadataBytes : List UInt8) (payloads : List (List UInt8))
    (chunks : List (List UInt8))
    (inbound : ((dispatcher.session.decodeChunks chunks).1.filter fun event =>
        event.requestId = some rpcRequestId) =
      RpcHeader.streamEvents ⟨.response, rpcRequestId, rpcMethodId, rpcMetadataBytes⟩ payloads) :
    ((dispatcher.readChunks chunks).2.2.filter fun action =>
        action.requestId = some rpcRequestId) =
        (RpcHeader.streamEvents ⟨.response, rpcRequestId, rpcMethodId, rpcMetadataBytes⟩
          payloads).map (.invoked handler) ↔
      (dispatcher.rpcRespondableSession.streamMethodRouter.bind fun router =>
          router rpcMethodId rpcRequestId) = none ∧
        dispatcher.routing.prebufferingFlags[rpcRequestId]? ≠ some true := by
  rw [(dispatcher.readChunks_ofRequest chunks rpcRequestId).2, inbound, catchesAll]
  exact Slot.onEvents_streamEvents_iff _ _ pending _ _

/-- A client that has called method `5` with the handler `true`. -/
def callOfFive (router : Option (StreamMethodRouter Bool)) (prebufferResponse : Bool) :
    RpcDispatcher Bool :=
  let made := newWithIdSpace .client 0
  let dispatcher := match router with
    | some routerFn => made.1.setStreamMethodRouter routerFn
    | none => made.1
  (dispatcher.call ⟨5, none, none, true⟩ 64 (some true) prebufferResponse made.2).dispatcher

/-- The bytes with which a server answers request `1` on method `5`. -/
def answerToOne : List UInt8 :=
  let made : RpcDispatcher Bool × Nat := newWithIdSpace .server 0
  frameBytes (made.1.respond ⟨1, 5, some 0, some [9], true⟩ 64 made.2).outcome.frames

/-- Without a router the answer reaches the caller. -/
theorem response_reaches_caller_without_router :
    ((callOfFive none false).readChunks [answerToOne]).2.2.filter (fun action =>
        action.requestId = some 1) =
      (RpcHeader.streamEvents ⟨.response, 1, 5, [0]⟩ [[9]]).map (.invoked true) := by
  apply (response_reaches_caller_iff (callOfFive none false) rfl (by decide) 5 [0] [[9]]
    [answerToOne] (by decide)).mpr
  exact ⟨rfl, by decide⟩

/-- A streaming handler for the called method takes the answer away from the
caller, and a prebuffered answer goes to the catch-all as well. -/
theorem router_takes_response :
    (callOfFive (some fun _ _ => some false) false).routing.responseHandlers[(1 : UInt32)]? =
        some true ∧
      ((callOfFive (some fun _ _ => some false) false).session.decodeChunks [answerToOne]).1 =
        RpcHeader.streamEvents ⟨.response, 1, 5, [0]⟩ [[9]] ∧
      ((callOfFive (some fun _ _ => some false) false).readChunks [answerToOne]).2.2 =
        .routed 5 1 false ::
          (RpcHeader.streamEvents ⟨.response, 1, 5, [0]⟩ [[9]]).map (.invoked false) ∧
      (callOfFive none true).routing.responseHandlers[(1 : UInt32)]? = some true ∧
      .caught (RpcHeader.headerEvent ⟨.response, 1, 5, [0]⟩) ∈
        ((callOfFive none true).readChunks [answerToOne]).2.2 := by
  decide

end RpcDispatcher

/-! ## Canceled streams -/

namespace RpcStreamDecoder

/-- A stream decoder reports failures as errors, never as events. -/
theorem decodeHeaderFrame_isError {decoder : RpcStreamDecoder} {frame : DecodedFrame}
    {events : List RpcStreamEvent} (decoded : (decoder.decodeHeaderFrame frame).1 = .ok events) :
    ∀ event ∈ events, event.isError = false := by
  unfold decodeHeaderFrame at decoded
  simp only at decoded
  split at decoded
  · cases decoded
    simp
  · split at decoded
    · contradiction
    · split at decoded
      · cases decoded
        simp
      · cases decoded
        intro event member
        rcases List.mem_cons.mp member with rfl | later
        · rfl
        · split at later
          · contradiction
          · rw [List.mem_singleton.mp later]
            rfl

@[inherit_doc decodeHeaderFrame_isError]
theorem decodePayloadFrame_isError {decoder : RpcStreamDecoder} {frame : DecodedFrame}
    {events : List RpcStreamEvent} (decoded : (decoder.decodePayloadFrame frame).1 = .ok events) :
    ∀ event ∈ events, event.isError = false := by
  unfold decodePayloadFrame at decoded
  split at decoded
  · contradiction
  · split at decoded
    · simp only at decoded
      split at decoded
      · cases decoded
        simp [RpcStreamEvent.isError]
      · contradiction
    · split at decoded
      · contradiction
      · split at decoded
        · cases decoded
          simp [RpcStreamEvent.isError]
        · contradiction

@[inherit_doc decodeHeaderFrame_isError]
theorem decodeRpcFrame_isError {decoder : RpcStreamDecoder} {frame : DecodedFrame}
    {events : List RpcStreamEvent} (decoded : (decoder.decodeRpcFrame frame).1 = .ok events) :
    ∀ event ∈ events, event.isError = false := by
  unfold decodeRpcFrame at decoded
  split at decoded
  · exact decodeHeaderFrame_isError decoded
  · exact decodePayloadFrame_isError decoded
  · cases decoded
    simp

end RpcStreamDecoder

namespace RpcSession

/-- The error events of a session name no request. -/
theorem decodeEntry_error {entry : Option RpcStreamDecoder} {frame : DecodedFrame}
    {event : RpcStreamEvent} (member : event ∈ (decodeEntry entry frame).1)
    (isError : event.isError = true) : event.requestId = none := by
  unfold decodeEntry at member
  split at member
  · rename_i events decoder decoded
    have noError := RpcStreamDecoder.decodeRpcFrame_isError (congrArg Prod.fst decoded) event member
    rw [noError] at isError
    contradiction
  · rw [List.mem_singleton.mp member]
    rfl

theorem decodeItems_error {decoders : Decoders} {items : List Item} {event : RpcStreamEvent}
    (member : event ∈ (decodeItems decoders items).1) (isError : event.isError = true) :
    event.requestId = none := by
  induction items generalizing decoders with
  | nil => contradiction
  | cons item rest ih =>
      cases item with
      | error error =>
          rcases List.mem_cons.mp member with rfl | later
          · rfl
          · exact ih later
      | ok frame =>
          simp only [decodeItems] at member
          split at member
          · exact decodeEntry_error member isError
          · rcases List.mem_append.mp member with here | later
            · exact decodeEntry_error here isError
            · exact ih later

/-- A read fails only with an error event. -/
theorem decodeItems_ok {decoders : Decoders} {items : List Item}
    (noError : ∀ event ∈ (decodeItems decoders items).1, event.isError = false) :
    (decodeItems decoders items).2.1 = .ok () := by
  induction items generalizing decoders with
  | nil => rfl
  | cons item rest ih =>
      cases item with
      | error error =>
          exact ih fun event member => noError event (List.mem_cons_of_mem _ member)
      | ok frame =>
          simp only [decodeItems] at noError ⊢
          split
          · rename_i error rejected
            rw [rejected] at noError
            have accepted := rejection_eq_none fun event member => noError event member
            rw [accepted] at rejected
            contradiction
          · rename_i accepted
            rw [accepted] at noError
            exact ih fun event member => noError event (List.mem_append_right _ member)

theorem decodeChunks_error {session : RpcSession} {chunks : List (List UInt8)}
    {event : RpcStreamEvent} (member : event ∈ (session.decodeChunks chunks).1)
    (isError : event.isError = true) : event.requestId = none := by
  induction chunks generalizing session with
  | nil => contradiction
  | cons chunk rest ih =>
      rcases List.mem_append.mp member with first | later
      · exact decodeItems_error first isError
      · exact ih later

end RpcSession

/-- A handler is called with events that name a request, and told of an error
only by an error event of the read. -/
theorem Routing.onEvents_invoked {H : Type u} {router : Option (StreamMethodRouter H)}
    {catchAll : Bool} {routing : Routing H} {events : List RpcStreamEvent} {handler : H}
    {event : RpcStreamEvent}
    (member : .invoked handler event ∈ (routing.onEvents router catchAll events).2) :
    event.requestId ≠ none ∧ (event.isError = true → event ∈ events) := by
  induction events generalizing routing with
  | nil => contradiction
  | cons first rest ih =>
      rcases List.mem_append.mp member with here | later
      · cases named : first.requestId with
        | none =>
            simp only [routing.onEvent_unnamed router catchAll named] at here
            split at here
            · simp at here
            · contradiction
        | some rpcId =>
            rw [(routing.onEvent_slot router catchAll named).2] at here
            rcases List.mem_append.mp here with routed | settled
            · rcases Slot.mem_route routed with ⟨_, _, actionEq⟩
              contradiction
            · rcases Slot.mem_settle named settled with
                ⟨_, delivered, -, actionEq, deliveredId, same⟩ | caught
              · cases actionEq
                refine ⟨by simp [deliveredId], ?_⟩
                intro isError
                rcases same with rfl | noError
                · exact List.mem_cons_self ..
                · rw [noError] at isError
                  contradiction
              · contradiction
      · exact ⟨(ih later).1, fun isError => List.mem_cons_of_mem _ ((ih later).2 isError)⟩

/-- A cancel frame after the header is a failure that names no request. -/
theorem RpcSession.decodeBytes_cancel {session : RpcSession} {frame : Frame}
    (isCancel : frame.kind = .cancel) (fits : frame.payload.length < 2 ^ 32) {bytes : List UInt8}
    (completes : session.frameMuxStreamDecoder.buffer ++ bytes = FrameCodec.encode frame)
    {decoder : RpcStreamDecoder} {header : RpcHeader}
    (stored : session.rpcStreamDecoders[frame.streamId]? = some decoder)
    (awaiting : decoder.state = .awaitPayload) (known : decoder.header = some header) :
    (session.decodeBytes bytes).1 = [.failure .readAfterCancel] ∧
      (session.decodeBytes bytes).2.1 = .error .readAfterCancel ∧
      (session.decodeBytes bytes).2.2.rpcStreamDecoders =
        session.rpcStreamDecoders.erase frame.streamId := by
  have delivered : session.frameMuxStreamDecoder.buffer ++ bytes = frameBytes [frame] ++ [] := by
    simp [completes, frameBytes]
  have read := FrameMuxStreamDecoder.readBytes_frameBytes
    (show Fits [frame] by simpa [Fits] using fits) rfl delivered
    FrameMuxStreamDecoder.incomplete_nil
  have receivedEq : frame.received = { frame with payload := [] } := by
    simp only [Frame.received, isCancel]
  have receivedKind : frame.received.kind = .cancel := by
    rw [receivedEq]
    exact isCancel
  have accepted : ∀ entry, (StreamReassembly.accept entry frame.decoded).1 =
      [.ok ⟨frame.received, some .readAfterCancel⟩] := by
    intro entry
    unfold StreamReassembly.accept
    split
    · rfl
    · rw [if_pos (show frame.decoded.inner.kind = .cancel from receivedKind)]
      rfl
  have items : (session.frameMuxStreamDecoder.readBytes bytes).1 =
      [.ok ⟨frame.received, some .readAfterCancel⟩] := by
    rw [read, List.map_singleton, FrameMuxStreamDecoder.acceptAll_cons]
    simp [FrameMuxStreamDecoder.acceptFrame, accepted]
  have rejected : decoder.decodeRpcFrame ⟨frame.received, some .readAfterCancel⟩ =
      (.error .readAfterCancel, decoder) := by
    simp [RpcStreamDecoder.decodeRpcFrame, awaiting, RpcStreamDecoder.decodePayloadFrame, known,
      receivedKind]
  have sameStream : frame.received.streamId = frame.streamId := by rw [receivedEq]
  simp only [decodeBytes, items, decodeItems, sameStream, stored, decodeEntry, rejection,
    Option.getD_some, rejected, setEntry, and_self]

/-- Whether an action tells a handler that a request failed. -/
def Action.reportsError {H : Type u} (rpcRequestId : UInt32) : Action H → Bool
  | invoked _ event => event.isError && decide (event.requestId = some rpcRequestId)
  | _ => false

/-- What a consumer may expect of reads that cancel the stream of its request:
it is told once, all state of the request is dropped, other requests are left
alone. -/
structure CancelReported {H : Type u} (before after : RpcDispatcher H) (actions : List (Action H))
    (consumer : H) (rpcRequestId : UInt32) : Prop where
  reported : ∃ rpcHeader rpcMethodId error, actions.filter (Action.reportsError rpcRequestId) =
    [.invoked consumer (.error rpcHeader (some rpcRequestId) rpcMethodId error)]
  dropped : after.routing.slot rpcRequestId = Slot.empty ∧
    after.rpcRequestQueue.ofRequest rpcRequestId = []
  others : ∀ other ≠ rpcRequestId, after.routing.slot other = before.routing.slot other ∧
    after.rpcRequestQueue.ofRequest other = before.rpcRequestQueue.ofRequest other

namespace RpcDispatcher

variable {H : Type u}

/-- No read ever tells a handler that its request failed, so no cancellation is
reported. -/
theorem cancel_never_reported (dispatcher : RpcDispatcher H) (chunks : List (List UInt8))
    (consumer : H) (rpcRequestId : UInt32) :
    ¬ CancelReported dispatcher (dispatcher.readChunks chunks).2.1
      (dispatcher.readChunks chunks).2.2 consumer rpcRequestId := by
  intro canceled
  rcases canceled.reported with ⟨rpcHeader, rpcMethodId, error, reports⟩
  have member : .invoked consumer (.error rpcHeader (some rpcRequestId) rpcMethodId error) ∈
      (dispatcher.readChunks chunks).2.2 := by
    apply List.mem_of_mem_filter
    rw [reports]
    exact List.mem_singleton_self _
  rw [(dispatcher.readChunks_eq chunks).2] at member
  rcases Routing.onEvents_invoked member with ⟨named, delivered⟩
  exact named (RpcSession.decodeChunks_error (delivered rfl) rfl)

/-- A client awaits the payload of a response, and the response is canceled: only
the catch-all learns of it, and the handler stays in its table. -/
theorem cancel_leaves_pending_call :
    let opened := (RpcStreamEncoder.new 9 64 ⟨.response, 1, 5, [0]⟩).andThen
      FrameStreamEncoder.flush
    let caller := (callOfFive none false).readBytes (frameBytes opened.frames)
    let read := caller.2.1.readBytes (frameBytes opened.encoder.cancelStream.frames)
    caller.2.2 = [.invoked true (RpcHeader.headerEvent ⟨.response, 1, 5, [0]⟩)] ∧
      read.1 = .error .readAfterCancel ∧
      read.2.2 = [.caught (.failure .readAfterCancel)] ∧
      read.2.1.routing.responseHandlers[(1 : UInt32)]? = some true ∧
      read.2.1.routing.prebufferingFlags[(1 : UInt32)]? = some false := by
  decide

/-- Canceling a stream whose header has been delivered leaves all requests as
they are. -/
theorem readBytes_cancel {dispatcher : RpcDispatcher H} {frame : Frame}
    (isCancel : frame.kind = .cancel) (fits : frame.payload.length < 2 ^ 32) {bytes : List UInt8}
    (completes : dispatcher.session.frameMuxStreamDecoder.buffer ++ bytes = FrameCodec.encode frame)
    {decoder : RpcStreamDecoder} {header : RpcHeader}
    (stored : dispatcher.session.rpcStreamDecoders[frame.streamId]? = some decoder)
    (awaiting : decoder.state = .awaitPayload) (known : decoder.header = some header) :
    (dispatcher.readBytes bytes).1 = .error .readAfterCancel ∧
      (dispatcher.readBytes bytes).2.1.routing = dispatcher.routing ∧
      (dispatcher.readBytes bytes).2.1.rpcRequestQueue = dispatcher.rpcRequestQueue := by
  rcases RpcSession.decodeBytes_cancel isCancel fits completes stored awaiting known with
    ⟨events, result, -⟩
  have actions : dispatcher.actionsOf [.failure .readAfterCancel] =
      (dispatcher.routing, if dispatcher.rpcRespondableSession.catchAllResponseHandler then
        [.caught (.failure .readAfterCancel)] else []) := by
    simp only [actionsOf, Routing.onEvents, Routing.onEvent_unnamed _ _ _
      (show (RpcStreamEvent.failure .readAfterCancel).requestId = none from rfl), List.append_nil]
    rfl
  simp only [readBytes_eq, events, result, afterEvents, actions]
  refine ⟨rfl, rfl, ?_⟩
  split <;> rfl

end RpcDispatcher

end Muxio.Rpc
