import Muxio.Rpc.Messages
import Muxio.Service.Endpoint

/-!
# Responses at an endpoint

Nothing on the read path of an endpoint looks at the message type, so a response
that no pending call claims is served like a call.  The main result says exactly
when a read of responses runs no handler and emits nothing.
-/

namespace Muxio.Service

open Std
open Muxio.Framing
open Muxio.Rpc

universe u

/-! ## Complete response streams -/

/-- Events of complete response streams in any interleaving; the tags tell the
streams apart. -/
def CompleteResponses (tagged : List (UInt32 × RpcStreamEvent)) : Prop :=
  ∀ output ∈ tagged, ∃ header : RpcHeader, ∃ payloads : List (List UInt8),
    header.rpcMsgType = .response ∧
      ((tagged.filter fun other => other.1 = output.1).map Prod.snd) = header.streamEvents payloads

namespace CompleteResponses

variable {tagged : List (UInt32 × RpcStreamEvent)} (complete : CompleteResponses tagged)

include complete

/-- Every event of a stream names the same request and is no error. -/
theorem sameStream {output other : UInt32 × RpcStreamEvent} (outputMem : output ∈ tagged)
    (otherMem : other ∈ tagged) (sameTag : other.1 = output.1) :
    other.2.requestId = output.2.requestId ∧ output.2.isError = false ∧
      output.2.requestId ≠ none := by
  rcases complete output outputMem with ⟨header, payloads, -, streamEq⟩
  have ofStream : ∀ entry ∈ tagged, entry.1 = output.1 →
      entry.2 ∈ header.streamEvents payloads := by
    intro entry entryMem entryTag
    rw [← streamEq]
    exact List.mem_map_of_mem (List.mem_filter.mpr ⟨entryMem, by simp [entryTag]⟩)
  have outputFacts := RpcHeader.mem_streamEvents (ofStream output outputMem rfl)
  have otherFacts := RpcHeader.mem_streamEvents (ofStream other otherMem sameTag)
  exact ⟨otherFacts.1.trans outputFacts.1.symm, outputFacts.2, by simp [outputFacts.1]⟩

/-- The streams of one request are complete again. -/
theorem ofRequest (rpcRequestId : UInt32) :
    CompleteResponses (tagged.filter fun output => output.2.requestId = some rpcRequestId) := by
  intro output member
  rcases List.mem_filter.mp member with ⟨outputMem, named⟩
  rw [decide_eq_true_eq] at named
  rcases complete output outputMem with ⟨header, payloads, isResponse, streamEq⟩
  refine ⟨header, payloads, isResponse, ?_⟩
  rw [← streamEq, List.filter_filter]
  congr 1
  apply List.filter_congr
  intro other otherMem
  by_cases sameTag : other.1 = output.1
  · have sameRequest := (complete.sameStream outputMem otherMem sameTag).1
    simp [sameTag, sameRequest, named]
  · simp [sameTag]

/-- The first event is a header. -/
theorem announced {event : RpcStreamEvent} {rest : List RpcStreamEvent}
    (events : tagged.map Prod.snd = event :: rest) : event.isHeader = true := by
  cases tagged with
  | nil => contradiction
  | cons output others =>
      rcases complete output (List.mem_cons_self ..) with ⟨header, payloads, -, streamEq⟩
      rw [List.filter_cons_of_pos (by simp), List.map_cons] at streamEq
      rw [List.map_cons] at events
      rw [← (List.cons.inj events).1, (List.cons.inj streamEq).1]
      rfl

/-- Every header is followed by an end. -/
theorem headersEnd : RpcRequest.HeadersEnd (tagged.map Prod.snd) := by
  intro before event after events isHeader
  rcases List.map_eq_append_iff.mp events with ⟨first, second, rfl, -, secondEq⟩
  rcases List.map_eq_cons_iff.mp secondEq with ⟨output, later, rfl, rfl, rfl⟩
  rcases complete output (by simp) with ⟨header, payloads, -, streamEq⟩
  rw [List.filter_append, List.filter_cons_of_pos (by simp), List.map_append, List.map_cons]
    at streamEq
  have last := congrArg List.getLast? streamEq
  rw [List.getLast?_append_cons, RpcHeader.streamEvents, List.getLast?_concat] at last
  rcases List.mem_cons.mp (List.mem_of_getLast? last) with here | member
  · rw [← here] at isHeader
    contradiction
  · rcases List.mem_map.mp member with ⟨ended, endedMem, endedEq⟩
    exact ⟨ended.2, List.mem_map_of_mem (List.mem_of_mem_filter endedMem), endedEq ▸ rfl⟩

end CompleteResponses

/-- Whole response messages are read as complete response streams, for every order
of their frames. -/
theorem completeResponses_of_scripts {scripts : List RpcScript}
    (distinct : (scripts.map RpcScript.streamId).Nodup)
    (isResponse : ∀ script ∈ scripts, script.header.rpcMsgType = .response)
    (flushed : ∀ script ∈ scripts, WriteOp.unflushed script.header.toBytes.length script.ops %
      script.maxChunkSize = 0)
    {arrivals : List Frame} (perm : arrivals.Perm (scripts.flatMap RpcScript.frames))
    {session : RpcSession} (freshMux : session.frameMuxStreamDecoder = FrameMuxStreamDecoder.new)
    (freshDecoders : session.rpcStreamDecoders = ∅) :
    ∃ tagged, (session.decodeBytes (frameBytes arrivals)).1 = tagged.map Prod.snd ∧
      CompleteResponses tagged := by
  rcases RpcScript.decodeChunks_perm distinct perm (List.flatten_singleton ..) freshMux
    freshDecoders with ⟨tagged, decoded, perScript, tags⟩
  refine ⟨tagged, ?_, ?_⟩
  · have events := congrArg Prod.fst decoded
    rwa [RpcSession.decodeChunks, RpcSession.decodeChunks, List.append_nil] at events
  · intro output member
    rcases List.mem_map.mp (tags output member) with ⟨script, scriptMem, tagEq⟩
    rcases RpcScript.events_of_flushed (flushed script scriptMem) with ⟨chunks, eventsEq, -⟩
    refine ⟨script.header, chunks, isResponse script scriptMem, ?_⟩
    rw [← tagEq, perScript script scriptMem, ← eventsEq, List.map_map]
    exact List.map_id _

/-! ## Quiet reads -/

/-- A read that runs no handler and emits nothing. -/
structure EndpointRead.Quiet {R : Type u} (read : EndpointRead R) : Prop where
  noStream : ∀ rpcMethodId event, .invoked (.stream rpcMethodId) event ∉ read.actions
  noHandler : read.invocations = []
  silent : read.frames = []

theorem collectFinalized_eq_nil_iff {H : Type u} (dispatcher : RpcDispatcher H)
    (ids : List UInt32) :
    (collectFinalized dispatcher ids).1 = [] ↔
      ∀ id ∈ ids, dispatcher.isRpcRequestFinalized id ≠ some true := by
  induction ids with
  | nil => simp [collectFinalized]
  | cons id rest ih =>
      rw [collectFinalized]
      by_cases finalized : dispatcher.isRpcRequestFinalized id = some true
      · have found : ∃ request, dispatcher.rpcRequestQueue.find id = some request := by
          rcases Option.map_eq_some_iff.mp finalized with ⟨request, requestEq, -⟩
          exact ⟨request, requestEq⟩
        rcases found with ⟨request, found⟩
        rw [if_pos (by simp [finalized])]
        simp [RpcDispatcher.deleteRpcRequest, found, finalized]
      · have notFinalized : ¬ (dispatcher.isRpcRequestFinalized id).getD false = true := by
          cases status : dispatcher.isRpcRequestFinalized id with
          | none => simp
          | some value =>
              rw [status] at finalized
              simpa using finalized
        rw [if_neg notFinalized, ih]
        simp [finalized]

/-- The frames of one stream, from which a peer decodes this response. -/
def CarriesResponse (response : RpcResponse) (frames : List Frame) : Prop :=
  ∃ streamId chunks, (∀ frame ∈ frames, frame.streamId = streamId) ∧
    eventsOfFrames frames = (RpcDispatcher.responseHeader response).streamEvents chunks ∧
    chunks.flatten = response.rpcPrebufferedPayloadBytes.getD []

theorem respond_carries {H : Type u} (dispatcher : RpcDispatcher H) {response : RpcResponse}
    (finalized : response.isFinalized = true) (handedOut : Nat) :
    CarriesResponse response
      (dispatcher.respond response defaultServiceMaxChunkSize handedOut).outcome.frames := by
  have positive : 0 < defaultServiceMaxChunkSize := by decide
  obtain ⟨chunks, eventsEq, flattens, -⟩ := eventsOfFrames_message dispatcher.streamId positive
    (RpcDispatcher.responseHeader_fits response) response.rpcPrebufferedPayloadBytes
  rw [RpcDispatcher.respond_outcome, finalized, sendPayload_finalized _ positive]
  refine ⟨dispatcher.streamId, chunks, ?_, eventsEq, flattens⟩
  intro frame member
  rcases WriteOp.emitStream_eq dispatcher.streamId positive
    (messageOps (RpcDispatcher.responseHeader response)
      response.rpcPrebufferedPayloadBytes true) with
    ⟨payloads, last, framesEq, -⟩
  rw [framesEq] at member
  exact (mem_streamFrames member).1

/-- A finalized response emits at least its end frame. -/
theorem respond_frames_ne_nil {H : Type u} (dispatcher : RpcDispatcher H) {response : RpcResponse}
    (finalized : response.isFinalized = true) (handedOut : Nat) :
    (dispatcher.respond response defaultServiceMaxChunkSize handedOut).outcome.frames ≠ [] := by
  intro nothing
  rcases respond_carries dispatcher finalized handedOut with ⟨-, chunks, -, eventsEq, -⟩
  rw [nothing] at eventsEq
  cases eventsEq

theorem sendResponses_eq_nil_iff {H : Type u} (dispatcher : RpcDispatcher H) (handedOut : Nat)
    {responses : List RpcResponse}
    (finalized : ∀ response ∈ responses, response.isFinalized = true) :
    (sendResponses dispatcher handedOut responses).1 = [] ↔ responses = [] := by
  cases responses with
  | nil => simp [sendResponses]
  | cons response rest =>
      have emits := respond_frames_ne_nil dispatcher (finalized response (List.mem_cons_self ..))
        handedOut
      simp [sendResponses, emits]

theorem runHandlers_finalized (endpoint : RpcServiceEndpoint)
    (requests : List (UInt32 × RpcRequest)) :
    ∀ response ∈ endpoint.runHandlers requests, response.isFinalized = true := by
  intro response member
  rcases List.mem_map.mp member with ⟨⟨requestId, request⟩, -, rfl⟩
  exact (endpoint.processSinglePrebufferedRequest_spec requestId request).2.2

/-- Actions that neither make nor call a streaming handler emit nothing. -/
theorem Responders.onActions_quiet {R : Type u}
    (streamHandlers : ExtTreeMap UInt64 StreamHandler compare) (responders : Responders)
    {actions : List (Action (EndpointHandler R))}
    (noRoute : ∀ rpcMethodId rpcRequestId handler,
      .routed rpcMethodId rpcRequestId handler ∉ actions)
    (noStream : ∀ rpcMethodId event, .invoked (.stream rpcMethodId) event ∉ actions) :
    responders.onActions streamHandlers actions = ([], responders) := by
  induction actions with
  | nil => rfl
  | cons action rest ih =>
      have restEq := ih
        (fun rpcMethodId rpcRequestId handler member =>
          noRoute rpcMethodId rpcRequestId handler (List.mem_cons_of_mem _ member))
        (fun rpcMethodId event member => noStream rpcMethodId event (List.mem_cons_of_mem _ member))
      have step : responders.onAction streamHandlers action = ([], responders) := by
        cases action with
        | routed rpcMethodId rpcRequestId handler =>
            exact absurd (List.mem_cons_self ..) (noRoute rpcMethodId rpcRequestId handler)
        | invoked handler event =>
            cases handler with
            | response => rfl
            | stream rpcMethodId =>
                exact absurd (List.mem_cons_self ..) (noStream rpcMethodId event)
        | caught => rfl
      rw [onActions, step]
      simp only [restEq, List.nil_append]

theorem installWriters_queue {H : Type u} (dispatcher : RpcDispatcher H) (handedOut : Nat)
    (responders : List StreamResponder) :
    (installWriters dispatcher handedOut responders).2.2.1.rpcRequestQueue =
      dispatcher.rpcRequestQueue := by
  induction responders generalizing dispatcher handedOut with
  | nil => rfl
  | cons responder rest ih => exact (ih _ _).trans rfl

theorem find_eq_none_of_absent {queue : RequestQueue} {rpcRequestId : UInt32}
    (absent : rpcRequestId ∉ queue.map Prod.fst) : queue.find rpcRequestId = none := by
  rw [RequestQueue.find, Option.map_eq_none_iff, List.find?_eq_none]
  intro entry member
  rw [decide_eq_true_eq]
  rintro rfl
  exact absent (List.mem_map_of_mem member)

/-- All requests of the queue are collected that can be. -/
theorem collectFinalized_queue_eq_nil_iff {H : Type u} {dispatcher : RpcDispatcher H}
    {ids : List UInt32} (idsEq : ids = dispatcher.rpcRequestQueue.map Prod.fst) :
    (collectFinalized dispatcher ids).1 = [] ↔
      ∀ rpcRequestId, ¬ RpcRequest.Collectable (dispatcher.rpcRequestQueue.find rpcRequestId) := by
  rw [collectFinalized_eq_nil_iff, idsEq]
  constructor
  · intro uncollected rpcRequestId
    by_cases queued : rpcRequestId ∈ dispatcher.rpcRequestQueue.map Prod.fst
    · exact uncollected rpcRequestId queued
    · rw [find_eq_none_of_absent queued]
      exact Option.some_ne_none true ∘ Eq.symm
  · intro uncollectable rpcRequestId _
    exact uncollectable rpcRequestId

/-- A read without decoding errors is quiet exactly when it calls no streaming
handler and leaves no complete request in the queue. -/
theorem readBytes_quiet_iff {R : Type u} (endpoint : RpcServiceEndpoint) (state : EndpointState R)
    (bytes : List UInt8) (handedOut : Nat)
    (decoded : (state.dispatcher.session.decodeBytes bytes).2.1 = .ok ()) :
    let dispatcher := (endpoint.installRouter state).dispatcher
    let actions := (dispatcher.actionsOf (dispatcher.session.decodeBytes bytes).1).2
    (endpoint.readBytes state bytes handedOut).Quiet ↔
      (∀ rpcMethodId event, .invoked (.stream rpcMethodId) event ∉ actions) ∧
        ∀ rpcRequestId, ¬ RpcRequest.Collectable
          ((dispatcher.rpcRequestQueue.replay actions).find rpcRequestId) := by
  intro dispatcher actions
  have sessionEq : dispatcher.session = state.dispatcher.session :=
    endpoint.installRouter_session state
  rw [← sessionEq] at decoded
  have readEq := dispatcher.readBytes_eq bytes
  rw [decoded] at readEq
  rcases endpoint.decodeBytes_ok state bytes handedOut (congrArg Prod.fst readEq) with
    ⟨resultEq, -, -, decodeActions, decodeFrames⟩
  rcases endpoint.readBytes_ok state bytes handedOut resultEq with
    ⟨readActions, readFrames, readInvocations, -⟩
  have actionsEq : (endpoint.readBytes state bytes handedOut).actions = actions :=
    readActions.trans (decodeActions.trans (congrArg (fun read => read.2.2) readEq))
  have queueEq : ∀ made, (installWriters (dispatcher.readBytes bytes).2.1 handedOut
      made).2.2.1.rpcRequestQueue = dispatcher.rpcRequestQueue.replay actions := fun made =>
    (installWriters_queue _ handedOut made).trans
      (congrArg (fun read => read.2.1.rpcRequestQueue) readEq)
  have uncollected := collectFinalized_queue_eq_nil_iff (congrArg (List.map Prod.fst) (queueEq
    (((endpoint.installRouter state).responders.onActions endpoint.streamHandlers
      (dispatcher.readBytes bytes).2.2).2.made.drop
        (endpoint.installRouter state).responders.made.length)).symm)
  rw [queueEq] at uncollected
  constructor
  · intro quiet
    have sentNothing := quiet.silent
    rw [readFrames, List.append_eq_nil_iff,
      sendResponses_eq_nil_iff _ _ (runHandlers_finalized endpoint _)] at sentNothing
    exact ⟨actionsEq ▸ quiet.noStream, uncollected.mp (List.map_eq_nil_iff.mp sentNothing.2)⟩
  · rintro ⟨noStream, uncollectable⟩
    have noRoute : ∀ rpcMethodId rpcRequestId handler,
        .routed rpcMethodId rpcRequestId handler ∉ actions := by
      intro rpcMethodId rpcRequestId handler member
      rcases Routing.onEvents_routed member with ⟨event, offer, invoked⟩
      have isStream := (endpoint.installRouter state).routesStreams event handler offer
      cases handler with
      | response => contradiction
      | stream => exact noStream _ event invoked
    have nothingCollected := uncollected.mpr uncollectable
    have sameActions : (dispatcher.readBytes bytes).2.2 = actions :=
      congrArg (fun read => read.2.2) readEq
    have nothingSent : (endpoint.installRouter state).responders.onActions endpoint.streamHandlers
        (dispatcher.readBytes bytes).2.2 = ([], (endpoint.installRouter state).responders) := by
      rw [sameActions]
      exact Responders.onActions_quiet _ _ noRoute noStream
    refine ⟨actionsEq ▸ noStream, ?_, ?_⟩
    · rw [readInvocations, nothingCollected]
      rfl
    · rw [readFrames, decodeFrames, nothingCollected, nothingSent]
      simp [installWriters, RpcServiceEndpoint.runHandlers, sendResponses]

/-! ## When responses are absorbed -/

/-- Every response belongs to a local call: no complete request is left over, no
streaming handler is registered for a response's method, each request of a
response is pending with a plain response handler, and after the first end for a
request there is neither another header nor an end for a queued request. -/
structure Absorbs {R : Type u} (dispatcher : RpcDispatcher (EndpointHandler R))
    (events : List RpcStreamEvent) : Prop where
  uncollected : ∀ rpcRequestId, dispatcher.isRpcRequestFinalized rpcRequestId ≠ some true
  unrouted : ∀ event ∈ events, offered (setup dispatcher).2 event = none
  pending : ∀ event ∈ events, ∀ rpcRequestId, event.requestId = some rpcRequestId →
    (∃ handler, dispatcher.routing.responseHandlers[rpcRequestId]? = some (.response handler)) ∧
      dispatcher.routing.prebufferingFlags[rpcRequestId]? ≠ some true
  single : ∀ rpcRequestId, ∀ event ∈ afterTerminal (events.filter fun event =>
      event.requestId = some rpcRequestId),
    event.isHeader = false ∧
      (event.isEnd = true → dispatcher.rpcRequestQueue.find rpcRequestId = none)

/-- Seen from one request. -/
theorem absorbs_iff {R : Type u} (dispatcher : RpcDispatcher (EndpointHandler R))
    (events : List RpcStreamEvent) (named : ∀ event ∈ events, event.requestId ≠ none) :
    Absorbs dispatcher events ↔ ∀ rpcRequestId,
      ¬ RpcRequest.Collectable (dispatcher.rpcRequestQueue.find rpcRequestId) ∧
      (∀ event ∈ events.filter fun event => event.requestId = some rpcRequestId,
        offered (setup dispatcher).2 event = none ∧
        (∃ handler, (dispatcher.routing.slot rpcRequestId).handler = some handler ∧
          ¬ handler.isStream = true) ∧
        (dispatcher.routing.slot rpcRequestId).prebuffering ≠ some true) ∧
      ∀ event ∈ afterTerminal (events.filter fun event => event.requestId = some rpcRequestId),
        event.isHeader = false ∧
          (event.isEnd = true → dispatcher.rpcRequestQueue.find rpcRequestId = none) := by
  constructor
  · intro absorbs rpcRequestId
    refine ⟨absorbs.uncollected rpcRequestId, ?_, absorbs.single rpcRequestId⟩
    intro event member
    rcases List.mem_filter.mp member with ⟨eventMem, named⟩
    rcases absorbs.pending event eventMem rpcRequestId (of_decide_eq_true named) with
      ⟨⟨handler, stored⟩, plain⟩
    exact ⟨absorbs.unrouted event eventMem, ⟨.response handler, stored, by
      simp [EndpointHandler.isStream]⟩, plain⟩
  · intro perRequest
    refine ⟨fun rpcRequestId => (perRequest rpcRequestId).1, ?_, ?_,
      fun rpcRequestId => (perRequest rpcRequestId).2.2⟩
    · intro event member
      rcases Option.ne_none_iff_exists'.mp (named event member) with ⟨rpcRequestId, nameEq⟩
      exact ((perRequest rpcRequestId).2.1 event
        (List.mem_filter.mpr ⟨member, by simp [nameEq]⟩)).1
    · intro event member rpcRequestId nameEq
      rcases (perRequest rpcRequestId).2.1 event
        (List.mem_filter.mpr ⟨member, by simp [nameEq]⟩) with
        ⟨-, ⟨handler, stored, plainKind⟩, plain⟩
      cases handler with
      | response handler => exact ⟨⟨handler, stored⟩, plain⟩
      | stream => exact absurd rfl plainKind

theorem quiet_ofRequest_iff {R : Type u} {dispatcher : RpcDispatcher (EndpointHandler R)}
    (catchesAll : (setup dispatcher).1 = true)
    (routesStreams : ∀ event handler, offered (setup dispatcher).2 event = some handler →
      handler.isStream = true)
    {tagged : List (UInt32 × RpcStreamEvent)} (complete : CompleteResponses tagged)
    (rpcRequestId : UInt32) :
    let events := (tagged.map Prod.snd).filter fun event => event.requestId = some rpcRequestId
    let actions := (dispatcher.actionsOf (tagged.map Prod.snd)).2
    let entry := dispatcher.rpcRequestQueue.find rpcRequestId
    let slot := dispatcher.routing.slot rpcRequestId
    ((∀ handler event, .invoked handler event ∈ (actions.filter fun action =>
          action.requestId = some rpcRequestId) → ¬ handler.isStream = true) ∧
        ¬ RpcRequest.Collectable
          ((dispatcher.rpcRequestQueue.replay actions).find rpcRequestId)) ↔
      ¬ RpcRequest.Collectable entry ∧
        (∀ event ∈ events, offered (setup dispatcher).2 event = none ∧
          (∃ handler, slot.handler = some handler ∧ ¬ handler.isStream = true) ∧
          slot.prebuffering ≠ some true) ∧
        ∀ event ∈ afterTerminal events,
          event.isHeader = false ∧ (event.isEnd = true → entry = none) := by
  intro events actions entry slot
  have ofRequest := complete.ofRequest rpcRequestId
  have eventsEq : events = (tagged.filter fun output =>
      output.2.requestId = some rpcRequestId).map Prod.snd := List.filter_map
  have named : ∀ event ∈ events, event.requestId = some rpcRequestId := fun event member =>
    of_decide_eq_true (List.mem_filter.mp member).2
  have selected : (actions.filter fun action => action.requestId = some rpcRequestId) =
      (slot.onEvents (setup dispatcher).2 true rpcRequestId events).2 := by
    rw [← catchesAll]
    exact (Routing.onEvents_slot _ _ _ _ _).2
  rw [RequestQueue.find_replay, selected]
  apply Slot.absorbed_iff routesStreams named
  · exact eventsEq ▸ ofRequest.headersEnd
  · intro event rest first
    exact ofRequest.announced (eventsEq ▸ first)

/-- A read of complete response streams runs no handler and emits nothing exactly
when every response belongs to a local call. -/
theorem responses_absorbed_iff {R : Type u} (endpoint : RpcServiceEndpoint)
    (state : EndpointState R) (bytes : List UInt8) (handedOut : Nat)
    (tagged : List (UInt32 × RpcStreamEvent))
    (inbound : (state.dispatcher.session.decodeBytes bytes).1 = tagged.map Prod.snd)
    (complete : CompleteResponses tagged) :
    (endpoint.readBytes state bytes handedOut).Quiet ↔
      Absorbs (endpoint.installRouter state).dispatcher (tagged.map Prod.snd) := by
  have named : ∀ event ∈ tagged.map Prod.snd, event.requestId ≠ none := by
    intro event member
    rcases List.mem_map.mp member with ⟨output, outputMem, rfl⟩
    exact (complete.sameStream outputMem outputMem rfl).2.2
  have noError : ∀ event ∈ (state.dispatcher.session.decodeBytes bytes).1,
      event.isError = false := by
    intro event member
    rw [inbound] at member
    rcases List.mem_map.mp member with ⟨output, outputMem, rfl⟩
    exact (complete.sameStream outputMem outputMem rfl).2.1
  have quietIff := readBytes_quiet_iff endpoint state bytes handedOut
    (RpcSession.decodeItems_ok noError)
  simp only [endpoint.installRouter_session state, inbound] at quietIff
  rw [quietIff, absorbs_iff _ _ named]
  have catchesAll := (endpoint.installRouter state).catchesAll
  have routesStreams := (endpoint.installRouter state).routesStreams
  generalize (endpoint.installRouter state).dispatcher = dispatcher at catchesAll routesStreams ⊢
  have perRequest := quiet_ofRequest_iff catchesAll routesStreams complete
  constructor
  · rintro ⟨noStream, uncollectable⟩ rpcRequestId
    apply (perRequest rpcRequestId).mp
    refine ⟨?_, uncollectable rpcRequestId⟩
    intro handler event member isStream
    cases handler with
    | response => contradiction
    | stream => exact noStream _ event (List.mem_of_mem_filter member)
  · intro absorbed
    constructor
    · intro rpcMethodId event member
      rcases Option.ne_none_iff_exists'.mp (Routing.onEvents_invoked member).1 with
        ⟨rpcRequestId, nameEq⟩
      exact ((perRequest rpcRequestId).mpr (absorbed rpcRequestId)).1 _ event
        (List.mem_filter.mpr ⟨member, decide_eq_true nameEq⟩) rfl
    · intro rpcRequestId
      exact ((perRequest rpcRequestId).mpr (absorbed rpcRequestId)).2

/-- The answer to a pending call is absorbed. -/
theorem responses_absorbed_by_pending_call :
    let endpoint : RpcServiceEndpoint :=
      ⟨(∅ : ExtTreeMap _ _ compare).insert 5 fun bytes => .ok bytes, ∅, fun _ => []⟩
    let client : EndpointState Unit × Nat := EndpointState.new .client 0
    let caller := (client.1.call ⟨5, none, none, true⟩ 64 (some ()) false client.2).2
    (endpoint.readBytes caller.1 RpcDispatcher.answerToOne caller.2).Quiet := by
  intro endpoint client caller
  have complete : CompleteResponses
      ((RpcHeader.streamEvents ⟨.response, 1, 5, [0]⟩ [[9]]).map (Prod.mk 0)) := by
    intro output member
    rcases List.mem_map.mp member with ⟨event, -, rfl⟩
    exact ⟨⟨.response, 1, 5, [0]⟩, [[9]], rfl, rfl⟩
  apply (responses_absorbed_iff endpoint caller.1 RpcDispatcher.answerToOne caller.2 _ (by decide)
    complete).mpr
  rw [show ((RpcHeader.streamEvents ⟨.response, 1, 5, [0]⟩ [[9]]).map (Prod.mk 0)).map
    (Prod.snd : UInt32 × RpcStreamEvent → RpcStreamEvent) =
      RpcHeader.streamEvents ⟨.response, 1, 5, [0]⟩ [[9]] from rfl]
  constructor
  · intro rpcRequestId finalized
    contradiction
  · intro event _
    cases event <;> rfl
  · intro event member rpcRequestId named
    rw [(RpcHeader.mem_streamEvents member).1, Option.some.injEq] at named
    subst named
    exact ⟨⟨(), by decide⟩, by decide⟩
  · intro rpcRequestId event member
    by_cases same : rpcRequestId = 1
    · subst same
      contradiction
    · have unselected : ((RpcHeader.streamEvents ⟨.response, 1, 5, [0]⟩ [[9]]).filter fun event =>
          event.requestId = some rpcRequestId) = [] := by
        apply List.filter_eq_nil_iff.mpr
        intro other otherMem
        simp [(RpcHeader.mem_streamEvents otherMem).1, Ne.symm same]
      rw [unselected] at member
      contradiction

/-- An endpoint without a pending call answers a response with another response,
and the other endpoint answers that one in turn. -/
theorem unmatched_response_is_answered :
    let endpoint : RpcServiceEndpoint := ⟨∅, ∅, fun _ => []⟩
    let client : EndpointState Unit × Nat := EndpointState.new .client 0
    let server : EndpointState Unit × Nat := EndpointState.new .server 0
    let first := endpoint.readBytes client.1 RpcDispatcher.answerToOne client.2
    let second := endpoint.readBytes server.1 (frameBytes first.frames) server.2
    (client.1.dispatcher.session.decodeBytes RpcDispatcher.answerToOne).1 =
        RpcHeader.streamEvents ⟨.response, 1, 5, [0]⟩ [[9]] ∧
      (server.1.dispatcher.session.decodeBytes (frameBytes first.frames)).1 =
        RpcHeader.streamEvents ⟨.response, 1, 5, [3]⟩ [] ∧
      (client.1.dispatcher.session.decodeBytes (frameBytes second.frames)).1 =
        RpcHeader.streamEvents ⟨.response, 1, 5, [3]⟩ [] := by
  decide

end Muxio.Service
