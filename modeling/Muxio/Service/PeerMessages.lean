import Muxio.Service.Exchanges

/-!
# Messages between peers

Both ends of a connection may call methods of the other.  What an end sends are then
calls of its own and responses to requests of its peer.  What the other end knows is
determined by the events it has received: it has collected the requests whose messages are
whole, each one once, and the response handler of a call has heard the events of the
response to it.  Each step of either end keeps this.
-/

namespace Muxio.Service

open Std
open Muxio.Framing
open Muxio.Rpc
open Muxio.Transition

universe u

/-! ## What an end sends -/

/-- A call, or the response to a request that was served. -/
inductive PeerMessage where
  | call (made : PrebufferedCall)
  | response (served : UInt32 × RpcRequest)

namespace PeerMessage

def rpcRequestId : PeerMessage → UInt32
  | call made => made.rpcRequestId
  | response served => served.1

def rpcMethodId : PeerMessage → UInt64
  | call made => made.methodId
  | response served => served.2.rpcMethodId

variable (endpoint : RpcServiceEndpoint)

/-- The header of a message of an end with this endpoint. -/
def header : PeerMessage → RpcHeader
  | call made => made.header
  | response served => RpcDispatcher.responseHeader
      (endpoint.processSinglePrebufferedRequest served.1 served.2)

def payload : PeerMessage → Option (List UInt8)
  | call made => made.request.rpcPrebufferedPayloadBytes
  | response served =>
      (endpoint.processSinglePrebufferedRequest served.1 served.2).rpcPrebufferedPayloadBytes

def asCall : PeerMessage → Option PrebufferedCall
  | call made => some made
  | response _ => none

def asResponse : PeerMessage → Option (UInt32 × RpcRequest)
  | call _ => none
  | response served => some served

@[simp]
theorem header_requestId (message : PeerMessage) :
    (message.header endpoint).rpcRequestId = message.rpcRequestId := by
  cases message with
  | call made => rfl
  | response served => exact (endpoint.processSinglePrebufferedRequest_spec served.1 served.2).1

@[simp]
theorem header_methodId (message : PeerMessage) :
    (message.header endpoint).rpcMethodId = message.rpcMethodId := by
  cases message with
  | call made => rfl
  | response served => exact (endpoint.processSinglePrebufferedRequest_spec served.1 served.2).2.1

end PeerMessage

/-! ## What an end has heard of its peer -/

/-- What `receiver` has received of the messages of `sender`.  The own calls of the receiver
have been told of their responses; the rest are requests, of which it has collected those
that are complete. -/
structure Hears (receiver sender : ServiceNode) (messages : List PeerMessage)
    (arrived : List RpcStreamEvent) : Prop where
  carried : List.Forall₂ (fun outgoing message =>
    Outgoing.Carries outgoing (PeerMessage.header sender.endpoint message)
      (message.payload sender.endpoint)) sender.link.streams messages
  calls : messages.filterMap PeerMessage.asCall = sender.made
  responses : messages.filterMap PeerMessage.asResponse = sender.served
  numbered : sender.calls.map CallRecord.rpcRequestId =
    sender.made.map PrebufferedCall.rpcRequestId
  received : sender.link.Received receiver.state.dispatcher.session arrived
  unstreamed : ∀ message ∈ messages,
    receiver.endpoint.streamHandlers.contains message.rpcMethodId = false
  router : ∀ event, (∀ rpcRequestId rpcMethodId rpcHeader,
    event = .header rpcRequestId rpcMethodId rpcHeader →
      receiver.endpoint.streamHandlers.contains rpcMethodId = false) →
    offered (setup receiver.state.dispatcher).2 event = none
  sorting : Sorting receiver.made receiver.state.dispatcher.routing receiver.log arrived
  queue : receiver.state.dispatcher.rpcRequestQueue =
    RequestQueue.unfinalized ((requestsOf receiver.made arrived).foldl RequestQueue.onEvent [])
  taken : (receiver.waiting ++ receiver.served).Perm
    (RequestQueue.finalized ((requestsOf receiver.made arrived).foldl RequestQueue.onEvent []))
  /-- What was collected are calls of the peer. -/
  asked : ∀ entry ∈ receiver.waiting ++ receiver.served,
    ∃ call ∈ sender.made, entry = (call.rpcRequestId, call.received)
  once : ((receiver.waiting ++ receiver.served).map Prod.fst).Nodup

/-- Which ids the two ends use. -/
structure PeerIds (receiver sender : ServiceNode) (messages : List PeerMessage) : Prop where
  made : (receiver.made.map PrebufferedCall.rpcRequestId).Nodup
  apart : ∀ call ∈ sender.made, call.rpcRequestId ∉
    receiver.made.map PrebufferedCall.rpcRequestId
  sent : (messages.map PeerMessage.rpcRequestId).Nodup
  answers : ∀ entry ∈ sender.served, entry.1 ∈ receiver.made.map PrebufferedCall.rpcRequestId

namespace Hears

variable {receiver sender after : ServiceNode} {messages : List PeerMessage}
  {arrived : List RpcStreamEvent}

/-- The sender has gone on with its streams. -/
theorem of_sender (hears : Hears receiver sender messages arrived) (sound : sender.link.Sound)
    (sameEndpoint : after.endpoint = sender.endpoint)
    (sameStreams : after.link.streams = sender.link.streams)
    (sameMade : after.made = sender.made) (sameServed : after.served = sender.served)
    (sameCalls : after.calls = sender.calls)
    (longer : ∃ more, after.link.wire = sender.link.wire ++ more)
    (sameDelivered : after.link.delivered = sender.link.delivered) :
    Hears receiver after messages arrived where
  carried := by
    rw [sameEndpoint, sameStreams]
    exact hears.carried
  calls := hears.calls.trans sameMade.symm
  responses := hears.responses.trans sameServed.symm
  numbered := by
    rw [sameCalls, sameMade]
    exact hears.numbered
  received := hears.received.more sound longer sameDelivered
  unstreamed := hears.unstreamed
  router := hears.router
  sorting := hears.sorting
  queue := hears.queue
  taken := hears.taken
  asked := by
    rw [sameMade]
    exact hears.asked
  once := hears.once

/-- The receiver has gone on without reading. -/
theorem of_receiver (hears : Hears receiver sender messages arrived)
    (sameEndpoint : after.endpoint = receiver.endpoint)
    (sameSetup : setup after.state.dispatcher = setup receiver.state.dispatcher)
    (sameMux : after.state.dispatcher.session.frameMuxStreamDecoder =
      receiver.state.dispatcher.session.frameMuxStreamDecoder)
    (sameDecoders : after.state.dispatcher.session.rpcStreamDecoders =
      receiver.state.dispatcher.session.rpcStreamDecoders)
    (sorting : Sorting after.made after.state.dispatcher.routing after.log arrived)
    (sameRequests : requestsOf after.made arrived = requestsOf receiver.made arrived)
    (sameQueue : after.state.dispatcher.rpcRequestQueue =
      receiver.state.dispatcher.rpcRequestQueue)
    (sameTaken : (after.waiting ++ after.served).Perm (receiver.waiting ++ receiver.served)) :
    Hears after sender messages arrived where
  carried := hears.carried
  calls := hears.calls
  responses := hears.responses
  numbered := hears.numbered
  received := hears.received.of_decoders sameMux sameDecoders
  unstreamed := by
    rw [sameEndpoint]
    exact hears.unstreamed
  router := by
    rw [sameEndpoint, sameSetup]
    exact hears.router
  sorting := sorting
  queue := by
    rw [sameRequests]
    exact sameQueue.trans hears.queue
  taken := by
    rw [sameRequests]
    exact sameTaken.trans hears.taken
  asked := fun entry member => hears.asked entry (sameTaken.subset member)
  once := (sameTaken.map Prod.fst).nodup_iff.mpr hears.once

/-- The sender opens one more message. -/
theorem opened (hears : Hears receiver sender messages arrived) (sound : sender.link.Sound)
    {message : PeerMessage} {outgoing : Outgoing}
    (sameEndpoint : after.endpoint = sender.endpoint)
    (linkEq : after.link = sender.link.opened outgoing)
    (carries : outgoing.Carries (message.header sender.endpoint)
      (message.payload sender.endpoint))
    (madeEq : after.made = sender.made ++ message.asCall.toList)
    (servedEq : after.served = sender.served ++ message.asResponse.toList)
    (numbered : after.calls.map CallRecord.rpcRequestId =
      after.made.map PrebufferedCall.rpcRequestId)
    (unstreamed : receiver.endpoint.streamHandlers.contains message.rpcMethodId = false) :
    Hears receiver after (messages ++ [message]) arrived where
  carried := by
    rw [sameEndpoint, linkEq]
    exact List.rel_append hears.carried (.cons carries .nil)
  calls := by
    rw [List.filterMap_append, hears.calls, madeEq]
    cases message <;> rfl
  responses := by
    rw [List.filterMap_append, hears.responses, servedEq]
    cases message <;> rfl
  numbered := numbered
  received := hears.received.more sound ⟨[], by rw [linkEq]; exact (List.append_nil _).symm⟩
    (by rw [linkEq]; rfl)
  unstreamed := by
    intro other member
    rcases List.mem_append.mp member with early | late
    · exact hears.unstreamed other early
    · rw [List.mem_singleton.mp late]
      exact unstreamed
  router := hears.router
  sorting := hears.sorting
  queue := hears.queue
  taken := hears.taken
  asked := by
    intro entry member
    rcases hears.asked entry member with ⟨call, callMem, entryEq⟩
    exact ⟨call, by rw [madeEq]; exact List.mem_append_left _ callMem, entryEq⟩
  once := hears.once

/-- The streams of the sender are those of its messages. -/
theorem requestIds (hears : Hears receiver sender messages arrived) :
    (sender.link.streams.map fun outgoing => outgoing.header.rpcRequestId) =
      messages.map PeerMessage.rpcRequestId :=
  map_eq_of_related hears.carried fun _ message carries =>
    (congrArg RpcHeader.rpcRequestId carries.isHeader).trans (message.header_requestId _)

theorem exists_carries (hears : Hears receiver sender messages arrived) :
    ∀ outgoing ∈ sender.link.streams, ∃ header payload, outgoing.Carries header payload := by
  intro outgoing member
  rcases exists_of_mem_left hears.carried member with ⟨message, -, carries⟩
  exact ⟨_, _, carries⟩

theorem mem_made_iff (hears : Hears receiver sender messages arrived) (call : PrebufferedCall) :
    call ∈ sender.made ↔ .call call ∈ messages := by
  rw [← hears.calls, List.mem_filterMap]
  constructor
  · rintro ⟨message, member, isCall⟩
    cases message with
    | call made =>
        obtain rfl := Option.some.inj isCall
        exact member
    | response served => cases isCall
  · intro member
    exact ⟨_, member, rfl⟩

theorem mem_served_iff (hears : Hears receiver sender messages arrived)
    (entry : UInt32 × RpcRequest) : entry ∈ sender.served ↔ .response entry ∈ messages := by
  rw [← hears.responses, List.mem_filterMap]
  constructor
  · rintro ⟨message, member, isResponse⟩
    cases message with
    | call made => cases isResponse
    | response served =>
        obtain rfl := Option.some.inj isResponse
        exact member
  · intro member
    exact ⟨_, member, rfl⟩

section Reading

variable (hears : Hears receiver sender messages arrived) (ids : PeerIds receiver sender messages)
  {link : Link} (sound : link.Sound) (sameStreams : link.streams = sender.link.streams)
  {session : RpcSession} {events : List RpcStreamEvent} (received : link.Received session events)

include hears ids sound sameStreams received

theorem inMessages : InMessages events := by
  apply received.inMessages sound
  · rw [sameStreams, hears.requestIds]
    exact ids.sent
  · rw [sameStreams]
    exact hears.exists_carries

/-- Every event belongs to a message. -/
theorem message_of_mem {event : RpcStreamEvent} (member : event ∈ events) :
    ∃ message ∈ messages, event.isError = false ∧ event.requestId = some message.rpcRequestId ∧
      ∃ chunks, (events.filter fun event => event.requestId = some message.rpcRequestId) <+:
          (message.header sender.endpoint).streamEvents chunks ∧
        chunks.flatten = (message.payload sender.endpoint).getD [] ∧
        ∀ chunk ∈ chunks, chunk ≠ [] := by
  rcases received.of_mem sound member with ⟨outgoing, outgoingMem, noError, named, -⟩
  rw [sameStreams] at outgoingMem
  rcases exists_of_mem_left hears.carried outgoingMem with ⟨message, messageMem, carries⟩
  have sameId : outgoing.header.rpcRequestId = message.rpcRequestId :=
    (congrArg RpcHeader.rpcRequestId carries.isHeader).trans (message.header_requestId _)
  rcases carries.events with ⟨chunks, eventsEq, flattens, nonempty⟩
  have part := received.part sound (by rw [sameStreams, hears.requestIds]; exact ids.sent)
    (sameStreams ▸ outgoingMem)
  rw [eventsEq, sameId] at part
  exact ⟨message, messageMem, noError, named.trans (congrArg some sameId), chunks, part, flattens,
    nonempty⟩

/-- No message is one of a streaming method. -/
theorem unstreamed_header {event : RpcStreamEvent} (member : event ∈ events)
    {rpcRequestId : UInt32} {rpcMethodId : UInt64} {rpcHeader : RpcHeader}
    (isHeader : event = .header rpcRequestId rpcMethodId rpcHeader) :
    receiver.endpoint.streamHandlers.contains rpcMethodId = false := by
  rcases hears.message_of_mem ids sound sameStreams received member with
    ⟨message, messageMem, -, named, chunks, part, -, -⟩
  have inMessage := part.subset (List.mem_filter.mpr ⟨member, decide_eq_true named⟩)
  rw [isHeader] at inMessage
  have sameMethod : rpcMethodId = message.rpcMethodId := by
    simp only [RpcHeader.streamEvents, RpcHeader.headerEvent, RpcHeader.chunkEvent,
      RpcHeader.endEvent, List.mem_append, List.mem_cons, List.mem_map, RpcStreamEvent.header.injEq,
      reduceCtorEq, and_false, exists_false, List.not_mem_nil, or_false] at inMessage
    exact inMessage.2.1.trans (message.header_methodId _)
  rw [sameMethod]
  exact hears.unstreamed message messageMem

/-- What was taken for a request and is complete is a call of the sender. -/
theorem call_of_finalized {entry : UInt32 × RpcRequest}
    (complete : entry ∈ RequestQueue.finalized
      ((requestsOf receiver.made events).foldl RequestQueue.onEvent [])) :
    ∃ call ∈ sender.made, entry = (call.rpcRequestId, call.received) := by
  rcases List.any_eq_true.mp (InMessages.ended_of_finalized complete) with ⟨event, eventMem, -⟩
  rcases List.mem_filter.mp eventMem with ⟨isRequest, isEntry⟩
  rcases List.mem_filter.mp isRequest with ⟨arrivedMem, isForeign⟩
  have foreign := of_decide_eq_true isForeign
  rcases hears.message_of_mem ids sound sameStreams received arrivedMem with
    ⟨message, messageMem, -, named, chunks, part, flattens, nonempty⟩
  cases message with
  | response served =>
      have own := ids.answers served ((hears.mem_served_iff served).mpr messageMem)
      rcases List.mem_map.mp own with ⟨call, callMem, sameId⟩
      exact absurd (named.trans (congrArg some sameId.symm)) (foreign call callMem)
  | call made =>
      refine ⟨made, (hears.mem_made_iff made).mpr messageMem, ?_⟩
      have notOwn := ids.apart made ((hears.mem_made_iff made).mpr messageMem)
      rcases entry with ⟨rpcRequestId, request⟩
      obtain rfl : rpcRequestId = made.rpcRequestId :=
        Option.some.inj ((of_decide_eq_true isEntry).symm.trans named)
      have part' : ((requestsOf receiver.made events).filter fun event =>
          event.requestId = some made.header.rpcRequestId) <+: made.header.streamEvents chunks := by
        rw [show made.header.rpcRequestId = made.rpcRequestId from rfl, requestsOf_filter notOwn]
        exact part
      rcases (InMessages.mem_finalized_iff nonempty part' request).mp complete with ⟨-, requestEq⟩
      rw [requestEq, flattens]
      rfl

end Reading

section Read

variable (hears : Hears receiver sender messages arrived) (ids : PeerIds receiver sender messages)
  (sound : sender.link.Sound) (count : Nat)

include hears ids sound

/-- The router leaves everything alone that is read. -/
theorem read_unoffered :
    ∀ event ∈ (receiver.state.dispatcher.session.decodeBytes (sender.link.chunk count)).1,
      offered (setup (receiver.endpoint.installRouter receiver.state).dispatcher).2 event =
        none := by
  rcases hears.received.deliver sound count with ⟨received, -⟩
  intro event member
  have unstreamed : ∀ rpcRequestId rpcMethodId rpcHeader,
      event = .header rpcRequestId rpcMethodId rpcHeader →
        receiver.endpoint.streamHandlers.contains rpcMethodId = false :=
    fun _ _ _ isHeader => hears.unstreamed_header ids (sound.deliver count) rfl received
      (List.mem_append_right _ member) isHeader
  exact receiver.endpoint.offered_installRouter receiver.state (hears.router event unstreamed)
    unstreamed

theorem read_actions :
    let events := (receiver.state.dispatcher.session.decodeBytes (sender.link.chunk count)).1
    (receiver.endpoint.installRouter receiver.state).dispatcher.actionsOf events =
      receiver.state.dispatcher.routing.onEvents none true events := by
  intro events
  rw [← Routing.onEvents_of_unoffered true _ (hears.read_unoffered ids sound count),
    ← (receiver.endpoint.installRouter receiver.state).catchesAll,
    ← receiver.endpoint.installRouter_routing receiver.state]
  rfl

/-- The events that are read go to response handlers or are caught. -/
theorem read_sorting :
    let events := (receiver.state.dispatcher.session.decodeBytes (sender.link.chunk count)).1
    let after := receiver.state.dispatcher.routing.onEvents none true events
    Sorting receiver.made after.1 (receiver.log ++ after.2) (arrived ++ events) ∧
      after.2.filterMap Action.caughtEvent = requestsOf receiver.made events ∧
      ∀ action ∈ after.2, isPlain action := by
  intro events after
  rcases hears.received.deliver sound count with ⟨received, -⟩
  have sound' := sound.deliver count
  apply hears.sorting.onEvents ids.made
  · intro event member
    rcases hears.message_of_mem ids sound' rfl received (List.mem_append_right _ member) with
      ⟨-, -, noError, -⟩
    exact noError
  · exact hears.inMessages ids sound' rfl received

/-- The requests that a read completes are collected. -/
theorem read_taken :
    let events := (receiver.state.dispatcher.session.decodeBytes (sender.link.chunk count)).1
    let queue := (requestsOf receiver.made events).foldl RequestQueue.onEvent
      (RequestQueue.unfinalized ((requestsOf receiver.made arrived).foldl RequestQueue.onEvent []))
    let gathered := (requestsOf receiver.made (arrived ++ events)).foldl RequestQueue.onEvent []
    queue.unfinalized = RequestQueue.unfinalized gathered ∧ (queue.map Prod.fst).Nodup ∧
      (receiver.waiting ++ queue.finalized ++ receiver.served).Perm
        (RequestQueue.finalized gathered) := by
  intro events queue gathered
  rcases hears.received.deliver sound count with ⟨received, -⟩
  have requests := inMessages_requestsOf
    (hears.inMessages ids (sound.deliver count) rfl received) receiver.made
  have gatheredEq : gathered = (requestsOf receiver.made arrived ++
      requestsOf receiver.made events).foldl RequestQueue.onEvent [] :=
    congrArg (List.foldl RequestQueue.onEvent []) (requestsOf_append _ _ _)
  rw [requestsOf_append] at requests
  rcases requests.gather with ⟨stillOpen, taken, distinct⟩
  rw [gatheredEq]
  refine ⟨stillOpen, distinct, ?_⟩
  have moved : (receiver.waiting ++ queue.finalized ++ receiver.served).Perm
      (receiver.waiting ++ receiver.served ++ queue.finalized) := by
    rw [List.append_assoc, List.append_assoc]
    exact List.perm_append_comm.append_left receiver.waiting
  exact moved.trans ((hears.taken.append_right _).trans taken)

/-- The receiver reads a piece of what the sender has sent. -/
theorem read (handedOut : Nat) :
    let bytes := sender.link.chunk count
    let decoded := receiver.state.dispatcher.session.decodeBytes bytes
    ∃ (state : EndpointState Nat) (log : List (Action (EndpointHandler Nat)))
        (waiting queue : RequestQueue),
      let after : ServiceNode := { receiver with state := state, log := log, waiting := waiting }
      receiver.read bytes handedOut = (after, handedOut) ∧
      state.dispatcher =
        { (receiver.endpoint.installRouter receiver.state).dispatcher.afterEvents decoded.2.2
            decoded.1 with rpcRequestQueue := queue } ∧
      Hears after { sender with link := sender.link.deliver count } messages
        (arrived ++ decoded.1) := by
  intro bytes decoded
  rcases hears.received.deliver sound count with ⟨received, accepted⟩
  rcases hears.read_sorting ids sound count with ⟨sorting, caught, plain⟩
  rcases hears.read_taken ids sound count with ⟨stillOpen, distinct, taken⟩
  have actionsEq := hears.read_actions ids sound count
  have queueEq : receiver.state.dispatcher.rpcRequestQueue.replay
      (receiver.state.dispatcher.routing.onEvents none true decoded.1).2 =
        (requestsOf receiver.made decoded.1).foldl RequestQueue.onEvent (RequestQueue.unfinalized
          ((requestsOf receiver.made arrived).foldl RequestQueue.onEvent [])) := by
    rw [RequestQueue.replay_eq_foldl, caught, hears.queue]
  rcases receiver.read_unstreamed handedOut accepted (congrArg Prod.snd actionsEq)
    (fun _ _ _ member => absurd (plain _ member) Bool.false_ne_true)
    (fun _ _ member => absurd (plain _ member) Bool.false_ne_true) queueEq distinct with
    ⟨state, readEq, dispatcherEq⟩
  refine ⟨_, _, _, _, readEq, dispatcherEq, ?_⟩
  constructor
  case carried => exact hears.carried
  case calls => exact hears.calls
  case responses => exact hears.responses
  case numbered => exact hears.numbered
  case received =>
    rw [dispatcherEq]
    exact received
  case unstreamed => exact hears.unstreamed
  case router =>
    intro event unstreamed
    rw [dispatcherEq]
    exact receiver.endpoint.offered_installRouter receiver.state (hears.router event unstreamed)
      unstreamed
  case sorting =>
    have routingEq : state.dispatcher.routing =
        (receiver.state.dispatcher.routing.onEvents none true decoded.1).1 := by
      rw [dispatcherEq]
      exact congrArg Prod.fst actionsEq
    rw [routingEq]
    exact sorting
  case queue =>
    rw [dispatcherEq]
    exact stillOpen
  case taken => exact taken
  case asked =>
    intro entry member
    exact hears.call_of_finalized ids (sound.deliver count) rfl received (taken.subset member)
  case once =>
    have requests := inMessages_requestsOf
      (hears.inMessages ids (sound.deliver count) rfl received) receiver.made
    rw [(taken.map Prod.fst).nodup_iff]
    exact requests.ids_nodup.sublist (List.filter_sublist.map Prod.fst)

end Read

/-- The receiver makes a call of its own under a new id. -/
theorem call (hears : Hears receiver sender messages arrived)
    (ids : PeerIds receiver sender messages) (sound : sender.link.Sound)
    (fresh : receiver.state.dispatcher.callId ∉
      receiver.made.map PrebufferedCall.rpcRequestId)
    (notPeer : receiver.state.dispatcher.callId ∉ sender.made.map PrebufferedCall.rpcRequestId)
    (methodId : UInt64) (encodedArgs : List UInt8) (handedOut : Nat) :
    Hears (receiver.call methodId encodedArgs handedOut).1 sender messages arrived := by
  have unsent : receiver.state.dispatcher.callId ∉
      sender.link.streams.map fun outgoing => outgoing.header.rpcRequestId := by
    rw [hears.requestIds]
    intro used
    rcases List.mem_map.mp used with ⟨message, member, sameId⟩
    cases message with
    | call made =>
        exact notPeer (sameId ▸ List.mem_map_of_mem ((hears.mem_made_iff made).mpr member))
    | response served =>
        exact fresh (sameId ▸ ids.answers served ((hears.mem_served_iff served).mpr member))
  have silent := hears.received.absent sound unsent
  have sameRequests : requestsOf (receiver.call methodId encodedArgs handedOut).1.made arrived =
      requestsOf receiver.made arrived := by
    apply List.filter_congr
    intro event member
    have unnamed : event.requestId ≠ some receiver.state.dispatcher.callId := by
      intro named
      exact absurd (List.mem_filter.mpr ⟨member, decide_eq_true named⟩)
        (by rw [silent]; exact List.not_mem_nil)
    simp [ServiceNode.call, unnamed, or_imp, forall_and]
  refine hears.of_receiver rfl rfl rfl rfl ⟨?_, ?_⟩ sameRequests rfl (.refl _)
  · apply hears.sorting.answering.call fresh silent
    case handlers =>
      intro rpcRequestId
      have stored := receiver.state.dispatcher.call_handlers
        (prebufferedRequest methodId encodedArgs) serviceChunkSize.bytes
        (some (.response receiver.made.length)) false handedOut rpcRequestId
      rw [Option.isSome_some] at stored
      simp only [and_true] at stored
      exact stored
    case flags =>
      intro rpcRequestId
      exact receiver.state.dispatcher.call_flags (prebufferedRequest methodId encodedArgs)
        serviceChunkSize.bytes (some (.response receiver.made.length)) false handedOut rpcRequestId
  · intro rpcRequestId foreign
    have old : rpcRequestId ∉ receiver.made.map PrebufferedCall.rpcRequestId := by
      intro member
      apply foreign
      rw [ServiceNode.call, List.map_append]
      exact List.mem_append_left _ member
    have different : receiver.state.dispatcher.callId ≠ rpcRequestId := by
      rintro rfl
      exact foreign (by simp [ServiceNode.call])
    exact (call_slot_other _ different _ _ _ _ _).trans (hears.sorting.foreign rpcRequestId old)

/-- The receiver serves a request. -/
theorem serve (hears : Hears receiver sender messages arrived) (index handedOut : Nat) :
    Hears (receiver.serve index handedOut).1 sender messages arrived := by
  cases found : receiver.waiting[index]? with
  | none =>
      rw [ServiceNode.serve_none found]
      exact hears
  | some entry =>
      rw [ServiceNode.serve_eq found]
      refine hears.of_receiver rfl rfl rfl rfl hears.sorting rfl rfl ?_
      rcases List.getElem?_eq_some_iff.mp found with ⟨inside, rfl⟩
      have removed := (List.getElem_cons_eraseIdx_perm inside).append_right receiver.served
      refine List.Perm.trans ?_ removed
      rw [← List.append_assoc]
      exact List.perm_append_singleton _ _

/-- The sender makes a call. -/
theorem called (hears : Hears receiver sender messages arrived) (sound : sender.link.Sound)
    {methodId : UInt64} (unstreamed : receiver.endpoint.streamHandlers.contains methodId = false)
    (encodedArgs : List UInt8) (handedOut : Nat) :
    Hears receiver (sender.call methodId encodedArgs handedOut).1
      (messages ++ [.call ⟨sender.state.dispatcher.callId, methodId, encodedArgs⟩]) arrived := by
  refine hears.opened sound rfl rfl ?_ rfl (List.append_nil _).symm ?_ unstreamed
  · apply Outgoing.carries_of_sendPayload (callHeader_prebuffered _ _ _)
      (PrebufferedCall.header_fits _)
    simp only [PeerMessage.payload, PrebufferedCall.request]
    rw [← callHeader_prebuffered, ← prebufferedRequest_finalized methodId encodedArgs]
    rfl
  · simp only [ServiceNode.call, ServiceNode.act, ConnectionEnd.act, List.map_append,
      List.map_cons, List.map_nil]
    exact congrArg (· ++ [sender.state.dispatcher.callId]) hears.numbered

/-- The sender serves a request. -/
theorem served (hears : Hears receiver sender messages arrived) (sound : sender.link.Sound)
    {index : Nat} {entry : UInt32 × RpcRequest} (found : sender.waiting[index]? = some entry)
    (unstreamed : receiver.endpoint.streamHandlers.contains entry.2.rpcMethodId = false)
    (handedOut : Nat) :
    Hears receiver (sender.serve index handedOut).1 (messages ++ [.response entry]) arrived := by
  rw [ServiceNode.serve_eq found]
  refine hears.opened sound rfl rfl ?_ (List.append_nil _).symm rfl hears.numbered unstreamed
  apply Outgoing.carries_of_sendPayload rfl
    (RpcDispatcher.responseHeader_fits (sender.response entry))
  rw [← (sender.endpoint.processSinglePrebufferedRequest_spec entry.1 entry.2).2.2]
  rfl

end Hears

end Muxio.Service
