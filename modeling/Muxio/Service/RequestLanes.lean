import Muxio.Rpc.Prebuffering
import Muxio.Service.Responses
import Muxio.Service.Traffic
import Muxio.Transition.Separation

/-!
# Requests at an endpoint do not interfere

An end of a connection reads arbitrary bytes, calls its peer and may lose the
connection.  Seen from one request id, all that matters is which events of that id
each read has decoded, whether the read succeeded, and which local calls were made
under the id.  From these the lane of the id computes the calls of handlers and the
responses; what the peer sends under other ids does not occur in it.  Every complete
request that a read finds is answered with the response of its handler, in frames from
which a peer decodes that response.
-/

namespace Muxio.Service

open Std
open Muxio.Framing
open Muxio.Rpc
open Muxio.Transition

universe u

/-! ## An end of a connection over its life -/

/-- An end of a connection, the process-wide id counter, what the event callback has
done and the responses that were sent. -/
structure ServedEnd (R : Type u) where
  state : EndpointState R
  handedOut : Nat
  log : List (Action (EndpointHandler R))
  responses : List RpcResponse

inductive EndInput (R : Type u) where
  | read (bytes : List UInt8)
  | call (rpcRequest : RpcRequest) (maxChunkSize : Nat) (onResponse : Option R)
      (prebufferResponse : Bool)
  /-- Everything pending fails. -/
  | fail (error : FrameDecodeError)
  /-- Another connection of the process draws an id. -/
  | draw

namespace ServedEnd

variable {R : Type u} (endpoint : RpcServiceEndpoint)

def new (idSpace : IdSpace) (handedOut : Nat) : ServedEnd R :=
  let made := EndpointState.new idSpace handedOut
  ⟨made.1, made.2, [], []⟩

def step (served : ServedEnd R) : EndInput R → ServedEnd R
  | .read bytes =>
      let read := endpoint.readBytes served.state bytes served.handedOut
      ⟨read.state, read.handedOut, served.log ++ read.actions, served.responses ++ read.responses⟩
  | .call rpcRequest maxChunkSize onResponse prebufferResponse =>
      let called := served.state.call rpcRequest maxChunkSize onResponse prebufferResponse
        served.handedOut
      { served with state := called.2.1, handedOut := called.2.2 }
  | .fail error =>
      let failed := served.state.dispatcher.failAllPendingRequests error
      { served with
        state := served.state.withDispatcher failed.1 rfl served.state.responders
        log := served.log ++ failed.2 }
  | .draw => { served with handedOut := (incrementU32Id served.handedOut).2 }

def run (served : ServedEnd R) (inputs : List (EndInput R)) : ServedEnd R :=
  inputs.foldl (step endpoint) served

end ServedEnd

/-! ## Lanes -/

/-- What belongs to one request id. -/
structure Lane (R : Type u) where
  slot : Slot (EndpointHandler R)
  queue : RequestQueue
  log : List (Action (EndpointHandler R))
  responses : List RpcResponse

inductive LaneEvent (R : Type u) where
  /-- A read has decoded these events of the request. -/
  | decoded (events : List RpcStreamEvent) (succeeded : Bool)
  | called (onResponse : Option R) (prebufferResponse : Bool)
  | failed (error : FrameDecodeError)
  deriving DecidableEq

/-- The router in effect during reads. -/
def RpcServiceEndpoint.activeRouter {R : Type u} (endpoint : RpcServiceEndpoint) :
    Option (StreamMethodRouter (EndpointHandler R)) :=
  if endpoint.streamHandlers.isEmpty then none else some endpoint.router

/-- Split off the first entry if it is complete. -/
def takeFinalized : RequestQueue → RequestQueue × RequestQueue
  | [] => ([], [])
  | entry :: rest => if entry.2.isFinalized then ([entry], rest) else ([], entry :: rest)

namespace Lane

variable {R : Type u} (endpoint : RpcServiceEndpoint)

def new : Lane R := ⟨.empty, [], [], []⟩

/-- What an event does to a lane.  A read that fails leaves complete requests for the next
one. -/
def step (rpcRequestId : UInt32) (lane : Lane R) : LaneEvent R → Lane R
  | .decoded events succeeded =>
      let routed := lane.slot.onEvents endpoint.activeRouter true rpcRequestId events
      let gathered := lane.queue.replay routed.2
      let collected := if succeeded then takeFinalized gathered else ([], gathered)
      ⟨routed.1, collected.2, lane.log ++ routed.2,
        lane.responses ++ collected.1.map fun entry =>
          endpoint.processSinglePrebufferedRequest rpcRequestId entry.2⟩
  | .called onResponse prebufferResponse =>
      { lane with
        slot := ⟨onResponse.map EndpointHandler.response <|> lane.slot.handler,
          lane.slot.buffered, some prebufferResponse⟩ }
  | .failed error =>
      ⟨.empty, [],
        lane.log ++ lane.slot.invoke [.error none (some rpcRequestId) none error],
        lane.responses⟩

end Lane

namespace ServedEnd

variable {R : Type u}

/-- The part of an end that belongs to a request id. -/
def lane (rpcRequestId : UInt32) (served : ServedEnd R) : Lane R where
  slot := served.state.dispatcher.routing.slot rpcRequestId
  queue := served.state.dispatcher.rpcRequestQueue.ofRequest rpcRequestId
  log := served.log.filter fun action => action.requestId = some rpcRequestId
  responses := served.responses.filter fun response => response.rpcRequestId = rpcRequestId

/-- What an input is to a request id. -/
def observe (rpcRequestId : UInt32) (served : ServedEnd R) : EndInput R → List (LaneEvent R)
  | .read bytes =>
      let decoded := served.state.dispatcher.session.decodeBytes bytes
      [.decoded (ofRequest rpcRequestId decoded.1) decoded.2.1.isOk]
  | .call _ _ onResponse prebufferResponse =>
      if served.state.dispatcher.callId = rpcRequestId then
        [.called onResponse prebufferResponse]
      else
        []
  | .fail error => [.failed error]
  | .draw => []

end ServedEnd

/-! ## Collecting, one request at a time -/

theorem ofRequest_append (first second : RequestQueue) (rpcRequestId : UInt32) :
    RequestQueue.ofRequest (first ++ second) rpcRequestId =
      first.ofRequest rpcRequestId ++ second.ofRequest rpcRequestId :=
  List.filter_append ..

theorem ofRequest_singleton (id rpcRequestId : UInt32) (request : RpcRequest) :
    RequestQueue.ofRequest [(id, request)] rpcRequestId =
      if id = rpcRequestId then [(id, request)] else [] := by
  by_cases own : id = rpcRequestId
  · simp [RequestQueue.ofRequest, own]
  · simp [RequestQueue.ofRequest, own]

theorem find_eq_head (queue : RequestQueue) (rpcRequestId : UInt32) :
    queue.find rpcRequestId = (queue.ofRequest rpcRequestId).head?.map Prod.snd := by
  rw [RequestQueue.find, RequestQueue.ofRequest, List.head?_filter]

theorem delete_ofRequest (queue : RequestQueue) (deleted rpcRequestId : UInt32) :
    (RequestQueue.delete deleted queue).ofRequest rpcRequestId =
      if deleted = rpcRequestId then (queue.ofRequest rpcRequestId).tail
      else queue.ofRequest rpcRequestId := by
  unfold RequestQueue.ofRequest
  induction queue with
  | nil => simp [RequestQueue.delete]
  | cons entry rest ih =>
      rcases entry with ⟨id, request⟩
      by_cases here : id = deleted
      · subst here
        by_cases own : id = rpcRequestId
        · simp [RequestQueue.delete, own]
        · simp [RequestQueue.delete, own]
      · by_cases own : id = rpcRequestId
        · subst own
          simp [RequestQueue.delete, here, Ne.symm here, ih]
        · simp [RequestQueue.delete, here, own, ih]

theorem takeFinalized_unfinished {queue : RequestQueue}
    (unfinished : ∀ entry ∈ queue, entry.2.isFinalized = false) :
    takeFinalized queue = ([], queue) := by
  cases queue with
  | nil => rfl
  | cons entry rest => simp [takeFinalized, unfinished entry List.mem_cons_self]

/-- Only the first entry can be complete. -/
def OnlyFirst (queue : RequestQueue) : Prop := ∀ entry ∈ queue.tail, entry.2.isFinalized = false

namespace OnlyFirst

/-- The catch-all completes first entries only. -/
theorem onEvent {queue : RequestQueue} {rpcRequestId : UInt32}
    (own : ∀ entry ∈ queue, entry.1 = rpcRequestId) (onlyFirst : OnlyFirst queue)
    {event : RpcStreamEvent} (named : event.requestId = some rpcRequestId) :
    OnlyFirst (queue.onEvent event) := by
  have updated : ∀ change, OnlyFirst (RequestQueue.update rpcRequestId change queue) := by
    intro change
    cases queue with
    | nil => exact onlyFirst
    | cons entry rest =>
        rw [RequestQueue.update, if_pos (own entry List.mem_cons_self)]
        exact onlyFirst
  cases event with
  | header id methodId header =>
      cases queue with
      | nil => exact fun entry member => absurd member List.not_mem_nil
      | cons first rest =>
          intro entry member
          rcases List.mem_append.mp member with earlier | added
          · exact onlyFirst entry earlier
          · rw [List.mem_singleton.mp added]
  | payloadChunk header id methodId bytes =>
      cases Option.some.inj named
      exact updated _
  | «end» header id methodId =>
      cases Option.some.inj named
      exact updated _
  | error => exact onlyFirst

theorem foldl_onEvent {queue : RequestQueue} {rpcRequestId : UInt32}
    (onlyFirst : OnlyFirst (queue.ofRequest rpcRequestId)) (events : List RpcStreamEvent) :
    OnlyFirst ((events.foldl RequestQueue.onEvent queue).ofRequest rpcRequestId) := by
  induction events generalizing queue with
  | nil => exact onlyFirst
  | cons event rest ih =>
      apply ih
      have split := RequestQueue.foldl_onEvent_ofRequest queue [event] rpcRequestId
      rw [List.foldl_cons, List.foldl_nil] at split
      rw [split]
      by_cases named : event.requestId = some rpcRequestId
      · rw [List.filter_cons_of_pos (by simpa using named)]
        exact onlyFirst.onEvent
          (fun entry member => of_decide_eq_true (List.mem_filter.mp member).2) named
      · rw [List.filter_cons_of_neg (by simpa using named)]
        exact onlyFirst

/-- Once the first entry is taken, nothing that is left is complete. -/
theorem unfinished {queue : RequestQueue} (onlyFirst : OnlyFirst queue) :
    ∀ entry ∈ (takeFinalized queue).2, entry.2.isFinalized = false := by
  cases queue with
  | nil => exact fun entry member => absurd member List.not_mem_nil
  | cons first rest =>
      cases complete : first.2.isFinalized with
      | true =>
          rw [takeFinalized, if_pos complete]
          exact onlyFirst
      | false =>
          rw [takeFinalized, if_neg (by simp [complete])]
          intro entry member
          rcases List.mem_cons.mp member with rfl | later
          · exact complete
          · exact onlyFirst entry later

/-- A second attempt takes nothing. -/
theorem takeFinalized_again {queue : RequestQueue} (onlyFirst : OnlyFirst queue) :
    takeFinalized (takeFinalized queue).2 = ([], (takeFinalized queue).2) :=
  takeFinalized_unfinished onlyFirst.unfinished

theorem left {queue : RequestQueue} (onlyFirst : OnlyFirst queue) :
    OnlyFirst (takeFinalized queue).2 :=
  fun entry member => onlyFirst.unfinished entry (List.mem_of_mem_tail member)

end OnlyFirst

/-- Replaying actions changes the entries of a request by its own actions alone. -/
theorem replay_ofRequest_own {H : Type u} (queue : RequestQueue) (actions : List (Action H))
    (rpcRequestId : UInt32) :
    (queue.replay actions).ofRequest rpcRequestId =
      (queue.ofRequest rpcRequestId).replay
        (actions.filter fun action => action.requestId = some rpcRequestId) := by
  have sameEvents : ((actions.filterMap Action.caughtEvent).filter fun event =>
        event.requestId = some rpcRequestId) =
      (actions.filter fun action => action.requestId = some rpcRequestId).filterMap
        Action.caughtEvent := by
    rw [List.filter_filterMap, List.filterMap_filter]
    apply List.filterMap_congr
    intro action _
    cases action with
    | caught event =>
        by_cases named : event.requestId = some rpcRequestId
        · simp [Action.caughtEvent, Action.requestId, Option.filter, named]
        · simp [Action.caughtEvent, Action.requestId, Option.filter, named]
    | routed => simp [Action.caughtEvent]
    | invoked => simp [Action.caughtEvent]
  rw [RequestQueue.replay_eq_foldl, RequestQueue.foldl_onEvent_ofRequest, sameEvents,
    RequestQueue.replay_eq_foldl]

/-- What one id takes out of the queue. -/
def collectOne (queue : RequestQueue) (id : UInt32) : RequestQueue × RequestQueue :=
  match queue.find id with
  | some request =>
      if request.isFinalized then ([(id, request)], RequestQueue.delete id queue) else ([], queue)
  | none => ([], queue)

theorem collectFinalized_cons {H : Type u} (dispatcher : RpcDispatcher H) (id : UInt32)
    (rest : List UInt32) :
    collectFinalized dispatcher (id :: rest) =
      let one := collectOne dispatcher.rpcRequestQueue id
      let later := collectFinalized { dispatcher with rpcRequestQueue := one.2 } rest
      (one.1 ++ later.1, later.2) := by
  rw [collectFinalized, collectOne, RpcDispatcher.isRpcRequestFinalized,
    RpcDispatcher.deleteRpcRequest]
  cases dispatcher.rpcRequestQueue.find id with
  | none => rfl
  | some request =>
      cases complete : request.isFinalized with
      | true => simp [complete]
      | false => simp [complete]

theorem collectOne_ofRequest (queue : RequestQueue) (id rpcRequestId : UInt32) :
    (RequestQueue.ofRequest (collectOne queue id).1 rpcRequestId,
        (collectOne queue id).2.ofRequest rpcRequestId) =
      if id = rpcRequestId then takeFinalized (queue.ofRequest rpcRequestId)
      else ([], queue.ofRequest rpcRequestId) := by
  have deleted := delete_ofRequest queue id rpcRequestId
  have foundEq := find_eq_head queue id
  unfold collectOne
  by_cases same : id = rpcRequestId
  · subst same
    have own : ∀ entry ∈ queue.ofRequest id, entry.1 = id :=
      fun entry member => of_decide_eq_true (List.mem_filter.mp member).2
    rw [if_pos rfl] at deleted ⊢
    rw [foundEq]
    cases entries : queue.ofRequest id with
    | nil => simp [takeFinalized, entries]
    | cons first others =>
        rcases first with ⟨firstId, request⟩
        obtain rfl : firstId = id := own (firstId, request) (entries ▸ List.mem_cons_self)
        rw [entries] at deleted
        cases complete : request.isFinalized with
        | true => simp [takeFinalized, complete, deleted, ofRequest_singleton]
        | false => simp [takeFinalized, complete, entries]
  · rw [if_neg same] at deleted ⊢
    cases queue.find id with
    | none => rfl
    | some request =>
        cases complete : request.isFinalized with
        | true => simp [complete, deleted, ofRequest_singleton, same]
        | false => simp [complete]

/-- Whatever ids are gone through, and however often, a request id loses its first entry
if that is complete, and nothing else. -/
theorem collectFinalized_ofRequest {H : Type u} (dispatcher : RpcDispatcher H)
    (rpcRequestId : UInt32)
    (onlyFirst : OnlyFirst (dispatcher.rpcRequestQueue.ofRequest rpcRequestId))
    (ids : List UInt32) :
    (RequestQueue.ofRequest (collectFinalized dispatcher ids).1 rpcRequestId,
        (collectFinalized dispatcher ids).2.rpcRequestQueue.ofRequest rpcRequestId) =
      if rpcRequestId ∈ ids then takeFinalized (dispatcher.rpcRequestQueue.ofRequest rpcRequestId)
      else ([], dispatcher.rpcRequestQueue.ofRequest rpcRequestId) := by
  induction ids generalizing dispatcher with
  | nil => rfl
  | cons id rest ih =>
      have one := collectOne_ofRequest dispatcher.rpcRequestQueue id rpcRequestId
      rw [collectFinalized_cons]
      simp only [ofRequest_append]
      by_cases same : id = rpcRequestId
      · rw [if_pos same] at one
        rcases Prod.ext_iff.mp one with ⟨takenEq, leftEq⟩
        simp only at takenEq leftEq
        have later := ih
          { dispatcher with rpcRequestQueue := (collectOne dispatcher.rpcRequestQueue id).2 }
          (by rw [leftEq]; exact onlyFirst.left)
        rw [leftEq, onlyFirst.takeFinalized_again, ite_self] at later
        rcases Prod.mk.inj later with ⟨laterTaken, laterLeft⟩
        rw [if_pos (same ▸ List.mem_cons_self), takenEq, laterTaken, laterLeft, List.append_nil]
      · rw [if_neg same] at one
        rcases Prod.ext_iff.mp one with ⟨takenEq, leftEq⟩
        simp only at takenEq leftEq
        have later := ih
          { dispatcher with rpcRequestQueue := (collectOne dispatcher.rpcRequestQueue id).2 }
          (by rw [leftEq]; exact onlyFirst)
        rw [leftEq] at later
        have elsewhere : rpcRequestId ∈ id :: rest ↔ rpcRequestId ∈ rest := by
          simp [Ne.symm same]
        simp only [takenEq, List.nil_append, elsewhere]
        exact later

/-! ## Reads -/

theorem sendResponses_queue {H : Type u} (dispatcher : RpcDispatcher H) (handedOut : Nat)
    (responses : List RpcResponse) :
    (sendResponses dispatcher handedOut responses).2.1.rpcRequestQueue =
      dispatcher.rpcRequestQueue := by
  induction responses generalizing dispatcher handedOut with
  | nil => rfl
  | cons response rest ih => exact (ih _ _).trans rfl

namespace RpcServiceEndpoint

variable {R : Type u} (endpoint : RpcServiceEndpoint) (state : EndpointState R)
  (bytes : List UInt8) (handedOut : Nat)

theorem readBytes_queue :
    (endpoint.readBytes state bytes handedOut).state.dispatcher.rpcRequestQueue =
      (endpoint.decodeBytes state bytes handedOut).state.dispatcher.rpcRequestQueue := by
  unfold readBytes
  simp only
  split
  · rfl
  · exact sendResponses_queue _ _ _

theorem readBytes_responses :
    (endpoint.readBytes state bytes handedOut).responses =
      endpoint.runHandlers
        ((endpoint.decodeBytes state bytes handedOut).result.toOption.getD []) := by
  unfold readBytes
  simp only
  split
  · rename_i error failed
    rw [failed]
    rfl
  · rename_i requests decodes
    rw [decodes]
    rfl

theorem installRouter_setup
    (unrouted : endpoint.streamHandlers.isEmpty = true → (setup state.dispatcher).2 = none) :
    setup (endpoint.installRouter state).dispatcher = (true, endpoint.activeRouter) := by
  have catches := (endpoint.installRouter state).catchesAll
  refine Prod.ext catches ?_
  unfold installRouter activeRouter
  split
  · rename_i empty
    exact unrouted empty
  · rfl

/-- What a read decodes, routes and gathers. -/
theorem installRouter_readBytes
    (unrouted : endpoint.streamHandlers.isEmpty = true → (setup state.dispatcher).2 = none) :
    let decoded := state.dispatcher.session.decodeBytes bytes
    let routed := state.dispatcher.routing.onEvents endpoint.activeRouter true decoded.1
    let gathered := state.dispatcher.rpcRequestQueue.replay routed.2
    let read := (endpoint.installRouter state).dispatcher.readBytes bytes
    read.1 = decoded.2.1.map (fun _ => gathered.map Prod.fst) ∧
      read.2.1.routing = routed.1 ∧ read.2.1.rpcRequestQueue = gathered ∧ read.2.2 = routed.2 := by
  intro decoded routed gathered read
  rcases Prod.mk.inj (endpoint.installRouter_setup state unrouted) with ⟨catches, router⟩
  have acts : (endpoint.installRouter state).dispatcher.actionsOf decoded.1 = routed := by
    rw [RpcDispatcher.actionsOf, catches, router]
    exact congrArg (fun routing => Routing.onEvents _ _ routing decoded.1)
      (endpoint.installRouter_routing state)
  have readEq := (endpoint.installRouter state).dispatcher.readBytes_eq bytes
  rw [endpoint.installRouter_session state, acts, endpoint.installRouter_queue state] at readEq
  unfold read
  rw [readEq]
  exact ⟨rfl, congrArg Prod.fst acts, by
    rw [RpcDispatcher.afterEvents, acts, endpoint.installRouter_queue state], rfl⟩

/-- A read that succeeds hands out the first entry of a request id if that is complete; one
that fails keeps everything. -/
theorem decodeBytes_collects
    (unrouted : endpoint.streamHandlers.isEmpty = true → (setup state.dispatcher).2 = none)
    {rpcRequestId : UInt32} :
    let read := state.dispatcher.session.decodeBytes bytes
    let routed := state.dispatcher.routing.onEvents endpoint.activeRouter true read.1
    let gathered := state.dispatcher.rpcRequestQueue.replay routed.2
    let decoded := endpoint.decodeBytes state bytes handedOut
    OnlyFirst (gathered.ofRequest rpcRequestId) →
      (RequestQueue.ofRequest (decoded.result.toOption.getD []) rpcRequestId,
          decoded.state.dispatcher.rpcRequestQueue.ofRequest rpcRequestId) =
        if read.2.1.isOk then takeFinalized (gathered.ofRequest rpcRequestId)
        else ([], gathered.ofRequest rpcRequestId) := by
  intro read routed gathered decoded onlyFirst
  rcases endpoint.installRouter_readBytes state bytes unrouted with ⟨resultEq, -, queueEq, -⟩
  cases decodes : read.2.1 with
  | error error =>
      have failed : ((endpoint.installRouter state).dispatcher.readBytes bytes).1 =
          .error error := by
        rw [resultEq, decodes]
        rfl
      have decodedEq : decoded.result = .error (.decode error) ∧
          decoded.state.dispatcher =
            ((endpoint.installRouter state).dispatcher.readBytes bytes).2.1 := by
        unfold decoded decodeBytes
        simp only
        split
        · rename_i other otherEq
          rw [failed] at otherEq
          cases otherEq
          exact ⟨rfl, rfl⟩
        · rename_i ids succeeded
          rw [failed] at succeeded
          contradiction
      rw [decodedEq.1, decodedEq.2, queueEq]
      rfl
  | ok =>
      have succeeded : ((endpoint.installRouter state).dispatcher.readBytes bytes).1 =
          .ok (gathered.map Prod.fst) := by
        rw [resultEq, decodes]
        rfl
      rcases endpoint.decodeBytes_ok state bytes handedOut succeeded with
        ⟨collectedEq, dispatcherEq, -⟩
      have installedQueue := (installWriters_queue
        ((endpoint.installRouter state).dispatcher.readBytes bytes).2.1 handedOut
        (((endpoint.installRouter state).responders.onActions endpoint.streamHandlers
          ((endpoint.installRouter state).dispatcher.readBytes bytes).2.2).2.made.drop
            (endpoint.installRouter state).responders.made.length)).trans queueEq
      have collected := collectFinalized_ofRequest _ rpcRequestId
        (by rw [installedQueue]; exact onlyFirst) (gathered.map Prod.fst)
      rw [installedQueue] at collected
      rw [collectedEq, dispatcherEq]
      refine collected.trans ?_
      split
      · rfl
      · rename_i absent
        have nothing : gathered.ofRequest rpcRequestId = [] := by
          apply List.filter_eq_nil_iff.mpr
          intro entry member named
          exact absent (List.mem_map.mpr ⟨entry, member, of_decide_eq_true named⟩)
        rw [nothing]
        rfl

end RpcServiceEndpoint

/-! ## One step, one lane -/

/-- The responses under a request id are those to the requests of the id. -/
theorem runHandlers_ofRequest (endpoint : RpcServiceEndpoint)
    (requests : List (UInt32 × RpcRequest)) (rpcRequestId : UInt32) :
    ((endpoint.runHandlers requests).filter fun response =>
        response.rpcRequestId = rpcRequestId) =
      (RequestQueue.ofRequest requests rpcRequestId).map fun entry =>
        endpoint.processSinglePrebufferedRequest rpcRequestId entry.2 := by
  have selected : (requests.filter ((fun response : RpcResponse =>
        decide (response.rpcRequestId = rpcRequestId)) ∘ fun request =>
          endpoint.processSinglePrebufferedRequest request.1 request.2)) =
      RequestQueue.ofRequest requests rpcRequestId := by
    apply List.filter_congr
    intro entry _
    simp [(endpoint.processSinglePrebufferedRequest_spec entry.1 entry.2).1]
  unfold RpcServiceEndpoint.runHandlers
  rw [List.filter_map, selected]
  apply List.map_congr_left
  rintro ⟨requestId, request⟩ member
  obtain rfl : requestId = rpcRequestId := of_decide_eq_true (List.mem_filter.mp member).2
  rfl

/-- The handler that fails with a request is the one stored for it. -/
theorem handlers_ofRequest {H : Type u} (routing : Routing H) (rpcRequestId : UInt32) :
    (routing.responseHandlers.toList.filter fun entry => entry.1 = rpcRequestId) =
      (routing.slot rpcRequestId).handler.toList.map fun handler => (rpcRequestId, handler) := by
  have mem_iff : ∀ handler, (rpcRequestId, handler) ∈ routing.responseHandlers.toList ↔
      (routing.slot rpcRequestId).handler = some handler :=
    fun handler => ExtTreeMap.mem_toList_iff_getElem?_eq_some
  cases stored : (routing.slot rpcRequestId).handler with
  | none =>
      apply List.filter_eq_nil_iff.mpr
      rintro ⟨id, handler⟩ member named
      cases of_decide_eq_true named
      rw [mem_iff, stored] at member
      contradiction
  | some handler =>
      rcases List.append_of_mem ((mem_iff handler).mpr stored) with ⟨before, after, split⟩
      have distinct := routing.handlers_distinct
      rw [split, List.pairwise_append, List.pairwise_cons] at distinct
      rcases distinct with ⟨-, ⟨notAfter, -⟩, notBefore⟩
      have beforeEq : (before.filter fun entry => entry.1 = rpcRequestId) = [] := by
        apply List.filter_eq_nil_iff.mpr
        intro entry member named
        exact notBefore entry member _ List.mem_cons_self (of_decide_eq_true named)
      have afterEq : (after.filter fun entry => entry.1 = rpcRequestId) = [] := by
        apply List.filter_eq_nil_iff.mpr
        intro entry member named
        exact notAfter entry member (of_decide_eq_true named).symm
      rw [split, List.filter_append, List.filter_cons_of_pos (by simp), beforeEq, afterEq]
      rfl

namespace ServedEnd

variable {R : Type u} (endpoint : RpcServiceEndpoint)

/-- The router is the endpoint's own, and only first entries of the queue are complete. -/
structure Orderly (served : ServedEnd R) : Prop where
  unrouted : endpoint.streamHandlers.isEmpty = true →
    (setup served.state.dispatcher).2 = none
  onlyFirst : ∀ rpcRequestId,
    OnlyFirst (served.state.dispatcher.rpcRequestQueue.ofRequest rpcRequestId)

variable {endpoint} {served : ServedEnd R}

/-- What a read gathers keeps to first entries. -/
theorem Orderly.gathered (orderly : served.Orderly endpoint) (bytes : List UInt8)
    (rpcRequestId : UInt32) :
    OnlyFirst ((served.state.dispatcher.rpcRequestQueue.replay
      (served.state.dispatcher.routing.onEvents endpoint.activeRouter true
        (served.state.dispatcher.session.decodeBytes bytes).1).2).ofRequest rpcRequestId) := by
  rw [RequestQueue.replay_eq_foldl]
  exact (orderly.onlyFirst rpcRequestId).foldl_onEvent _

theorem lane_read (orderly : served.Orderly endpoint) (bytes : List UInt8)
    (rpcRequestId : UInt32) :
    (served.step endpoint (.read bytes)).lane rpcRequestId =
      (served.observe rpcRequestId (.read bytes)).foldl (Lane.step endpoint rpcRequestId)
        (served.lane rpcRequestId) := by
  let read := served.state.dispatcher.session.decodeBytes bytes
  let routed := served.state.dispatcher.routing.onEvents endpoint.activeRouter true read.1
  rcases Routing.onEvents_slot endpoint.activeRouter true served.state.dispatcher.routing read.1
    rpcRequestId with ⟨slotEq, actionsEq⟩
  rcases endpoint.readBytes_traffic served.state bytes served.handedOut with
    ⟨same, actionsSame⟩
  rcases endpoint.installRouter_readBytes served.state bytes orderly.unrouted with
    ⟨-, routingEq, -, logged⟩
  have gatheredEq := replay_ofRequest_own served.state.dispatcher.rpcRequestQueue routed.2
    rpcRequestId
  rw [actionsEq] at gatheredEq
  have collected := endpoint.decodeBytes_collects served.state bytes served.handedOut
    orderly.unrouted (orderly.gathered bytes rpcRequestId)
  rw [gatheredEq] at collected
  rcases Prod.ext_iff.mp collected with ⟨takenEq, leftEq⟩
  simp only [lane, step, observe, List.foldl_cons, List.foldl_nil, Lane.step, Lane.mk.injEq]
  refine ⟨?_, ?_, ?_, ?_⟩
  · rw [same.routing, routingEq]
    exact slotEq
  · rw [endpoint.readBytes_queue]
    exact leftEq
  · rw [List.filter_append, actionsSame, logged]
    exact congrArg _ actionsEq
  · rw [List.filter_append, endpoint.readBytes_responses, runHandlers_ofRequest]
    exact congrArg (fun taken : RequestQueue => _ ++ taken.map _) takenEq

theorem lane_call (rpcRequest : RpcRequest) (maxChunkSize : Nat) (onResponse : Option R)
    (prebufferResponse : Bool) (rpcRequestId : UInt32) :
    let input := EndInput.call rpcRequest maxChunkSize onResponse prebufferResponse
    (served.step endpoint input).lane rpcRequestId =
      (served.observe rpcRequestId input).foldl (Lane.step endpoint rpcRequestId)
        (served.lane rpcRequestId) := by
  intro input
  have slotEq : (served.step endpoint input).state.dispatcher.routing.slot rpcRequestId =
      if served.state.dispatcher.callId = rpcRequestId then
        ⟨onResponse.map EndpointHandler.response <|>
            (served.state.dispatcher.routing.slot rpcRequestId).handler,
          (served.state.dispatcher.routing.slot rpcRequestId).buffered, some prebufferResponse⟩
      else served.state.dispatcher.routing.slot rpcRequestId :=
    RpcRespondableSession.initRespondableRequest_slot ..
  rw [lane, slotEq]
  by_cases own : served.state.dispatcher.callId = rpcRequestId
  · simp only [input, observe, if_pos own]
    rfl
  · simp only [input, observe, if_neg own]
    rfl

theorem lane_fail (error : FrameDecodeError) (rpcRequestId : UInt32) :
    (served.step endpoint (.fail error)).lane rpcRequestId =
      (served.observe rpcRequestId (.fail error)).foldl (Lane.step endpoint rpcRequestId)
        (served.lane rpcRequestId) := by
  have slotEq : (served.step endpoint (.fail error)).state.dispatcher.routing.slot rpcRequestId =
    Slot.empty := Routing.slot_new rpcRequestId
  have failedEq : ((served.state.dispatcher.failAllPendingRequests error).2.filter fun action =>
      action.requestId = some rpcRequestId) =
        (served.state.dispatcher.routing.slot rpcRequestId).invoke
          [.error none (some rpcRequestId) none error] := by
    have stored := handlers_ofRequest served.state.dispatcher.routing rpcRequestId
    have split : ((served.state.dispatcher.failAllPendingRequests error).2.filter fun action =>
        action.requestId = some rpcRequestId) =
          (served.state.dispatcher.routing.responseHandlers.toList.filter fun entry =>
            entry.1 = rpcRequestId).map fun entry =>
              .invoked entry.2 (.error none (some entry.1) none error) := by
      rw [RpcDispatcher.failAllPendingRequests, List.filter_map]
      apply congrArg (List.map _)
      apply List.filter_congr
      intro entry _
      simp [Action.requestId, RpcStreamEvent.requestId]
    rw [split, stored, Slot.invoke]
    cases (served.state.dispatcher.routing.slot rpcRequestId).handler with
    | none => rfl
    | some handler => rfl
  rw [lane, slotEq]
  simp only [step, observe, List.foldl_cons, List.foldl_nil, Lane.step, List.filter_append,
    failedEq]
  rfl

/-- Every input acts on a lane as what it is to the lane. -/
theorem lane_step (orderly : served.Orderly endpoint) (input : EndInput R)
    (rpcRequestId : UInt32) :
    (served.step endpoint input).lane rpcRequestId =
      (served.observe rpcRequestId input).foldl (Lane.step endpoint rpcRequestId)
        (served.lane rpcRequestId) := by
  cases input with
  | read bytes => exact lane_read orderly bytes rpcRequestId
  | call rpcRequest maxChunkSize onResponse prebufferResponse =>
      exact lane_call rpcRequest maxChunkSize onResponse prebufferResponse rpcRequestId
  | fail error => exact lane_fail error rpcRequestId
  | draw => rfl

theorem Orderly.new (endpoint : RpcServiceEndpoint) (idSpace : IdSpace) (handedOut : Nat) :
    (new (R := R) idSpace handedOut).Orderly endpoint where
  unrouted _ := rfl
  onlyFirst _ _ member := absurd member List.not_mem_nil

theorem Orderly.step (orderly : served.Orderly endpoint) (input : EndInput R) :
    (served.step endpoint input).Orderly endpoint := by
  cases input with
  | read bytes =>
      constructor
      case unrouted =>
        intro empty
        rcases endpoint.readBytes_traffic served.state bytes served.handedOut with ⟨same, -⟩
        have kept := (same.sameSetup.trans (setup_readBytes _ bytes)).trans
          (endpoint.installRouter_setup served.state orderly.unrouted)
        refine (congrArg Prod.snd kept).trans ?_
        rw [RpcServiceEndpoint.activeRouter, if_pos empty]
      case onlyFirst =>
        intro rpcRequestId
        have gatheredFirst := orderly.gathered bytes rpcRequestId
        have leftEq := congrArg Prod.snd (endpoint.decodeBytes_collects served.state bytes
          served.handedOut orderly.unrouted gatheredFirst)
        simp only at leftEq
        rw [ServedEnd.step, endpoint.readBytes_queue, leftEq]
        split
        · exact gatheredFirst.left
        · exact gatheredFirst
  | call rpcRequest maxChunkSize onResponse prebufferResponse =>
      exact ⟨orderly.unrouted, orderly.onlyFirst⟩
  | fail error =>
      exact ⟨orderly.unrouted, fun _ entry member => absurd member List.not_mem_nil⟩
  | draw => exact ⟨orderly.unrouted, orderly.onlyFirst⟩

/-- An end is the product of the lanes of its request ids. -/
theorem separates (endpoint : RpcServiceEndpoint) :
    Separates (step (R := R) endpoint) (Orderly endpoint) observe lane (Lane.step endpoint) where
  preserves _ input orderly := orderly.step input
  separates rpcRequestId _ input orderly := lane_step orderly input rpcRequestId

end ServedEnd

/-! ## Responses never outnumber requests -/

section Caught

variable {H : Type u} (router : Option (StreamMethodRouter H)) (catchAll : Bool) (rpcId : UInt32)

end Caught

/-- A count of entries that an event raises at most by one, and only if it is of the given
kind, and that taking a complete entry lowers. -/
structure Counts (weight : RequestQueue → Nat) (kind : RpcStreamEvent → Bool) : Prop where
  empty : weight [] = 0
  onEvent : ∀ queue event,
    weight (RequestQueue.onEvent queue event) ≤ weight queue + if kind event then 1 else 0
  take : ∀ queue, weight queue = (takeFinalized queue).1.length + weight (takeFinalized queue).2

theorem Counts.foldl {weight : RequestQueue → Nat} {kind : RpcStreamEvent → Bool}
    (counts : Counts weight kind) (queue : RequestQueue) (events : List RpcStreamEvent) :
    weight (events.foldl RequestQueue.onEvent queue) ≤ weight queue + events.countP kind := by
  induction events generalizing queue with
  | nil => exact Nat.le_refl _
  | cons event rest ih =>
      have now := counts.onEvent queue event
      have later := ih (queue.onEvent event)
      rw [List.foldl_cons, List.countP_cons]
      omega

/-- The events that a lane has seen. -/
def LaneEvent.events {R : Type u} : LaneEvent R → List RpcStreamEvent
  | decoded events _ => events
  | _ => []

namespace Lane

variable {R : Type u} {weight : RequestQueue → Nat} {kind : RpcStreamEvent → Bool}

end Lane

/-! ## Reads that succeed -/

/-- Nothing is stored for the request, so all its events are caught. -/
theorem Slot.empty_onEvents {H : Type u} {router : Option (StreamMethodRouter H)} {rpcId : UInt32}
    {events : List RpcStreamEvent} (named : ∀ event ∈ events, event.requestId = some rpcId)
    (unoffered : ∀ event ∈ events, offered router event = none) :
    (Slot.empty : Slot H).onEvents router true rpcId events = (Slot.empty, events.map .caught) := by
  induction events with
  | nil => rfl
  | cons event rest ih =>
      have first : (Slot.empty : Slot H).onEvent router true rpcId event =
          (Slot.empty, [.caught event]) := by
        have isNamed := named event List.mem_cons_self
        have isUnoffered := unoffered event List.mem_cons_self
        cases event with
        | header id methodId rpcHeader =>
            cases Option.some.inj isNamed
            rw [offered] at isUnoffered
            simp only [Slot.onEvent, Slot.route, isUnoffered]
            rfl
        | payloadChunk => rfl
        | «end» => rfl
        | error => rfl
      rw [Slot.onEvents, first, ih (fun other member => named other (List.mem_cons_of_mem _ member))
        (fun other member => unoffered other (List.mem_cons_of_mem _ member))]
      rfl

/-- Reads, with the events that each has decoded of a request and whether it has succeeded. -/
def readsOf {R : Type u} (reads : List (List RpcStreamEvent × Bool)) : List (LaneEvent R) :=
  reads.map fun read => .decoded read.1 read.2

namespace Lane

variable {R : Type u} {endpoint : RpcServiceEndpoint} {header : RpcHeader}
  {chunks : List (List UInt8)}

/-- A lane that has seen part of a message and nothing else.  It gathers the message until a
read succeeds with all of it, and has then answered. -/
inductive Hearing (endpoint : RpcServiceEndpoint) (header : RpcHeader)
    (chunks : List (List UInt8)) (lane : Lane R) : List RpcStreamEvent → Prop
  | gathering {events : List RpcStreamEvent} (slot : lane.slot = .empty)
      (queue : lane.queue = events.foldl RequestQueue.onEvent [])
      (unanswered : lane.responses = []) : Hearing endpoint header chunks lane events
  | answered (queue : lane.queue = [])
      (responses : lane.responses = [endpoint.processSinglePrebufferedRequest header.rpcRequestId
        (header.gathered chunks.flatten)]) :
      Hearing endpoint header chunks lane (header.streamEvents chunks)

section Message

variable (nonempty : ∀ chunk ∈ chunks, chunk ≠ [])
  (unstreamed : endpoint.streamHandlers.contains header.rpcMethodId = false)

include unstreamed in
/-- All of the message is caught. -/
theorem message_caught {events : List RpcStreamEvent}
    (ofMessage : ∀ event ∈ events, event ∈ header.streamEvents chunks) :
    (Slot.empty : Slot (EndpointHandler R)).onEvents endpoint.activeRouter true
      header.rpcRequestId events = (Slot.empty, events.map .caught) := by
  have unrouted : (endpoint.activeRouter (R := R)).bind (fun routerFn =>
      routerFn header.rpcMethodId header.rpcRequestId) = none := by
    unfold RpcServiceEndpoint.activeRouter
    split
    · rfl
    · simp [RpcServiceEndpoint.router, unstreamed]
  apply Slot.empty_onEvents
  · intro event member
    exact (RpcHeader.mem_streamEvents (ofMessage event member)).1
  · intro event member
    rcases List.mem_append.mp (ofMessage event member) with front | ending
    · rcases List.mem_cons.mp front with rfl | chunk
      · exact unrouted
      · rcases List.mem_map.mp chunk with ⟨bytes, -, rfl⟩
        rfl
    · rw [List.mem_singleton.mp ending]
      rfl

include nonempty unstreamed

/-- A read goes on gathering, or answers. -/
theorem Hearing.step {lane : Lane R} {events more : List RpcStreamEvent}
    (hearing : Hearing endpoint header chunks lane events)
    (part : events ++ more <+: header.streamEvents chunks) (succeeded : Bool) :
    let after := lane.step endpoint header.rpcRequestId (.decoded more succeeded)
    Hearing endpoint header chunks after (events ++ more) ∧
      (succeeded = true → events ++ more = header.streamEvents chunks →
        after.responses = [endpoint.processSinglePrebufferedRequest header.rpcRequestId
          (header.gathered chunks.flatten)]) := by
  intro after
  cases hearing with
  | gathering slot queue unanswered =>
      have caught : lane.slot.onEvents endpoint.activeRouter true header.rpcRequestId more =
          (Slot.empty, more.map .caught) := by
        rw [slot]
        exact message_caught unstreamed fun event member =>
          part.subset (List.mem_append_right _ member)
      have gathered : lane.queue.replay (more.map (Action.caught (H := EndpointHandler R))) =
          (events ++ more).foldl RequestQueue.onEvent [] := by
        rw [RequestQueue.replay_eq_foldl, List.filterMap_map, queue, List.foldl_append]
        exact congrArg (List.foldl _ _) List.filterMap_some
      unfold after
      simp only [Lane.step, caught, gathered, unanswered, List.nil_append]
      cases succeeded with
      | false => exact ⟨.gathering rfl rfl rfl, fun succeeded => by contradiction⟩
      | true =>
          by_cases whole : events ++ more = header.streamEvents chunks
          · rw [whole, RequestQueue.foldl_message header nonempty]
            exact ⟨.answered rfl rfl, fun _ _ => rfl⟩
          · have unended : ∀ event ∈ events ++ more, event.isEnd = false := by
              intro event member
              apply Bool.eq_false_of_not_eq_true
              intro isEnd
              exact whole (RpcHeader.eq_of_part_of_end part
                (List.any_eq_true.mpr ⟨event, member, isEnd⟩))
            rw [if_pos rfl, takeFinalized_unfinished (RequestQueue.foldl_unfinalized unended
              fun entry member => absurd member List.not_mem_nil)]
            exact ⟨.gathering rfl rfl rfl, fun _ complete => absurd complete whole⟩
  | answered queue responses =>
      have nothing : more = [] := by
        have short := part.length_le
        rw [List.length_append] at short
        exact List.length_eq_zero_iff.mp (by omega)
      subst nothing
      have unchanged : after.queue = [] ∧ after.responses = lane.responses := by
        unfold after
        cases succeeded with
        | true => simp [Lane.step, Slot.onEvents, RequestQueue.replay, queue, takeFinalized]
        | false => simp [Lane.step, Slot.onEvents, RequestQueue.replay, queue]
      rw [List.append_nil]
      exact ⟨.answered unchanged.1 (unchanged.2.trans responses),
        fun _ _ => unchanged.2.trans responses⟩

theorem Hearing.run {lane : Lane R} {events : List RpcStreamEvent}
    (hearing : Hearing endpoint header chunks lane events)
    {reads : List (List RpcStreamEvent × Bool)}
    (part : events ++ (reads.map Prod.fst).flatten <+: header.streamEvents chunks) :
    Hearing endpoint header chunks
      ((readsOf reads).foldl (Lane.step endpoint header.rpcRequestId) lane)
      (events ++ (reads.map Prod.fst).flatten) := by
  induction reads generalizing lane events with
  | nil =>
      rw [List.map_nil, List.flatten_nil, List.append_nil]
      exact hearing
  | cons read rest ih =>
      rw [List.map_cons, List.flatten_cons, ← List.append_assoc] at part ⊢
      have begun := (List.prefix_append _ _).trans part
      exact ih (hearing.step nonempty unstreamed begun read.2).1 part

end Message

end Lane

end Muxio.Service
