import Muxio.Rpc.Connection
import Muxio.Rpc.Messages
import Muxio.Service.Caller
import Muxio.Service.Responses

/-!
# A prebuffered service

The two ends of a connection make any number of prebuffered calls while frames of all
streams are put on the wire in any interleaving, both ends read in pieces of any size,
and the handlers of the requests that have been collected run in any order.  In a
service only the client end makes calls.
-/

namespace Muxio.Service

open Std
open Muxio.Framing
open Muxio.Rpc
open Muxio.Transition

universe u

/-! ## The system -/

/-- The chunk size of all streams of a service. -/
def serviceChunkSize : ChunkSize := ⟨defaultServiceMaxChunkSize, by decide, by decide⟩

/-- A call of `RpcCallPrebuffered::call` under its request id. -/
structure PrebufferedCall where
  rpcRequestId : UInt32
  methodId : UInt64
  encodedArgs : List UInt8
  deriving DecidableEq, Repr

namespace PrebufferedCall

def request (call : PrebufferedCall) : RpcRequest :=
  prebufferedRequest call.methodId call.encodedArgs

/-- The header that announces the call. -/
def header (call : PrebufferedCall) : RpcHeader where
  rpcMsgType := .call
  rpcRequestId := call.rpcRequestId
  rpcMethodId := call.methodId
  rpcMetadataBytes := call.request.rpcParamBytes.getD []

end PrebufferedCall

/-- One end of a connection with its endpoint.  The response handler of the call
number `n` is `.response n`. -/
structure ServiceNode where
  endpoint : RpcServiceEndpoint
  state : EndpointState Nat
  link : Link
  nextDraw : Nat
  calls : List CallRecord
  /-- The prebuffered calls made. -/
  made : List PrebufferedCall
  /-- What the event callback has done. -/
  log : List (Action (EndpointHandler Nat))
  /-- The requests collected whose handlers have not run. -/
  waiting : List (UInt32 × RpcRequest)
  /-- The requests answered. -/
  served : List (UInt32 × RpcRequest)

namespace ServiceNode

def new (endpoint : RpcServiceEndpoint) (idSpace : IdSpace) (start : Nat) : ServiceNode where
  endpoint := endpoint
  state := (EndpointState.new idSpace start).1
  link := Link.new
  nextDraw := start + 1
  calls := []
  made := []
  log := []
  waiting := []
  served := []

/-- The end as its dispatcher and its link see it. -/
def toEnd (node : ServiceNode) : ConnectionEnd (EndpointHandler Nat) :=
  ⟨node.state.dispatcher, node.link, node.nextDraw, node.calls⟩

/-- A step that does not touch the router. -/
def act (node : ServiceNode) (handedOut : Nat) (step : EndStep (EndpointHandler Nat))
    (same : setup (node.toEnd.act handedOut step).1.dispatcher = setup node.state.dispatcher) :
    ServiceNode × Nat :=
  let acted := node.toEnd.act handedOut step
  ({ node with
      state := node.state.withDispatcher acted.1.dispatcher same node.state.responders
      link := acted.1.link
      nextDraw := acted.1.nextDraw
      calls := acted.1.calls },
    acted.2)

/-- `RpcCallPrebuffered::call` up to the point where it waits for the response. -/
def call (node : ServiceNode) (methodId : UInt64) (encodedArgs : List UInt8) (handedOut : Nat) :
    ServiceNode × Nat :=
  let acted := node.act handedOut (.call (prebufferedRequest methodId encodedArgs) serviceChunkSize
    (some (.response node.made.length)) false) rfl
  ({ acted.1 with made := node.made ++ [⟨node.state.dispatcher.callId, methodId, encodedArgs⟩] },
    acted.2)

/-- Run the handler of a request that has been collected and send its response. -/
def serve (node : ServiceNode) (index : Nat) (handedOut : Nat) : ServiceNode × Nat :=
  match node.waiting[index]? with
  | none => (node, handedOut)
  | some (requestId, request) =>
      let response := node.endpoint.processSinglePrebufferedRequest requestId request
      let acted := node.act handedOut (.respond response serviceChunkSize) rfl
      ({ acted.1 with
          waiting := node.waiting.eraseIdx index
          served := node.served ++ [(requestId, request)] },
        acted.2)

/-- Decode what has arrived and collect the requests that are complete.  Streaming
handlers write to the wire at once. -/
def read (node : ServiceNode) (bytes : List UInt8) (handedOut : Nat) : ServiceNode × Nat :=
  let decoded := node.endpoint.decodeBytes node.state bytes handedOut
  let requests := match decoded.result with
    | .ok requests => requests
    | .error _ => []
  ({ node with
      state := decoded.state
      link := { node.link with wire := node.link.wire ++ decoded.frames }
      log := node.log ++ decoded.actions
      waiting := node.waiting ++ requests },
    decoded.handedOut)

end ServiceNode

/-- The two ends of a connection. -/
structure PrebufferedService where
  client : ServiceNode
  server : ServiceNode
  /-- Ids handed out so far in the process of each end. -/
  handedOut : Side → Nat
  sharedCounter : Bool

/-- A step of two peers. -/
inductive PeerStep where
  | call (side : Side) (methodId : UInt64) (encodedArgs : List UInt8)
  /-- Put the next frame of a stream on the wire. -/
  | send (side : Side) (streamId : UInt32)
  /-- Read at most `count` bytes of what is on the wire. -/
  | read (side : Side) (count : Nat)
  /-- Serve one of the requests that have been collected. -/
  | serve (side : Side) (index : Nat)
  /-- Something else in the process draws an id. -/
  | draw (side : Side)
  deriving DecidableEq, Repr

/-- A step of a service: its calls are made at the client end. -/
inductive ServiceStep where
  | call (methodId : UInt64) (encodedArgs : List UInt8)
  | send (side : Side) (streamId : UInt32)
  | read (side : Side) (count : Nat)
  | serve (side : Side) (index : Nat)
  | draw (side : Side)
  deriving DecidableEq, Repr

def ServiceStep.toPeer : ServiceStep → PeerStep
  | .call methodId encodedArgs => .call .client methodId encodedArgs
  | .send side streamId => .send side streamId
  | .read side count => .read side count
  | .serve side index => .serve side index
  | .draw side => .draw side

namespace PrebufferedService

def new (endpoint : Side → RpcServiceEndpoint) (creation : Creation) :
    PrebufferedService where
  client := ServiceNode.new (endpoint .client) (creation.idSpace .client) (creation.start .client)
  server := ServiceNode.new (endpoint .server) (creation.idSpace .server) (creation.start .server)
  handedOut := creation.handedOut
  sharedCounter := creation.sharedCounter

def node (service : PrebufferedService) : Side → ServiceNode
  | .client => service.client
  | .server => service.server

def setNode (service : PrebufferedService) (node : ServiceNode) : Side → PrebufferedService
  | .client => { service with client := node }
  | .server => { service with server := node }

def toConnection (service : PrebufferedService) : Connection (EndpointHandler Nat) where
  ends side := (service.node side).toEnd
  handedOut := service.handedOut
  sharedCounter := service.sharedCounter

/-- One end has changed and its counter has gone on. -/
def change (service : PrebufferedService) (side : Side) (changed : ServiceNode × Nat) :
    PrebufferedService :=
  { service.setNode changed.1 side with
    handedOut := service.toConnection.advance side changed.2 }

def peerStep (service : PrebufferedService) : PeerStep → PrebufferedService
  | .call side methodId encodedArgs =>
      service.change side
        ((service.node side).call methodId encodedArgs (service.handedOut side))
  | .send side streamId =>
      service.change side ((service.node side).act (service.handedOut side) (.send streamId) rfl)
  | .read side count =>
      let sender := service.node side.peer
      let sent := service.setNode { sender with link := sender.link.deliver count } side.peer
      sent.change side ((service.node side).read (sender.link.chunk count) (service.handedOut side))
  | .serve side index =>
      service.change side ((service.node side).serve index (service.handedOut side))
  | .draw side => service.change side ((service.node side).act (service.handedOut side) .draw rfl)

def peerRun (service : PrebufferedService) (steps : List PeerStep) : PrebufferedService :=
  steps.foldl peerStep service

def step (service : PrebufferedService) (step : ServiceStep) : PrebufferedService :=
  service.peerStep step.toPeer

def run (service : PrebufferedService) (steps : List ServiceStep) : PrebufferedService :=
  steps.foldl step service

theorem run_eq_peerRun (service : PrebufferedService) (steps : List ServiceStep) :
    service.run steps = service.peerRun (steps.map ServiceStep.toPeer) := by
  rw [peerRun, List.foldl_map]
  rfl

end PrebufferedService

/-! ## Messages of a service -/

@[simp]
theorem prebufferedRequest_methodId (methodId : UInt64) (encodedArgs : List UInt8) :
    (prebufferedRequest methodId encodedArgs).rpcMethodId = methodId := by
  unfold prebufferedRequest
  split <;> rfl

theorem prebufferedRequest_finalized (methodId : UInt64) (encodedArgs : List UInt8) :
    (prebufferedRequest methodId encodedArgs).isFinalized = true := by
  unfold prebufferedRequest
  split <;> rfl

/-- Arguments in the metadata of a header fit its length field. -/
theorem prebufferedRequest_fits (methodId : UInt64) (encodedArgs : List UInt8) :
    ((prebufferedRequest methodId encodedArgs).rpcParamBytes.getD []).length < 2 ^ 16 := by
  unfold prebufferedRequest
  split
  · exact Nat.two_pow_pos 16
  · rename_i short
    exact Nat.lt_of_not_ge short

/-- The header of a call is the one its dispatcher writes. -/
theorem callHeader_prebuffered (dispatcher : RpcDispatcher (EndpointHandler Nat))
    (methodId : UInt64) (encodedArgs : List UInt8) :
    dispatcher.callHeader (prebufferedRequest methodId encodedArgs) =
      PrebufferedCall.header ⟨dispatcher.callId, methodId, encodedArgs⟩ := by
  simp [RpcDispatcher.callHeader, PrebufferedCall.header, PrebufferedCall.request]

theorem PrebufferedCall.header_fits (call : PrebufferedCall) : call.header.Fits :=
  Nat.le_of_lt_succ (prebufferedRequest_fits call.methodId call.encodedArgs)

/-- The response to a request that has been collected. -/
def ServiceNode.response (node : ServiceNode) (entry : UInt32 × RpcRequest) : RpcResponse :=
  node.endpoint.processSinglePrebufferedRequest entry.1 entry.2

/-- What serving a request does. -/
theorem ServiceNode.serve_eq {node : ServiceNode} {index : Nat} {entry : UInt32 × RpcRequest}
    (found : node.waiting[index]? = some entry) (handedOut : Nat) :
    node.serve index handedOut =
      let acted := node.act handedOut (.respond (node.response entry) serviceChunkSize) rfl
      ({ acted.1 with
          waiting := node.waiting.eraseIdx index
          served := node.served ++ [entry] }, acted.2) := by
  rw [ServiceNode.serve, found]
  rfl

theorem ServiceNode.serve_none {node : ServiceNode} {index : Nat}
    (none : node.waiting[index]? = none) (handedOut : Nat) :
    node.serve index handedOut = (node, handedOut) := by
  rw [ServiceNode.serve, none]

/-- What serving a request leaves as it is. -/
theorem ServiceNode.serve_keeps (node : ServiceNode) (index handedOut : Nat) :
    let after := (node.serve index handedOut).1
    after.endpoint = node.endpoint ∧ after.made = node.made ∧ after.log = node.log := by
  intro after
  unfold after ServiceNode.serve
  split <;> exact ⟨rfl, rfl, rfl⟩

/-! ## Reads without streaming methods -/

section Reads

variable {H : Type u}

theorem find_append_cons {kept : RequestQueue} {id : UInt32} (rest : RequestQueue)
    (request : RpcRequest) (absent : id ∉ kept.map Prod.fst) :
    RequestQueue.find (kept ++ (id, request) :: rest) id = some request := by
  rw [RequestQueue.find_append, find_eq_none_of_absent absent]
  simp [RequestQueue.find]

theorem delete_append_cons {kept : RequestQueue} {id : UInt32} (rest : RequestQueue)
    (request : RpcRequest) (absent : id ∉ kept.map Prod.fst) :
    RequestQueue.delete id (kept ++ (id, request) :: rest) = kept ++ rest := by
  induction kept with
  | nil => simp [RequestQueue.delete]
  | cons entry others ih =>
      rw [List.map_cons, List.mem_cons, not_or] at absent
      rw [List.cons_append, RequestQueue.delete, if_neg fun same => absent.1 same.symm,
        ih absent.2, List.cons_append]

/-- Going through the rest of a queue. -/
theorem collectFinalized_rest (dispatcher : RpcDispatcher H) (kept : RequestQueue)
    {rest : RequestQueue}
    (distinct : ((kept ++ rest).map Prod.fst).Nodup) :
    collectFinalized { dispatcher with rpcRequestQueue := kept ++ rest } (rest.map Prod.fst) =
      (RequestQueue.finalized rest,
        { dispatcher with rpcRequestQueue := kept ++ RequestQueue.unfinalized rest }) := by
  induction rest generalizing kept with
  | nil => rfl
  | cons entry others ih =>
      rcases entry with ⟨id, request⟩
      have absent : id ∉ kept.map Prod.fst := by
        rw [List.map_append, List.nodup_append] at distinct
        intro member
        exact distinct.2.2 id member id List.mem_cons_self rfl
      have found := find_append_cons others request absent
      rw [List.map_cons, collectFinalized]
      cases complete : request.isFinalized with
      | true =>
          have later := ih kept (distinct.sublist ((List.Sublist.append
            (List.Sublist.refl kept) (List.sublist_cons_self _ _)).map _))
          simp only [RpcDispatcher.isRpcRequestFinalized, found, Option.map_some, complete,
            Option.getD_some, if_true, RpcDispatcher.deleteRpcRequest,
            delete_append_cons others request absent, later]
          simp [RequestQueue.finalized, RequestQueue.unfinalized, complete]
      | false =>
          have later := ih (kept ++ [(id, request)]) (by simpa using distinct)
          rw [List.append_assoc, List.singleton_append] at later
          simp only [RpcDispatcher.isRpcRequestFinalized, found, Option.map_some, complete,
            Option.getD_some, Bool.false_eq_true, if_false, later]
          simp [RequestQueue.finalized, RequestQueue.unfinalized, complete]

/-- Collecting takes the complete requests out of the queue. -/
theorem collectFinalized_eq {dispatcher : RpcDispatcher H} {ids : List UInt32}
    (idsEq : ids = dispatcher.rpcRequestQueue.map Prod.fst)
    (distinct : (dispatcher.rpcRequestQueue.map Prod.fst).Nodup) :
    collectFinalized dispatcher ids =
      (RequestQueue.finalized dispatcher.rpcRequestQueue,
        { dispatcher with
          rpcRequestQueue := RequestQueue.unfinalized dispatcher.rpcRequestQueue }) := by
  rw [idsEq]
  exact collectFinalized_rest dispatcher [] distinct

end Reads

namespace RpcServiceEndpoint

variable {R : Type u} (endpoint : RpcServiceEndpoint) (state : EndpointState R)
  (bytes : List UInt8) (handedOut : Nat)

/-- A read that neither routes a stream nor calls a streaming handler collects the
complete requests, and does nothing else. -/
theorem decodeBytes_unstreamed {actions : List (Action (EndpointHandler R))} {queue : RequestQueue}
    (decoded : (state.dispatcher.session.decodeBytes bytes).2.1 = .ok ())
    (actionsEq : ((endpoint.installRouter state).dispatcher.actionsOf
      (state.dispatcher.session.decodeBytes bytes).1).2 = actions)
    (noRoute : ∀ rpcMethodId rpcRequestId handler,
      .routed rpcMethodId rpcRequestId handler ∉ actions)
    (noStream : ∀ rpcMethodId event, .invoked (.stream rpcMethodId) event ∉ actions)
    (queueEq : state.dispatcher.rpcRequestQueue.replay actions = queue)
    (distinct : (queue.map Prod.fst).Nodup) :
    let read := endpoint.decodeBytes state bytes handedOut
    read.result = .ok queue.finalized ∧
      read.state.dispatcher =
        { (endpoint.installRouter state).dispatcher.afterEvents
            (state.dispatcher.session.decodeBytes bytes).2.2
            (state.dispatcher.session.decodeBytes bytes).1 with
          rpcRequestQueue := queue.unfinalized } ∧
      read.handedOut = handedOut ∧ read.actions = actions ∧ read.frames = [] := by
  intro read
  let routed := (endpoint.installRouter state).dispatcher
  have readEq := routed.readBytes_eq bytes
  rw [endpoint.installRouter_session state, decoded, actionsEq, endpoint.installRouter_queue state,
    queueEq] at readEq
  obtain ⟨resultEq, dispatcherEq, handedOutEq, readActions, framesEq⟩ :=
    endpoint.decodeBytes_ok state bytes handedOut (congrArg Prod.fst readEq)
  rw [readEq, Responders.onActions_quiet _ _ noRoute noStream, List.drop_length]
    at resultEq dispatcherEq handedOutEq framesEq
  have queueAfter : (routed.afterEvents (state.dispatcher.session.decodeBytes bytes).2.2
      (state.dispatcher.session.decodeBytes bytes).1).rpcRequestQueue = queue := by
    rw [RpcDispatcher.afterEvents, actionsEq, endpoint.installRouter_queue state]
    exact queueEq
  simp only [installWriters] at resultEq dispatcherEq handedOutEq framesEq
  have collected := collectFinalized_eq (congrArg (List.map Prod.fst) queueAfter.symm)
    (queueAfter.symm ▸ distinct)
  rw [collected, queueAfter] at resultEq dispatcherEq
  exact ⟨resultEq, dispatcherEq, handedOutEq, readActions.trans (congrArg (·.2.2) readEq),
    framesEq⟩

end RpcServiceEndpoint

/-- A read of a node that neither routes a stream nor calls a streaming handler. -/
theorem ServiceNode.read_unstreamed {node : ServiceNode} {bytes : List UInt8} (handedOut : Nat)
    {actions : List (Action (EndpointHandler Nat))} {queue : RequestQueue}
    (decoded : (node.state.dispatcher.session.decodeBytes bytes).2.1 = .ok ())
    (actionsEq : ((node.endpoint.installRouter node.state).dispatcher.actionsOf
      (node.state.dispatcher.session.decodeBytes bytes).1).2 = actions)
    (noRoute : ∀ rpcMethodId rpcRequestId handler,
      .routed rpcMethodId rpcRequestId handler ∉ actions)
    (noStream : ∀ rpcMethodId event, .invoked (.stream rpcMethodId) event ∉ actions)
    (queueEq : node.state.dispatcher.rpcRequestQueue.replay actions = queue)
    (distinct : (queue.map Prod.fst).Nodup) :
    ∃ state : EndpointState Nat,
      node.read bytes handedOut =
        ({ node with
            state := state
            log := node.log ++ actions
            waiting := node.waiting ++ queue.finalized }, handedOut) ∧
      state.dispatcher =
        { (node.endpoint.installRouter node.state).dispatcher.afterEvents
            (node.state.dispatcher.session.decodeBytes bytes).2.2
            (node.state.dispatcher.session.decodeBytes bytes).1 with
          rpcRequestQueue := queue.unfinalized } := by
  obtain ⟨resultEq, dispatcherEq, handedOutEq, readActions, framesEq⟩ :=
    node.endpoint.decodeBytes_unstreamed node.state bytes handedOut decoded actionsEq noRoute
      noStream queueEq distinct
  refine ⟨_, ?_, dispatcherEq⟩
  simp only [ServiceNode.read, resultEq, handedOutEq, readActions, framesEq, List.append_nil]

theorem Routing.route_of_unoffered {H : Type u} {router : Option (StreamMethodRouter H)}
    (routing : Routing H) {event : RpcStreamEvent} (unoffered : offered router event = none) :
    routing.route router event = (routing, []) := by
  cases event with
  | header rpcRequestId rpcMethodId rpcHeader =>
      have nothing : (router.bind fun routerFn => routerFn rpcMethodId rpcRequestId) = none :=
        unoffered
      rw [Routing.route, nothing]
  | payloadChunk => rfl
  | «end» => rfl
  | error => rfl

/-- The router of an endpoint leaves the methods alone that are not streaming. -/
theorem RpcServiceEndpoint.offered_installRouter {R : Type u} (endpoint : RpcServiceEndpoint)
    (state : EndpointState R) {event : RpcStreamEvent}
    (unoffered : offered (setup state.dispatcher).2 event = none)
    (unstreamed : ∀ rpcRequestId rpcMethodId rpcHeader,
      event = .header rpcRequestId rpcMethodId rpcHeader →
        endpoint.streamHandlers.contains rpcMethodId = false) :
    offered (setup (endpoint.installRouter state).dispatcher).2 event = none := by
  unfold RpcServiceEndpoint.installRouter
  split
  · exact unoffered
  · cases event with
    | header rpcRequestId rpcMethodId rpcHeader =>
        have absent := unstreamed rpcRequestId rpcMethodId rpcHeader rfl
        show endpoint.router rpcMethodId rpcRequestId = none
        rw [RpcServiceEndpoint.router, absent]
        rfl
    | payloadChunk => rfl
    | «end» => rfl
    | error => rfl

theorem RpcServiceEndpoint.installRouter_nextDraws {R : Type u} (endpoint : RpcServiceEndpoint)
    (state : EndpointState R) {requestDraw streamDraw : Nat}
    (draws : state.dispatcher.NextDraws requestDraw streamDraw) :
    (endpoint.installRouter state).dispatcher.NextDraws requestDraw streamDraw ∧
      (endpoint.installRouter state).dispatcher.idSpace = state.dispatcher.idSpace := by
  unfold RpcServiceEndpoint.installRouter
  split
  · exact ⟨draws, rfl⟩
  · exact ⟨⟨draws.request, draws.stream, draws.space⟩, rfl⟩

/-! ## Ids -/

section Counting

theorem le_installWriters {H : Type u} (dispatcher : RpcDispatcher H) (handedOut : Nat)
    (responders : List StreamResponder) :
    handedOut ≤ (installWriters dispatcher handedOut responders).2.2.2 := by
  induction responders generalizing dispatcher handedOut with
  | nil => exact Nat.le_refl handedOut
  | cons responder rest ih => exact (Nat.le_succ handedOut).trans (ih _ _)

namespace ServiceNode

theorem le_read (node : ServiceNode) (bytes : List UInt8) (handedOut : Nat) :
    handedOut ≤ (node.read bytes handedOut).2 := by
  simp only [read, RpcServiceEndpoint.decodeBytes]
  split
  · exact Nat.le_refl handedOut
  · exact le_installWriters _ _ _

theorem le_serve (node : ServiceNode) (index handedOut : Nat) :
    handedOut ≤ (node.serve index handedOut).2 := by
  rw [serve]
  split
  · exact Nat.le_refl handedOut
  · exact ConnectionEnd.act_handedOut _ _ _

theorem serve_valid {node : ServiceNode} {idSpace : IdSpace} {handedOut : Nat}
    (valid : node.toEnd.Valid idSpace handedOut) (index : Nat) :
    (node.serve index handedOut).1.toEnd.Valid idSpace (node.serve index handedOut).2 := by
  rw [serve]
  split
  · exact valid
  · rename_i requestId request _
    exact valid.act
      (.respond (node.endpoint.processSinglePrebufferedRequest requestId request) serviceChunkSize)

end ServiceNode

end Counting

theorem ServiceNode.call_valid {node : ServiceNode} {idSpace : IdSpace} {handedOut : Nat}
    (valid : node.toEnd.Valid idSpace handedOut) (methodId : UInt64) (encodedArgs : List UInt8) :
    (node.call methodId encodedArgs handedOut).1.toEnd.Valid idSpace
      (node.call methodId encodedArgs handedOut).2 :=
  valid.act (.call (prebufferedRequest methodId encodedArgs) serviceChunkSize
    (some (.response node.made.length)) false)

/-- The method and the arguments of a call of this end. -/
def PeerStep.called (side : Side) : PeerStep → Option (UInt64 × List UInt8)
  | .call caller methodId encodedArgs =>
      if caller = side then some (methodId, encodedArgs) else none
  | _ => none

/-- The method and the arguments of a call. -/
def ServiceStep.called : ServiceStep → Option (UInt64 × List UInt8)
  | .call methodId encodedArgs => some (methodId, encodedArgs)
  | _ => none

theorem ServiceStep.called_client (step : ServiceStep) :
    step.toPeer.called .client = step.called := by
  cases step <;> rfl

theorem ServiceStep.called_server (step : ServiceStep) : step.toPeer.called .server = none := by
  cases step <;> rfl

/-- A read draws no ids. -/
theorem ServiceNode.valid_of_read {node : ServiceNode} {idSpace : IdSpace} {handedOut : Nat}
    (valid : node.toEnd.Valid idSpace handedOut) {state : EndpointState Nat} {bytes : List UInt8}
    {queue : RequestQueue}
    (dispatcherEq : state.dispatcher =
      { (node.endpoint.installRouter node.state).dispatcher.afterEvents
          (node.state.dispatcher.session.decodeBytes bytes).2.2
          (node.state.dispatcher.session.decodeBytes bytes).1 with
        rpcRequestQueue := queue }) :
    (⟨state.dispatcher, node.link, node.nextDraw, node.calls⟩ :
      ConnectionEnd (EndpointHandler Nat)).Valid idSpace handedOut := by
  apply valid.of_dispatcher
  · obtain ⟨streamDraw, -, draws, -, -⟩ := valid.streams
    rw [dispatcherEq]
    exact (node.endpoint.installRouter_nextDraws node.state draws).2
  · intro streamDraw draws
    have read := (node.endpoint.installRouter_nextDraws node.state draws).1.readBytes bytes
    rw [RpcDispatcher.readBytes_eq, node.endpoint.installRouter_session] at read
    rw [dispatcherEq]
    exact ⟨read.request, read.stream, read.space⟩

namespace PrebufferedService

variable {service : PrebufferedService} {idSpace : Side → IdSpace}

@[simp]
theorem change_node (service : PrebufferedService) (side : Side) (changed : ServiceNode × Nat) :
    (service.change side changed).node side = changed.1 := by
  cases side <;> rfl

@[simp]
theorem change_node_peer (service : PrebufferedService) (side : Side)
    (changed : ServiceNode × Nat) :
    (service.change side changed).node side.peer = service.node side.peer := by
  cases side <;> rfl

theorem change_oneCounter (service : PrebufferedService) (side : Side)
    (changed : ServiceNode × Nat) : (service.change side changed).toConnection.OneCounter := by
  intro shared
  have sameProcess : service.toConnection.sharedCounter = true := by
    cases side <;> exact shared
  show service.toConnection.advance side changed.2 .client =
    service.toConnection.advance side changed.2 .server
  rw [Connection.advance, if_pos sameProcess]

/-- The ids of both ends come from their counters. -/
structure Valid (service : PrebufferedService) (idSpace : Side → IdSpace) : Prop where
  oneCounter : service.toConnection.OneCounter
  ends : ∀ side, (service.node side).toEnd.Valid (idSpace side) (service.handedOut side)

namespace Valid

theorem change (valid : service.Valid idSpace) {side : Side} {changed : ServiceNode × Nat}
    (changedValid : changed.1.toEnd.Valid (idSpace side) changed.2)
    (grows : service.handedOut side ≤ changed.2) : (service.change side changed).Valid idSpace where
  oneCounter := service.change_oneCounter side changed
  ends other := by
    by_cases same : other = side
    · subst same
      rw [change_node]
      show changed.1.toEnd.Valid (idSpace other)
        (service.toConnection.advance other changed.2 other)
      rw [Connection.advance_self]
      exact changedValid
    · rw [Side.eq_peer_of_ne same, change_node_peer]
      exact (valid.ends side.peer).grow (valid.oneCounter.le_advance grows side.peer)

end Valid

/-- The peer of an end has read a piece of what the end has sent. -/
theorem Valid.deliver (valid : service.Valid idSpace) (side : Side) (count : Nat) :
    (service.setNode { service.node side with link := (service.node side).link.deliver count }
      side).Valid idSpace where
  oneCounter := by
    cases side <;> exact valid.oneCounter
  ends other := by
    have sent : (⟨(service.node side).state.dispatcher, (service.node side).link.deliver count,
        (service.node side).nextDraw, (service.node side).calls⟩ :
        ConnectionEnd (EndpointHandler Nat)).Valid (idSpace side) (service.handedOut side) := by
      have before := valid.ends side
      exact ⟨before.space, before.requests, before.requestIds, before.streams,
        fun few => (before.sound few).deliver count, before.headers⟩
    cases side with
    | client =>
        cases other with
        | client => exact sent
        | server => exact valid.ends .server
    | server =>
        cases other with
        | client => exact valid.ends .client
        | server => exact sent

theorem peerStep_oneCounter (service : PrebufferedService) (step : PeerStep) :
    (service.peerStep step).toConnection.OneCounter := by
  cases step <;> exact change_oneCounter _ _ _

theorem le_peerStep (oneCounter : service.toConnection.OneCounter) (step : PeerStep)
    (side : Side) : service.handedOut side ≤ (service.peerStep step).handedOut side := by
  cases step with
  | call caller methodId encodedArgs =>
      exact oneCounter.le_advance (ConnectionEnd.act_handedOut _ _ _) side
  | send actor streamId => exact oneCounter.le_advance (ConnectionEnd.act_handedOut _ _ _) side
  | read reader count =>
      have grows := (service.node reader).le_read ((service.node reader.peer).link.chunk count)
        (service.handedOut reader)
      cases reader <;> exact oneCounter.le_advance grows side
  | serve actor index => exact oneCounter.le_advance (ServiceNode.le_serve _ _ _) side
  | draw actor => exact oneCounter.le_advance (ConnectionEnd.act_handedOut _ _ _) side

theorem le_peerRun (oneCounter : service.toConnection.OneCounter) (steps : List PeerStep)
    (side : Side) : service.handedOut side ≤ (service.peerRun steps).handedOut side := by
  induction steps generalizing service with
  | nil => exact Nat.le_refl _
  | cons first rest ih =>
      exact (le_peerStep oneCounter first side).trans (ih (peerStep_oneCounter service first))

theorem le_run (oneCounter : service.toConnection.OneCounter) (steps : List ServiceStep)
    (side : Side) : service.handedOut side ≤ (service.run steps).handedOut side := by
  rw [run_eq_peerRun]
  exact le_peerRun oneCounter _ side

theorem peerStep_endpoint (service : PrebufferedService) (step : PeerStep) (side : Side) :
    ((service.peerStep step).node side).endpoint = (service.node side).endpoint := by
  cases step with
  | call caller methodId encodedArgs => cases caller <;> cases side <;> rfl
  | send actor streamId => cases actor <;> cases side <;> rfl
  | read actor count => cases actor <;> cases side <;> rfl
  | serve actor index =>
      cases actor <;> cases side <;> first | rfl | exact (ServiceNode.serve_keeps _ _ _).1
  | draw actor => cases actor <;> cases side <;> rfl

theorem made_peerStep (service : PrebufferedService) (step : PeerStep) (side : Side) :
    (((service.peerStep step).node side).made.map fun call => (call.methodId, call.encodedArgs)) =
      ((service.node side).made.map fun call => (call.methodId, call.encodedArgs)) ++
        (step.called side).toList := by
  cases step with
  | call caller methodId encodedArgs =>
      cases caller <;> cases side <;>
        simp [peerStep, change, setNode, node, ServiceNode.call, PeerStep.called]
  | send actor streamId => cases actor <;> cases side <;> exact (List.append_nil _).symm
  | read actor count => cases actor <;> cases side <;> exact (List.append_nil _).symm
  | serve actor index =>
      have sameMade : ((service.peerStep (.serve actor index)).node side).made =
          (service.node side).made := by
        cases actor <;> cases side <;> first | rfl | exact (ServiceNode.serve_keeps _ _ _).2.1
      rw [sameMade]
      exact (List.append_nil _).symm
  | draw actor => cases actor <;> cases side <;> exact (List.append_nil _).symm

/-- The calls of an end are those its steps make, in their order. -/
theorem made_peerRun (service : PrebufferedService) (steps : List PeerStep) (side : Side) :
    (((service.peerRun steps).node side).made.map fun call => (call.methodId, call.encodedArgs)) =
      ((service.node side).made.map fun call => (call.methodId, call.encodedArgs)) ++
        steps.filterMap (PeerStep.called side) := by
  induction steps generalizing service with
  | nil => exact (List.append_nil _).symm
  | cons first rest ih =>
      have later : (((service.peerRun (first :: rest)).node side).made.map fun call =>
          (call.methodId, call.encodedArgs)) = _ := ih (service.peerStep first)
      rw [later, made_peerStep, List.append_assoc, List.filterMap_cons]
      cases first.called side <;> rfl

/-- The calls of a service are those its steps make. -/
theorem made_run (service : PrebufferedService) (steps : List ServiceStep) :
    ((service.run steps).client.made.map fun call => (call.methodId, call.encodedArgs)) =
      (service.client.made.map fun call => (call.methodId, call.encodedArgs)) ++
        steps.filterMap ServiceStep.called := by
  have made := service.made_peerRun (steps.map ServiceStep.toPeer) .client
  rw [← run_eq_peerRun, List.filterMap_map] at made
  rw [← funext ServiceStep.called_client]
  exact made

end PrebufferedService

end Muxio.Service
