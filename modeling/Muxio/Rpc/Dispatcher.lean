import Muxio.Rpc.RespondableSession

/-!
# The dispatcher

`RpcDispatcher` is the coordinator of one end of a connection.  It draws request
ids, opens request and response streams, and gathers inbound messages that no
handler takes in a queue of requests, where they wait to be collected once they
are complete.

The catch-all handler of its session is the only writer of that queue, so a read
replays the caught events on it.
-/

namespace Muxio.Rpc

open Std
open Muxio.Framing

universe u

/-- Inbound requests by request id, in order of their headers. -/
abbrev RequestQueue := List (UInt32 × RpcRequest)

namespace RequestQueue

/-- Change the first request with the given id. -/
def update (rpcRequestId : UInt32) (change : RpcRequest → RpcRequest) :
    RequestQueue → RequestQueue
  | [] => []
  | (id, request) :: rest =>
      if id = rpcRequestId then
        (id, change request) :: rest
      else
        (id, request) :: update rpcRequestId change rest

/-- The catch-all handler. -/
def onEvent (queue : RequestQueue) : RpcStreamEvent → RequestQueue
  | .header rpcRequestId _ rpcHeader =>
      let rpcParamBytes :=
        if rpcHeader.rpcMetadataBytes.isEmpty then none else some rpcHeader.rpcMetadataBytes
      queue ++ [(rpcRequestId, ⟨rpcHeader.rpcMethodId, rpcParamBytes, none, false⟩)]
  | .payloadChunk _ rpcRequestId _ bytes =>
      update rpcRequestId (fun request =>
        { request with
          rpcPrebufferedPayloadBytes :=
            some (request.rpcPrebufferedPayloadBytes.getD [] ++ bytes) }) queue
  | .end _ rpcRequestId _ =>
      update rpcRequestId (fun request => { request with isFinalized := true }) queue
  | .error .. => queue

/-- The first request with the given id. -/
def find (queue : RequestQueue) (headerId : UInt32) : Option RpcRequest :=
  (List.find? (fun entry => entry.1 = headerId) queue).map Prod.snd

/-- Remove the first request with the given id. -/
def delete (headerId : UInt32) : RequestQueue → RequestQueue
  | [] => []
  | (id, request) :: rest =>
      if id = headerId then rest else (id, request) :: delete headerId rest

/-- The queue after the actions of a read. -/
def replay {H : Type u} (queue : RequestQueue) : List (Action H) → RequestQueue
  | [] => queue
  | .caught event :: rest => replay (queue.onEvent event) rest
  | _ :: rest => replay queue rest

end RequestQueue

structure RpcDispatcher (H : Type u) where
  rpcRespondableSession : RpcRespondableSession H
  idSpace : IdSpace
  nextRpcRequestId : UInt32
  rpcRequestQueue : RequestQueue

/-- What opening a stream returns and leaves behind. -/
structure Opened (H : Type u) where
  outcome : EncoderOutcome
  dispatcher : RpcDispatcher H
  handedOut : Nat

namespace RpcDispatcher

variable {H : Type u}

/-- A dispatcher for one end of a connection.  The session draws its first
stream id before the first request id is drawn. -/
def newWithIdSpace (idSpace : IdSpace) (handedOut : Nat) : RpcDispatcher H × Nat :=
  let session := RpcRespondableSession.new idSpace handedOut
  let id := incrementU32Id session.2
  (⟨session.1.setCatchAllResponseHandler, idSpace, id.1, []⟩, id.2)

/-- `RpcDispatcher::new` is a client. -/
def new (handedOut : Nat) : RpcDispatcher H × Nat := newWithIdSpace .client handedOut

def setStreamMethodRouter (dispatcher : RpcDispatcher H) (router : StreamMethodRouter H) :
    RpcDispatcher H :=
  { dispatcher with
    rpcRespondableSession := dispatcher.rpcRespondableSession.setStreamMethodRouter router }

/-- The id the next call will use. -/
def callId (dispatcher : RpcDispatcher H) : UInt32 :=
  dispatcher.idSpace.place dispatcher.nextRpcRequestId

/-- The header of a call. -/
def callHeader (dispatcher : RpcDispatcher H) (rpcRequest : RpcRequest) : RpcHeader where
  rpcMsgType := .call
  rpcRequestId := dispatcher.callId
  rpcMethodId := rpcRequest.rpcMethodId
  rpcMetadataBytes := rpcRequest.rpcParamBytes.getD []

/-- Start a call. -/
def call (dispatcher : RpcDispatcher H) (rpcRequest : RpcRequest) (maxChunkSize : Nat)
    (onResponse : Option H) (prebufferResponse : Bool) (handedOut : Nat) : Opened H :=
  let header := dispatcher.callHeader rpcRequest
  let id := incrementU32Id handedOut
  let opened := dispatcher.rpcRespondableSession.initRespondableRequest header maxChunkSize
    onResponse prebufferResponse id.2
  ⟨RpcStreamEncoder.sendPayload opened.1 rpcRequest.rpcPrebufferedPayloadBytes
      rpcRequest.isFinalized,
    { dispatcher with nextRpcRequestId := id.1, rpcRespondableSession := opened.2.1 },
    opened.2.2⟩

/-- The header of a response; its metadata is the result status, if any. -/
def responseHeader (rpcResponse : RpcResponse) : RpcHeader where
  rpcMsgType := .response
  rpcRequestId := rpcResponse.rpcRequestId
  rpcMethodId := rpcResponse.rpcMethodId
  rpcMetadataBytes := match rpcResponse.rpcResultStatus with
    | some rpcResultStatus => [rpcResultStatus]
    | none => []

/-- Answer a request. -/
def respond (dispatcher : RpcDispatcher H) (rpcResponse : RpcResponse)
    (maxChunkSize handedOut : Nat) : Opened H :=
  let opened := dispatcher.rpcRespondableSession.startReplyStream (responseHeader rpcResponse)
    maxChunkSize handedOut
  ⟨RpcStreamEncoder.sendPayload opened.1 rpcResponse.rpcPrebufferedPayloadBytes
      rpcResponse.isFinalized,
    { dispatcher with rpcRespondableSession := opened.2.1 }, opened.2.2⟩

/-- The header of a streaming response: method id `0` and a success status. -/
def writerHeader (requestId : UInt32) : RpcHeader := ⟨.response, requestId, 0, [0]⟩

/-- Open the stream of a response writer. -/
def createResponseWriter (dispatcher : RpcDispatcher H) (requestId : UInt32)
    (maxChunkSize handedOut : Nat) : Opened H :=
  let opened := dispatcher.rpcRespondableSession.startReplyStream (writerHeader requestId)
    maxChunkSize handedOut
  ⟨opened.1, { dispatcher with rpcRespondableSession := opened.2.1 }, opened.2.2⟩

/-- One call of a response writer, which ignores the errors of its encoder. -/
def writeResponse (encoder : RpcStreamEncoder) (chunk : List UInt8) (isFinalized : Bool) :
    List Frame × RpcStreamEncoder :=
  let written := encoder.writeBytes chunk
  let flushed := written.encoder.flush
  if isFinalized then
    let ended := flushed.encoder.endStream
    (written.frames ++ flushed.frames ++ ended.frames, ended.encoder)
  else
    (written.frames ++ flushed.frames, flushed.encoder)

/-- Decode bytes; on success, return the ids of all requests in the queue. -/
def readBytes (dispatcher : RpcDispatcher H) (bytes : List UInt8) :
    Except FrameDecodeError (List UInt32) × RpcDispatcher H × List (Action H) :=
  let read := dispatcher.rpcRespondableSession.readBytes bytes
  let queue := dispatcher.rpcRequestQueue.replay read.2.2
  (read.1.map fun _ => queue.map Prod.fst,
    { dispatcher with rpcRespondableSession := read.2.1, rpcRequestQueue := queue }, read.2.2)

/-- Successive reads; the caller goes on after an error. -/
def readChunks (dispatcher : RpcDispatcher H) :
    List (List UInt8) →
      List (Except FrameDecodeError (List UInt32)) × RpcDispatcher H × List (Action H)
  | [] => ([], dispatcher, [])
  | chunk :: rest =>
      let first := dispatcher.readBytes chunk
      let later := readChunks first.2.1 rest
      (first.1 :: later.1, later.2.1, first.2.2 ++ later.2.2)

def isRpcRequestFinalized (dispatcher : RpcDispatcher H) (headerId : UInt32) : Option Bool :=
  (dispatcher.rpcRequestQueue.find headerId).map RpcRequest.isFinalized

def deleteRpcRequest (dispatcher : RpcDispatcher H) (headerId : UInt32) :
    Option RpcRequest × RpcDispatcher H :=
  (dispatcher.rpcRequestQueue.find headerId,
    { dispatcher with rpcRequestQueue := RequestQueue.delete headerId dispatcher.rpcRequestQueue })

/-- Tell every stored handler that the connection is gone, and drop all state
of requests.  The handlers are called in order of their ids; the source leaves
the order open. -/
def failAllPendingRequests (dispatcher : RpcDispatcher H) (error : FrameDecodeError) :
    RpcDispatcher H × List (Action H) :=
  let session := dispatcher.rpcRespondableSession
  ({ dispatcher with
      rpcRespondableSession := { session with routing := Routing.new }
      rpcRequestQueue := [] },
    session.routing.responseHandlers.toList.map fun (requestId, handler) =>
      .invoked handler (.error none (some requestId) none error))

end RpcDispatcher

/-! ## The queue, one request at a time -/

namespace RequestQueue

/-- The entries of one request. -/
def ofRequest (queue : RequestQueue) (rpcRequestId : UInt32) : RequestQueue :=
  queue.filter fun entry => entry.1 = rpcRequestId

@[simp]
theorem ofRequest_nil (rpcRequestId : UInt32) : ofRequest [] rpcRequestId = [] :=
  rfl

section WithIds

variable (keep : UInt32 → Bool)

/-- The entries with some of the request ids. -/
def withIds (queue : RequestQueue) : RequestQueue := queue.filter fun entry => keep entry.1

theorem update_withIds (id : UInt32) (change : RpcRequest → RpcRequest) (queue : RequestQueue) :
    (update id change queue).withIds keep =
      if keep id then update id change (queue.withIds keep) else queue.withIds keep := by
  unfold withIds
  induction queue with
  | nil => simp [update]
  | cons entry rest ih =>
      rcases entry with ⟨entryId, request⟩
      by_cases here : entryId = id
      · subst here
        cases kept : keep entryId <;> simp [update, kept]
      · cases kept : keep entryId <;> cases selected : keep id <;>
          simp [update, here, kept, ih, selected]

/-- An event changes only the entries of the request it names. -/
theorem onEvent_withIds (queue : RequestQueue) (event : RpcStreamEvent) :
    (queue.onEvent event).withIds keep =
      if event.requestId.any keep then (queue.withIds keep).onEvent event
      else queue.withIds keep := by
  cases event with
  | header rpcRequestId rpcMethodId rpcHeader =>
      cases kept : keep rpcRequestId <;> simp [onEvent, withIds, RpcStreamEvent.requestId, kept]
  | payloadChunk rpcHeader rpcRequestId rpcMethodId bytes =>
      exact update_withIds keep rpcRequestId _ queue
  | «end» rpcHeader rpcRequestId rpcMethodId => exact update_withIds keep rpcRequestId _ queue
  | error rpcHeader rpcRequestId rpcMethodId frameDecodeError => simp [onEvent]

theorem foldl_withIds (queue : RequestQueue) (events : List RpcStreamEvent) :
    (events.foldl onEvent queue).withIds keep =
      (events.filter fun event => event.requestId.any keep).foldl onEvent
        (queue.withIds keep) := by
  induction events generalizing queue with
  | nil => rfl
  | cons event rest ih =>
      rw [List.foldl_cons, ih, onEvent_withIds]
      by_cases kept : event.requestId.any keep = true
      · simp only [kept, if_true, List.filter_cons_of_pos, List.foldl_cons]
      · simp only [kept, List.filter_cons_of_neg, Bool.false_eq_true, if_false, not_false_eq_true]

end WithIds

theorem foldl_onEvent_ofRequest (queue : RequestQueue) (events : List RpcStreamEvent)
    (rpcRequestId : UInt32) :
    (events.foldl onEvent queue).ofRequest rpcRequestId =
      (events.filter fun event => event.requestId = some rpcRequestId).foldl onEvent
        (queue.ofRequest rpcRequestId) := by
  have sameEvents : (events.filter fun event => event.requestId.any (· = rpcRequestId)) =
      events.filter fun event => event.requestId = some rpcRequestId := by
    apply List.filter_congr
    intro event _
    cases event.requestId <;> simp
  rw [← sameEvents]
  exact foldl_withIds (· = rpcRequestId) queue events

theorem replay_append {H : Type u} (queue : RequestQueue) (first second : List (Action H)) :
    queue.replay (first ++ second) = (queue.replay first).replay second := by
  induction first generalizing queue with
  | nil => rfl
  | cons action rest ih =>
      cases action with
      | caught event => exact ih _
      | routed => exact ih _
      | invoked => exact ih _

theorem replay_caught {H : Type u} (queue : RequestQueue) (events : List RpcStreamEvent) :
    queue.replay (events.map (Action.caught (H := H))) = events.foldl onEvent queue := by
  induction events generalizing queue with
  | nil => rfl
  | cons event rest ih => exact ih _

end RequestQueue

/-! ## Reads as functions on events -/

theorem Routing.onEvents_append {H : Type u} (router : Option (StreamMethodRouter H))
    (catchAll : Bool) (routing : Routing H) (first second : List RpcStreamEvent) :
    routing.onEvents router catchAll (first ++ second) =
      (((routing.onEvents router catchAll first).1.onEvents router catchAll second).1,
        (routing.onEvents router catchAll first).2 ++
          ((routing.onEvents router catchAll first).1.onEvents router catchAll second).2) := by
  induction first generalizing routing with
  | nil => rfl
  | cons event rest ih => simp [Routing.onEvents, ih]

namespace RpcDispatcher

variable {H : Type u}

/-- What the events of a read do to the outside. -/
def actionsOf (dispatcher : RpcDispatcher H) (events : List RpcStreamEvent) :
    Routing H × List (Action H) :=
  dispatcher.rpcRespondableSession.routing.onEvents
    dispatcher.rpcRespondableSession.streamMethodRouter
    dispatcher.rpcRespondableSession.catchAllResponseHandler events

/-- The dispatcher after a read that leaves the given session and delivers the
given events. -/
def afterEvents (dispatcher : RpcDispatcher H) (session : RpcSession)
    (events : List RpcStreamEvent) : RpcDispatcher H :=
  { dispatcher with
    rpcRespondableSession :=
      { dispatcher.rpcRespondableSession with
        rpcSession := session
        routing := (dispatcher.actionsOf events).1 }
    rpcRequestQueue := dispatcher.rpcRequestQueue.replay (dispatcher.actionsOf events).2 }

/-- The session that decodes the dispatcher's bytes. -/
def session (dispatcher : RpcDispatcher H) : RpcSession :=
  dispatcher.rpcRespondableSession.rpcSession

theorem readBytes_eq (dispatcher : RpcDispatcher H) (bytes : List UInt8) :
    dispatcher.readBytes bytes =
      ((dispatcher.session.decodeBytes bytes).2.1.map fun _ =>
          (dispatcher.rpcRequestQueue.replay
            (dispatcher.actionsOf (dispatcher.session.decodeBytes bytes).1).2).map Prod.fst,
        dispatcher.afterEvents (dispatcher.session.decodeBytes bytes).2.2
          (dispatcher.session.decodeBytes bytes).1,
        (dispatcher.actionsOf (dispatcher.session.decodeBytes bytes).1).2) := by
  simp only [readBytes, RpcRespondableSession.readBytes_eq]
  rfl

/-- Successive reads perform the actions of all their events in order. -/
theorem readChunks_eq (dispatcher : RpcDispatcher H) (chunks : List (List UInt8)) :
    (dispatcher.readChunks chunks).1.map (Except.map fun _ => ()) =
        (dispatcher.session.decodeChunks chunks).2.1 ∧
      (dispatcher.readChunks chunks).2 =
        (dispatcher.afterEvents (dispatcher.session.decodeChunks chunks).2.2
            (dispatcher.session.decodeChunks chunks).1,
          (dispatcher.actionsOf (dispatcher.session.decodeChunks chunks).1).2) := by
  induction chunks generalizing dispatcher with
  | nil => exact ⟨rfl, rfl⟩
  | cons chunk rest ih =>
      rcases ih (dispatcher.afterEvents (dispatcher.session.decodeBytes chunk).2.2
        (dispatcher.session.decodeBytes chunk).1) with ⟨restResults, restEq⟩
      constructor
      · simp only [readChunks, readBytes_eq, List.map_cons, restResults,
          RpcSession.decodeChunks]
        congr 1
        cases (dispatcher.session.decodeBytes chunk).2.1 <;> rfl
      · simp only [readChunks, readBytes_eq, restEq, RpcSession.decodeChunks]
        simp [actionsOf, afterEvents, session, Routing.onEvents_append,
          RequestQueue.replay_append]

end RpcDispatcher

end Muxio.Rpc
