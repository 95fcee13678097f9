import Muxio.Encoding.Utf8
import Muxio.Rpc.Gathering

/-!
# The service endpoint

`RpcServiceEndpoint` serves the calls that arrive at one end of a connection.  A
read decodes bytes, runs the prebuffered handlers of the requests that are now
complete, and sends their responses.  Streaming handlers are installed by a
router while the bytes are decoded and answer through stream responders.

Handlers are functions: a prebuffered handler from argument bytes to its result,
a streaming handler from an event to the chunks it passes to its responder.
-/

namespace Muxio.Service

open Std
open Muxio.Encoding
open Muxio.Framing
open Muxio.Rpc

universe u

/-- `DEFAULT_SERVICE_MAX_CHUNK_SIZE`. -/
def defaultServiceMaxChunkSize : Nat := 1024 * 64

/-! ## Results and errors -/

inductive RpcResultStatus where
  | success
  | fail
  | systemError
  | methodNotFound
  deriving DecidableEq, Repr

namespace RpcResultStatus

def toUInt8 : RpcResultStatus → UInt8
  | success => 0
  | fail => 1
  | systemError => 2
  | methodNotFound => 3

def tryFrom (byte : UInt8) : Option RpcResultStatus :=
  if byte = 0 then some success
  else if byte = 1 then some fail
  else if byte = 2 then some systemError
  else if byte = 3 then some methodNotFound
  else none

@[simp]
theorem tryFrom_toUInt8 (status : RpcResultStatus) : tryFrom status.toUInt8 = some status := by
  cases status <;> decide

end RpcResultStatus

inductive RpcServiceErrorCode where
  | fail
  | system
  | notFound
  deriving DecidableEq, Repr

/-- The wire status of an error code. -/
def RpcServiceErrorCode.status : RpcServiceErrorCode → RpcResultStatus
  | fail => .fail
  | system => .systemError
  | notFound => .methodNotFound

structure RpcServiceErrorPayload where
  code : RpcServiceErrorCode
  message : String
  deriving DecidableEq, Repr

/-- The error of a prebuffered handler: the structured one, or any other with its
text. -/
inductive HandlerError where
  | structured (payload : RpcServiceErrorPayload)
  | other (text : String)
  deriving DecidableEq, Repr

inductive RpcServiceEndpointError where
  | decode (error : FrameDecodeError)
  | encode (error : FrameEncodeError)
  | handler (message : String)
  deriving DecidableEq, Repr

/-! ## Stream responders -/

/-- What a streaming handler answers through.  Until the writer is installed,
chunks are buffered. -/
structure StreamResponder where
  requestId : UInt32
  writer : Option RpcStreamEncoder
  buffer : List (List UInt8 × Bool)

namespace StreamResponder

def new (requestId : UInt32) : StreamResponder := ⟨requestId, none, []⟩

/-- Send a chunk, or keep it until there is a writer. -/
def respond (responder : StreamResponder) (chunk : List UInt8) (isFinalized : Bool) :
    List Frame × StreamResponder :=
  match responder.writer with
  | some encoder =>
      let written := RpcDispatcher.writeResponse encoder chunk isFinalized
      (written.1, { responder with writer := some written.2 })
  | none => ([], { responder with buffer := responder.buffer ++ [(chunk, isFinalized)] })

/-- Several chunks in turn. -/
def respondAll (responder : StreamResponder) :
    List (List UInt8 × Bool) → List Frame × StreamResponder
  | [] => ([], responder)
  | (chunk, isFinalized) :: rest =>
      let first := responder.respond chunk isFinalized
      let later := first.2.respondAll rest
      (first.1 ++ later.1, later.2)

/-- Install the writer and send what has been buffered. -/
def setWriter (responder : StreamResponder) (encoder : RpcStreamEncoder) :
    List Frame × StreamResponder :=
  respondAll { responder with writer := some encoder, buffer := [] } responder.buffer

/-! ### Whose responder it is -/

theorem respondAll_requestId (responder : StreamResponder) (chunks : List (List UInt8 × Bool)) :
    (responder.respondAll chunks).2.requestId = responder.requestId := by
  induction chunks generalizing responder with
  | nil => rfl
  | cons chunk rest ih =>
      have kept : (responder.respond chunk.1 chunk.2).2.requestId = responder.requestId := by
        unfold respond
        cases responder.writer <;> rfl
      exact (ih _).trans kept

theorem setWriter_requestId (responder : StreamResponder) (encoder : RpcStreamEncoder) :
    (responder.setWriter encoder).2.requestId = responder.requestId :=
  respondAll_requestId _ _

theorem modify_requestId (made : List StreamResponder) (index : Nat)
    {change : StreamResponder → StreamResponder}
    (same : ∀ responder, (change responder).requestId = responder.requestId) :
    (made.modify index change).map requestId = made.map requestId := by
  apply List.ext_getElem?
  intro other
  rw [List.getElem?_map, List.getElem?_modify, List.getElem?_map]
  cases made[other]? with
  | none => rfl
  | some responder =>
      by_cases here : index = other
      · simp [here, same]
      · simp [here]

end StreamResponder

/-! ## The endpoint and its end of the connection -/

abbrev PrebufferedHandler := List UInt8 → Except HandlerError (List UInt8)

abbrev StreamHandler := RpcStreamEvent → List (List UInt8 × Bool)

structure RpcServiceEndpoint where
  prebufferedHandlers : ExtTreeMap UInt64 PrebufferedHandler compare
  streamHandlers : ExtTreeMap UInt64 StreamHandler compare
  /-- The serialization of structured errors, `bitcode::encode`. -/
  encodeError : RpcServiceErrorPayload → List UInt8

/-- What a dispatcher with an endpoint stores per request: the response handler
of a local call, or the streaming handler of a method. -/
inductive EndpointHandler (R : Type u) where
  | response (handler : R)
  | stream (rpcMethodId : UInt64)
  deriving DecidableEq, Repr

/-- The responders that streaming handlers hold, and which of them belongs to the
handler stored for a request. -/
structure Responders where
  made : List StreamResponder
  current : ExtTreeMap UInt32 Nat compare
  /-- A stored handler answers its own request. -/
  owned : ∀ (requestId : UInt32) (index : Nat), current[requestId]? = some index →
    (made.map StreamResponder.requestId)[index]? = some requestId

namespace Responders

def new : Responders where
  made := []
  current := ∅
  owned _ _ stored := by
    rw [ExtTreeMap.getElem?_empty] at stored
    contradiction

/-- Let responders change, but not whose they are. -/
def withMade (responders : Responders) (made : List StreamResponder)
    (same : made.map StreamResponder.requestId =
      responders.made.map StreamResponder.requestId) : Responders where
  made := made
  current := responders.current
  owned requestId index stored := same ▸ responders.owned requestId index stored

/-- A new responder is the one of its request. -/
def add (responders : Responders) (requestId : UInt32) : Responders where
  made := responders.made ++ [StreamResponder.new requestId]
  current := responders.current.insert requestId responders.made.length
  owned other index stored := by
    rw [ExtTreeMap.getElem?_insert] at stored
    rw [List.map_append]
    split at stored
    · rename_i same
      obtain rfl := LawfulEqCmp.eq_of_compare same
      obtain rfl := Option.some.inj stored
      rw [List.getElem?_append_right (by simp), List.length_map, Nat.sub_self]
      rfl
    · have earlier := responders.owned other index stored
      obtain ⟨inside, -⟩ := List.getElem?_eq_some_iff.mp earlier
      rw [List.getElem?_append_left inside]
      exact earlier

/-- A streaming handler answers the request whose handler it is. -/
def respond (responders : Responders) (requestId : UInt32) (chunks : List (List UInt8 × Bool)) :
    List Frame × Responders :=
  match responders.current[requestId]? with
  | none => ([], responders)
  | some index =>
      ((responders.made[index]?.map fun responder => (responder.respondAll chunks).1).getD [],
        responders.withMade
          (responders.made.modify index fun responder => (responder.respondAll chunks).2)
          (StreamResponder.modify_requestId _ index fun responder =>
            responder.respondAll_requestId chunks))

/-- What an action of the dispatcher does to the responders: the router makes a
new one, and a streaming handler that is called may answer. -/
def onAction {R : Type u} (streamHandlers : ExtTreeMap UInt64 StreamHandler compare)
    (responders : Responders) : Action (EndpointHandler R) → List Frame × Responders
  | .routed _ requestId _ => ([], responders.add requestId)
  | .invoked (.stream rpcMethodId) event =>
      match streamHandlers[rpcMethodId]?, event.requestId with
      | some handler, some requestId => responders.respond requestId (handler event)
      | _, _ => ([], responders)
  | _ => ([], responders)

def onActions {R : Type u} (streamHandlers : ExtTreeMap UInt64 StreamHandler compare) :
    Responders → List (Action (EndpointHandler R)) → List Frame × Responders
  | responders, [] => ([], responders)
  | responders, action :: rest =>
      let first := responders.onAction streamHandlers action
      let later := onActions streamHandlers first.2 rest
      (first.1 ++ later.1, later.2)

end Responders

def EndpointHandler.isStream {R : Type u} : EndpointHandler R → Bool
  | response _ => false
  | stream _ => true

section Setup

variable {H : Type u}

/-- The part of a dispatcher that is configured rather than driven by traffic. -/
def setup (dispatcher : RpcDispatcher H) : Bool × Option (StreamMethodRouter H) :=
  (dispatcher.rpcRespondableSession.catchAllResponseHandler,
    dispatcher.rpcRespondableSession.streamMethodRouter)

theorem setup_readBytes (dispatcher : RpcDispatcher H) (bytes : List UInt8) :
    setup (dispatcher.readBytes bytes).2.1 = setup dispatcher := by
  rw [RpcDispatcher.readBytes_eq]
  rfl

end Setup

/-- One end of a connection.  Its dispatcher has a catch-all, and the router is
one that an endpoint has installed. -/
structure EndpointState (R : Type u) where
  dispatcher : RpcDispatcher (EndpointHandler R)
  responders : Responders
  catchesAll : (setup dispatcher).1 = true
  routesStreams : ∀ event handler, offered (setup dispatcher).2 event = some handler →
    handler.isStream = true

namespace EndpointState

variable {R : Type u}

/-- A new end of a connection. -/
def new (idSpace : IdSpace) (handedOut : Nat) : EndpointState R × Nat :=
  let made := RpcDispatcher.newWithIdSpace idSpace handedOut
  (⟨made.1, Responders.new, rfl, by
    intro event handler routed
    cases event <;> contradiction⟩, made.2)

/-- Let traffic change the dispatcher. -/
def withDispatcher (state : EndpointState R) (dispatcher : RpcDispatcher (EndpointHandler R))
    (same : setup dispatcher = setup state.dispatcher) (responders : Responders) :
    EndpointState R where
  dispatcher := dispatcher
  responders := responders
  catchesAll := same ▸ state.catchesAll
  routesStreams := same ▸ state.routesStreams

/-- A local call through the same dispatcher. -/
def call (state : EndpointState R) (rpcRequest : RpcRequest) (maxChunkSize : Nat)
    (onResponse : Option R) (prebufferResponse : Bool) (handedOut : Nat) :
    List Frame × EndpointState R × Nat :=
  let opened := state.dispatcher.call rpcRequest maxChunkSize
    (onResponse.map EndpointHandler.response) prebufferResponse handedOut
  (opened.outcome.frames, state.withDispatcher opened.dispatcher rfl state.responders,
    opened.handedOut)

end EndpointState

/-! ## Stage 1: decode -/

/-- Install encoder-backed writers on the responders made by a read. -/
def installWriters {H : Type u} (dispatcher : RpcDispatcher H) (handedOut : Nat) :
    List StreamResponder → List Frame × List StreamResponder × RpcDispatcher H × Nat
  | [] => ([], [], dispatcher, handedOut)
  | responder :: rest =>
      let opened := dispatcher.createResponseWriter responder.requestId defaultServiceMaxChunkSize
        handedOut
      let installed := match opened.outcome.result with
        | .ok _ => responder.setWriter opened.outcome.encoder
        | .error _ => ([], responder)
      let later := installWriters opened.dispatcher opened.handedOut rest
      (opened.outcome.frames ++ installed.1 ++ later.1, installed.2 :: later.2.1, later.2.2)

theorem installWriters_requestIds {H : Type u} (dispatcher : RpcDispatcher H) (handedOut : Nat)
    (responders : List StreamResponder) :
    (installWriters dispatcher handedOut responders).2.1.map StreamResponder.requestId =
      responders.map StreamResponder.requestId := by
  induction responders generalizing dispatcher handedOut with
  | nil => rfl
  | cons responder rest ih =>
      rw [installWriters, List.map_cons, List.map_cons]
      congr 1
      · split
        · exact responder.setWriter_requestId _
        · rfl
      · exact ih _ _

/-- The responders after the writers of the new ones are installed. -/
theorem installed_requestIds {H : Type u} (dispatcher : RpcDispatcher H) (handedOut : Nat)
    (made : List StreamResponder) (earlier : Nat) :
    (made.take earlier ++ (installWriters dispatcher handedOut (made.drop earlier)).2.1).map
        StreamResponder.requestId = made.map StreamResponder.requestId := by
  rw [List.map_append, installWriters_requestIds, ← List.map_append, List.take_append_drop]

/-- Take the requests that are complete out of the queue. -/
def collectFinalized {H : Type u} (dispatcher : RpcDispatcher H) :
    List UInt32 → List (UInt32 × RpcRequest) × RpcDispatcher H
  | [] => ([], dispatcher)
  | id :: rest =>
      if (dispatcher.isRpcRequestFinalized id).getD false then
        match dispatcher.deleteRpcRequest id with
        | (some request, remaining) =>
            let later := collectFinalized remaining rest
            ((id, request) :: later.1, later.2)
        | (none, remaining) => collectFinalized remaining rest
      else
        collectFinalized dispatcher rest

theorem setup_installWriters {H : Type u} (dispatcher : RpcDispatcher H) (handedOut : Nat)
    (responders : List StreamResponder) :
    setup (installWriters dispatcher handedOut responders).2.2.1 = setup dispatcher := by
  induction responders generalizing dispatcher handedOut with
  | nil => rfl
  | cons responder rest ih => exact (ih _ _).trans rfl

theorem setup_collectFinalized {H : Type u} (dispatcher : RpcDispatcher H) (ids : List UInt32) :
    setup (collectFinalized dispatcher ids).2 = setup dispatcher := by
  induction ids generalizing dispatcher with
  | nil => rfl
  | cons id rest ih =>
      rw [collectFinalized]
      split
      · split
        · rename_i request remaining deleted
          have sameSetup : setup remaining = setup dispatcher :=
            (congrArg (fun result => setup result.2) deleted).symm
          exact (ih remaining).trans sameSetup
        · rename_i remaining deleted
          have sameSetup : setup remaining = setup dispatcher :=
            (congrArg (fun result => setup result.2) deleted).symm
          exact (ih remaining).trans sameSetup
      · exact ih dispatcher

/-- What one stage of a read leaves behind, and what it has done. -/
structure Staged (R : Type u) (α : Type) where
  result : Except RpcServiceEndpointError α
  state : EndpointState R
  handedOut : Nat
  /-- What the event callback did while bytes were decoded. -/
  actions : List (Action (EndpointHandler R))
  /-- The frames emitted. -/
  frames : List Frame

namespace RpcServiceEndpoint

variable {R : Type u}

/-- The router that offers the registered streaming handlers. -/
def router (endpoint : RpcServiceEndpoint) : StreamMethodRouter (EndpointHandler R) :=
  fun rpcMethodId _ =>
    if endpoint.streamHandlers.contains rpcMethodId then some (.stream rpcMethodId) else none

/-- Install the router if there is any streaming handler. -/
def installRouter (endpoint : RpcServiceEndpoint) (state : EndpointState R) : EndpointState R :=
  if endpoint.streamHandlers.isEmpty then
    state
  else
    { dispatcher := state.dispatcher.setStreamMethodRouter endpoint.router
      responders := state.responders
      catchesAll := state.catchesAll
      routesStreams := by
        intro event handler routed
        cases event with
        | header rpcRequestId rpcMethodId rpcHeader =>
            have offers : endpoint.router rpcMethodId rpcRequestId = some handler := routed
            unfold router at offers
            split at offers
            · rw [← Option.some.inj offers]
              rfl
            · contradiction
        | _ => contradiction }

/-- Decode bytes, wire up the responders of new streams, and collect the requests
that are complete.  After a decoding error the new responders have no writer. -/
def decodeBytes (endpoint : RpcServiceEndpoint) (state : EndpointState R) (bytes : List UInt8)
    (handedOut : Nat) : Staged R (List (UInt32 × RpcRequest)) :=
  let routed := endpoint.installRouter state
  let read := routed.dispatcher.readBytes bytes
  let answered := routed.responders.onActions endpoint.streamHandlers read.2.2
  have sameSetup := setup_readBytes routed.dispatcher bytes
  match read.1 with
  | .error error =>
      ⟨.error (.decode error), routed.withDispatcher read.2.1 sameSetup answered.2, handedOut,
        read.2.2, answered.1⟩
  | .ok requestIds =>
      let earlier := answered.2.made.take routed.responders.made.length
      let installed := installWriters read.2.1 handedOut
        (answered.2.made.drop routed.responders.made.length)
      let collected := collectFinalized installed.2.2.1 requestIds
      have sameAfter := (setup_collectFinalized installed.2.2.1 requestIds).trans
        ((setup_installWriters _ _ _).trans sameSetup)
      ⟨.ok collected.1,
        routed.withDispatcher collected.2 sameAfter
          (answered.2.withMade (earlier ++ installed.2.1) (installed_requestIds _ _ _ _)),
        installed.2.2.2, read.2.2, answered.1 ++ installed.1⟩

/-! ## Stage 2: run handlers -/

/-- The arguments of a request: its payload, or its parameters if that is empty. -/
def argsForHandler (request : RpcRequest) : List UInt8 :=
  let payload := request.rpcPrebufferedPayloadBytes.getD []
  if payload.isEmpty then request.rpcParamBytes.getD [] else payload

def processSinglePrebufferedRequest (endpoint : RpcServiceEndpoint) (requestId : UInt32)
    (request : RpcRequest) : RpcResponse :=
  let answer (status : RpcResultStatus) (payload : Option (List UInt8)) : RpcResponse :=
    { rpcRequestId := requestId
      rpcMethodId := request.rpcMethodId
      rpcResultStatus := some status.toUInt8
      rpcPrebufferedPayloadBytes := payload
      isFinalized := true }
  match endpoint.prebufferedHandlers[request.rpcMethodId]? with
  | some handler =>
      match handler (argsForHandler request) with
      | .ok encoded => answer .success (some encoded)
      | .error (.structured payload) =>
          answer payload.code.status (some (endpoint.encodeError payload))
      | .error (.other text) => answer .systemError (some (utf8Bytes text))
  | none => answer .methodNotFound none

/-- A response names its request and the method, and is complete. -/
theorem processSinglePrebufferedRequest_spec (endpoint : RpcServiceEndpoint) (requestId : UInt32)
    (request : RpcRequest) :
    let response := endpoint.processSinglePrebufferedRequest requestId request
    response.rpcRequestId = requestId ∧ response.rpcMethodId = request.rpcMethodId ∧
      response.isFinalized = true := by
  unfold processSinglePrebufferedRequest
  dsimp only
  split
  · split <;> exact ⟨rfl, rfl, rfl⟩
  · exact ⟨rfl, rfl, rfl⟩

/-- The call of a prebuffered handler that a request leads to. -/
def invocation (endpoint : RpcServiceEndpoint) (request : RpcRequest) :
    Option (UInt64 × List UInt8) :=
  if endpoint.prebufferedHandlers.contains request.rpcMethodId then
    some (request.rpcMethodId, argsForHandler request)
  else
    none

def runHandlers (endpoint : RpcServiceEndpoint) (requests : List (UInt32 × RpcRequest)) :
    List RpcResponse :=
  requests.map fun (requestId, request) =>
    endpoint.processSinglePrebufferedRequest requestId request

end RpcServiceEndpoint

/-! ## Stage 3: send responses -/

/-- Send responses one after another; errors are ignored. -/
def sendResponses {H : Type u} (dispatcher : RpcDispatcher H) (handedOut : Nat) :
    List RpcResponse → List Frame × RpcDispatcher H × Nat
  | [] => ([], dispatcher, handedOut)
  | response :: rest =>
      let opened := dispatcher.respond response defaultServiceMaxChunkSize handedOut
      let later := sendResponses opened.dispatcher opened.handedOut rest
      (opened.outcome.frames ++ later.1, later.2)

theorem setup_sendResponses {H : Type u} (dispatcher : RpcDispatcher H) (handedOut : Nat)
    (responses : List RpcResponse) :
    setup (sendResponses dispatcher handedOut responses).2.1 = setup dispatcher := by
  induction responses generalizing dispatcher handedOut with
  | nil => rfl
  | cons response rest ih => exact (ih _ _).trans rfl

/-- What a whole read has done. -/
structure EndpointRead (R : Type u) extends Staged R Unit where
  /-- The calls of prebuffered handlers. -/
  invocations : List (UInt64 × List UInt8)
  /-- Their responses. -/
  responses : List RpcResponse

/-- The three stages of a read in a row. -/
def RpcServiceEndpoint.readBytes {R : Type u} (endpoint : RpcServiceEndpoint)
    (state : EndpointState R) (bytes : List UInt8) (handedOut : Nat) : EndpointRead R :=
  let decoded := endpoint.decodeBytes state bytes handedOut
  match decoded.result with
  | .error error =>
      ⟨⟨.error error, decoded.state, decoded.handedOut, decoded.actions, decoded.frames⟩, [], []⟩
  | .ok requests =>
      let responses := endpoint.runHandlers requests
      let sent := sendResponses decoded.state.dispatcher decoded.handedOut responses
      ⟨⟨.ok (), decoded.state.withDispatcher sent.2.1 (setup_sendResponses _ _ _)
            decoded.state.responders,
          sent.2.2, decoded.actions, decoded.frames ++ sent.1⟩,
        requests.filterMap fun (_, request) => endpoint.invocation request, responses⟩

/-! ## Reads that decode -/

namespace RpcServiceEndpoint

variable {R : Type u} (endpoint : RpcServiceEndpoint) (state : EndpointState R)
  (bytes : List UInt8) (handedOut : Nat)

@[simp]
theorem installRouter_session :
    (endpoint.installRouter state).dispatcher.session = state.dispatcher.session := by
  unfold installRouter
  split <;> rfl

@[simp]
theorem installRouter_routing :
    (endpoint.installRouter state).dispatcher.routing = state.dispatcher.routing := by
  unfold installRouter
  split <;> rfl

@[simp]
theorem installRouter_queue :
    (endpoint.installRouter state).dispatcher.rpcRequestQueue =
      state.dispatcher.rpcRequestQueue := by
  unfold installRouter
  split <;> rfl

/-- The first stage after a successful decode. -/
theorem decodeBytes_ok {requestIds : List UInt32}
    (read : ((endpoint.installRouter state).dispatcher.readBytes bytes).1 = .ok requestIds) :
    let routed := endpoint.installRouter state
    let after := routed.dispatcher.readBytes bytes
    let answered := routed.responders.onActions endpoint.streamHandlers after.2.2
    let installed := installWriters after.2.1 handedOut
      (answered.2.made.drop routed.responders.made.length)
    let decoded := endpoint.decodeBytes state bytes handedOut
    decoded.result = .ok (collectFinalized installed.2.2.1 requestIds).1 ∧
      decoded.state.dispatcher = (collectFinalized installed.2.2.1 requestIds).2 ∧
      decoded.handedOut = installed.2.2.2 ∧ decoded.actions = after.2.2 ∧
      decoded.frames = answered.1 ++ installed.1 := by
  intro routed after answered installed decoded
  unfold decoded decodeBytes
  simp only
  split
  · rename_i error failed
    rw [read] at failed
    contradiction
  · rename_i ids succeeded
    rw [read, Except.ok.injEq] at succeeded
    subst succeeded
    exact ⟨rfl, rfl, rfl, rfl, rfl⟩

/-- A whole read after a successful decode. -/
theorem readBytes_ok {requests : List (UInt32 × RpcRequest)}
    (decodes : (endpoint.decodeBytes state bytes handedOut).result = .ok requests) :
    let decoded := endpoint.decodeBytes state bytes handedOut
    let sent := sendResponses decoded.state.dispatcher decoded.handedOut
      (endpoint.runHandlers requests)
    let read := endpoint.readBytes state bytes handedOut
    read.actions = decoded.actions ∧ read.frames = decoded.frames ++ sent.1 ∧
      read.invocations = (requests.filterMap fun (_, request) => endpoint.invocation request) ∧
      read.responses = endpoint.runHandlers requests ∧ read.state.dispatcher = sent.2.1 := by
  intro decoded sent read
  unfold read readBytes
  simp only
  split
  · rename_i error failed
    rw [decodes] at failed
    contradiction
  · rename_i others succeeded
    rw [decodes, Except.ok.injEq] at succeeded
    subst succeeded
    exact ⟨rfl, rfl, rfl, rfl, rfl⟩

end RpcServiceEndpoint

end Muxio.Service
