import Muxio.Service.Exchanges
import Muxio.Service.StreamedResponses

/-!
# Results of prebuffered calls

What a call returns is a function of the events that its response handler has heard, and
these are the events of a response that the other end has sent.  So a call returns what
the outcome of its handler means to a caller: the decoded output, the error that a failure
of the handler is turned into, or that there is no such method.
-/

namespace Muxio.Service

open Std
open Muxio.Encoding
open Muxio.Framing
open Muxio.Rpc
open Muxio.Transition

universe u

/-! ## What a caller makes of events -/

section Results

variable {T : Type u} (decode : List UInt8 → Except IoError T)

/-- What `RpcCallPrebuffered::call` has returned when its response handler has heard
these events.  The call signals readiness itself before it reads the channel. -/
def callResult (events : List RpcStreamEvent) : Option (Except RpcServiceError T) :=
  let response := events.foldl ResponseState.recvFn
    ((ResponseState.new .unbounded).signalReady (.ok ()))
  match response.returned with
  | .error error => some (.error error)
  | .ok _ =>
      (callRpcBuffered decode response.channel.senderHeld [] response.channel.items).map
        unpackResult

/-- The result of a call to which this response was sent. -/
def responseResult (header : RpcHeader) (payload : List UInt8) : Except RpcServiceError T :=
  match finalError payload (some (responseStatus header)) with
  | some error => .error (.rpc error)
  | none => unpackResult (.ok (decode payload))

/-- Chunks alone are gathered until the channel closes. -/
theorem callRpcBuffered_chunks {S : Type u} (decode : List UInt8 → S) (senderHeld : Bool)
    (successBuf : List UInt8) (chunks : List (List UInt8)) :
    callRpcBuffered decode senderHeld successBuf (chunks.map .ok) =
      if senderHeld then none else some (.ok (decode (successBuf ++ chunks.flatten))) := by
  induction chunks generalizing successBuf with
  | nil => simp [callRpcBuffered]
  | cons chunk rest ih => simp [callRpcBuffered, ih]

/-- A response that has not ended. -/
structure ResponseState.Waiting (state : ResponseState) : Prop where
  kind : state.channel.kind = .unbounded
  senderHeld : state.channel.senderHeld = true
  chunks : ∃ chunks : List (List UInt8), state.channel.items = chunks.map .ok
  ready : state.ready = some (.ok ())

theorem ResponseState.Waiting.recvFn {state : ResponseState} (waiting : state.Waiting)
    {event : RpcStreamEvent} (notEnd : event.isEnd = false) (noError : event.isError = false) :
    (state.recvFn event).Waiting := by
  obtain ⟨isUnbounded, held, ⟨chunks, itemsEq⟩, isReady⟩ := waiting
  cases event with
  | header rpcRequestId rpcMethodId rpcHeader =>
      exact ⟨isUnbounded, held, ⟨chunks, itemsEq⟩, by
        simp [ResponseState.recvFn, ResponseState.signalReady, isReady]⟩
  | payloadChunk rpcHeader rpcRequestId rpcMethodId bytes =>
      rw [ResponseState.recvFn]
      split
      · refine ⟨?_, ?_, ⟨chunks ++ [bytes], ?_⟩, ?_⟩ <;>
          simp [ResponseState.send, held, DynamicChannel.sendAndIgnore, isUnbounded, itemsEq,
            DynamicChannelType.capacity, Fifo.push, Fifo.fits, isReady]
      · exact ⟨isUnbounded, held, ⟨chunks, itemsEq⟩, isReady⟩
  | «end» rpcHeader rpcRequestId rpcMethodId => contradiction
  | error rpcHeader rpcRequestId rpcMethodId frameDecodeError => contradiction

theorem ResponseState.Waiting.foldl_recvFn {state : ResponseState} (waiting : state.Waiting)
    {events : List RpcStreamEvent}
    (goesOn : ∀ event ∈ events, event.isEnd = false ∧ event.isError = false) :
    (events.foldl ResponseState.recvFn state).Waiting := by
  induction events generalizing state with
  | nil => exact waiting
  | cons event rest ih =>
      rcases goesOn event List.mem_cons_self with ⟨notEnd, noError⟩
      exact ih (waiting.recvFn notEnd noError)
        fun other member => goesOn other (List.mem_cons_of_mem _ member)

/-- A call waits from the start. -/
theorem ResponseState.waiting_start :
    ((ResponseState.new .unbounded).signalReady (.ok ())).Waiting :=
  ⟨rfl, rfl, ⟨[], rfl⟩, rfl⟩

/-- Without an end there is no result. -/
theorem callResult_unended {events : List RpcStreamEvent}
    (goesOn : ∀ event ∈ events, event.isEnd = false ∧ event.isError = false) :
    callResult decode events = none := by
  rcases ResponseState.waiting_start.foldl_recvFn goesOn with
    ⟨-, held, ⟨chunks, itemsEq⟩, isReady⟩
  simp only [callResult, ResponseState.returned, isReady, itemsEq, callRpcBuffered_chunks, held,
    if_true, Option.map_none]

/-- The text of a failed response is kept until its end. -/
theorem foldl_recvFn_errors {header : RpcHeader} {status : RpcResultStatus}
    (failed : status ≠ .success) (chunks : List (List UInt8)) (channel : DynamicChannel)
    (errorBuffer : List UInt8) (ready : Option (Except IoError Unit)) :
    (chunks.map header.chunkEvent).foldl ResponseState.recvFn
        ⟨channel, some status, errorBuffer, ready⟩ =
      ⟨channel, some status, errorBuffer ++ chunks.flatten, ready⟩ := by
  induction chunks generalizing errorBuffer with
  | nil => simp
  | cons chunk rest ih =>
      have kept : ResponseState.recvFn ⟨channel, some status, errorBuffer, ready⟩
          (header.chunkEvent chunk) =
            ⟨channel, some status, errorBuffer ++ chunk, ready⟩ := by
        cases status with
        | success => contradiction
        | fail => rfl
        | systemError => rfl
        | methodNotFound => rfl
      rw [List.map_cons, List.foldl_cons, kept, ih, List.flatten_cons, List.append_assoc]

/-- The result of a call comes from its response. -/
theorem callResult_response (header : RpcHeader) (chunks : List (List UInt8)) :
    callResult decode (header.streamEvents chunks) =
      some (responseResult decode header chunks.flatten) := by
  have announced : ResponseState.recvFn
      ((ResponseState.new .unbounded).signalReady (.ok ())) header.headerEvent =
        ⟨⟨.unbounded, [], true⟩, some (responseStatus header), [], some (.ok ())⟩ := rfl
  simp only [callResult, RpcHeader.streamEvents, List.cons_append, List.foldl_cons,
    List.foldl_append, announced]
  cases status : responseStatus header with
  | success =>
      rw [foldl_recvFn_chunks]
      simp [responseResult, status, finalError, ResponseState.recvFn, RpcHeader.endEvent,
        DynamicChannel.close, ResponseState.returned, callRpcBuffered_chunks]
  | fail =>
      rw [foldl_recvFn_errors (by decide), responseResult, status]
      rfl
  | systemError =>
      rw [foldl_recvFn_errors (by decide), responseResult, status]
      rfl
  | methodNotFound =>
      rw [foldl_recvFn_errors (by decide), responseResult, status]
      rfl

end Results

/-- What the call of this number at an end has returned. -/
def ServiceNode.result {T : Type u} (node : ServiceNode) (decode : List UInt8 → Except IoError T)
    (index : Nat) : Option (Except RpcServiceError T) :=
  callResult decode (heard (.response index) node.log)

/-! ## What a handler makes of a request -/

/-- The handler of a request gets the payload of its message, or the metadata if there is
no payload. -/
theorem argsForHandler_gathered (header : RpcHeader) (payload : List UInt8) :
    RpcServiceEndpoint.argsForHandler (header.gathered payload) =
      if payload.isEmpty then header.rpcMetadataBytes else payload := by
  unfold RpcServiceEndpoint.argsForHandler RpcHeader.gathered
  cases payload with
  | cons byte rest => rfl
  | nil => cases header.rpcMetadataBytes <;> rfl

/-- The arguments of a call are what its handler gets. -/
theorem argsForHandler_received (call : PrebufferedCall) :
    RpcServiceEndpoint.argsForHandler call.received = call.encodedArgs := by
  rw [PrebufferedCall.received, argsForHandler_gathered, PrebufferedCall.header,
    PrebufferedCall.request, prebufferedRequest]
  by_cases long : call.encodedArgs.length ≥ defaultServiceMaxChunkSize
  · have nonempty : call.encodedArgs.isEmpty = false := by
      rw [List.isEmpty_eq_false_iff, ← List.length_pos_iff]
      exact Nat.lt_of_lt_of_le (by decide) long
    simp [long, nonempty]
  · simp [long]

/-- What a registered handler's result is sent as. -/
theorem response_received {node : ServiceNode} {call : PrebufferedCall}
    {handler : PrebufferedHandler}
    (registered : node.endpoint.prebufferedHandlers[call.methodId]? = some handler) :
    node.response (call.rpcRequestId, call.received) =
      match handler call.encodedArgs with
      | .ok encoded =>
          ⟨call.rpcRequestId, call.methodId, some RpcResultStatus.success.toUInt8, some encoded,
            true⟩
      | .error (.structured payload) =>
          ⟨call.rpcRequestId, call.methodId, some payload.code.status.toUInt8,
            some (node.endpoint.encodeError payload), true⟩
      | .error (.other text) =>
          ⟨call.rpcRequestId, call.methodId, some RpcResultStatus.systemError.toUInt8,
            some (utf8Bytes text), true⟩ := by
  have sameMethod : call.received.rpcMethodId = call.methodId := rfl
  cases outcome : handler call.encodedArgs with
  | ok encoded =>
      simp only [ServiceNode.response, RpcServiceEndpoint.processSinglePrebufferedRequest,
        sameMethod, registered, argsForHandler_received, outcome]
  | error error =>
      cases error with
      | structured payload =>
          simp only [ServiceNode.response, RpcServiceEndpoint.processSinglePrebufferedRequest,
            sameMethod, registered, argsForHandler_received, outcome]
      | other text =>
          simp only [ServiceNode.response, RpcServiceEndpoint.processSinglePrebufferedRequest,
            sameMethod, registered, argsForHandler_received, outcome]

/-- The status of a response decides what the caller makes of its payload. -/
theorem responseResult_status {T : Type u}
    (decode : List UInt8 → Except IoError T) {response : RpcResponse} {status : RpcResultStatus}
    (isStatus : response.rpcResultStatus = some status.toUInt8) (payload : List UInt8) :
    responseResult decode (RpcDispatcher.responseHeader response) payload =
      match finalError payload (some status) with
      | some error => .error (.rpc error)
      | none => unpackResult (.ok (decode payload)) := by
  have sameStatus : responseStatus (RpcDispatcher.responseHeader response) = status := by
    simp [responseStatus, RpcDispatcher.responseHeader, isStatus]
  rw [responseResult, sameStatus]

/-! ## Outcomes -/

/-- The message that the caller takes from a failed response with this payload. -/
def callerMessage (payload : List UInt8) : RpcServiceErrorCode → String
  | .fail => ""
  | .system =>
      if fromUtf8Lossy payload = "" then "RPC failed with status: Some(SystemError)"
      else fromUtf8Lossy payload
  | .notFound =>
      if fromUtf8Lossy payload = "" then "RPC method not found: Some(MethodNotFound)"
      else fromUtf8Lossy payload

theorem finalError_status (payload : List UInt8) (code : RpcServiceErrorCode) :
    finalError payload (some code.status) = some ⟨code, callerMessage payload code⟩ := by
  cases code <;> rfl

/-- What a caller gets from a method with these arguments: the decoded output, the
error that the failure of the handler is turned into, or that there is no such method. -/
def RpcServiceEndpoint.outcome {T : Type u} (endpoint : RpcServiceEndpoint)
    (decodeResponse : UInt64 → List UInt8 → Except IoError T)
    (methodId : UInt64) (args : List UInt8) : Except RpcServiceError T :=
  match endpoint.prebufferedHandlers[methodId]? with
  | none => .error (.rpc ⟨.notFound, callerMessage [] .notFound⟩)
  | some handler =>
      match handler args with
      | .ok encoded => unpackResult (.ok (decodeResponse methodId encoded))
      | .error (.structured payload) =>
          .error (.rpc ⟨payload.code,
            callerMessage (endpoint.encodeError payload) payload.code⟩)
      | .error (.other text) =>
          .error (.rpc ⟨.system,
            if text = "" then "RPC failed with status: Some(SystemError)" else text⟩)

/-- The response to a call carries its outcome. -/
theorem responseResult_outcome {T : Type u}
    (decodeResponse : UInt64 → List UInt8 → Except IoError T) (node : ServiceNode)
    (call : PrebufferedCall) :
    let response := node.response (call.rpcRequestId, call.received)
    responseResult (decodeResponse call.methodId)
        (RpcDispatcher.responseHeader response) (response.rpcPrebufferedPayloadBytes.getD []) =
      node.endpoint.outcome decodeResponse call.methodId call.encodedArgs := by
  intro response
  unfold RpcServiceEndpoint.outcome
  cases registered : node.endpoint.prebufferedHandlers[call.methodId]? with
  | none =>
      have isResponse : response = ⟨call.rpcRequestId, call.methodId,
          some RpcServiceErrorCode.notFound.status.toUInt8, none, true⟩ := by
        have sameMethod : call.received.rpcMethodId = call.methodId := rfl
        simp only [response, ServiceNode.response,
          RpcServiceEndpoint.processSinglePrebufferedRequest, sameMethod, registered]
        rfl
      rw [responseResult_status _ (congrArg RpcResponse.rpcResultStatus isResponse),
        isResponse, finalError_status]
      rfl
  | some handler =>
      have isResponse : response = _ := response_received registered
      dsimp only
      cases ran : handler call.encodedArgs with
      | ok encoded =>
          rw [ran] at isResponse
          rw [responseResult_status _
            (congrArg RpcResponse.rpcResultStatus isResponse), isResponse]
          rfl
      | error error =>
          rw [ran] at isResponse
          cases error with
          | structured payload =>
              rw [responseResult_status _
                (congrArg RpcResponse.rpcResultStatus isResponse), isResponse, finalError_status]
              rfl
          | other text =>
              have isStatus : response.rpcResultStatus =
                  some RpcServiceErrorCode.system.status.toUInt8 :=
                congrArg RpcResponse.rpcResultStatus isResponse
              rw [responseResult_status _ isStatus, isResponse, finalError_status, Option.getD_some,
                callerMessage, fromUtf8Lossy_utf8Bytes]

end Muxio.Service
