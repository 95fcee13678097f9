import Muxio.Service.Peers

/-!
# Round trips of prebuffered calls

In a service only the client makes calls.  A handler runs at most once for a call, with
the arguments of the call, and the result of a call comes from the response to it.  Once
everything that was sent has arrived and all handlers have run, each call has been served
once and has its result.

A handler's structured error reaches the caller as a status and the text of its
serialized payload.  The main result about errors says exactly when the caller gets
back the error that the handler returned.
-/

namespace Muxio.Service

open Std
open Muxio.Encoding
open Muxio.Framing
open Muxio.Rpc
open Muxio.Transition

universe u

/-! ## Runs of a service -/

/-- A step whose call, if it is one, is of a method that neither end streams. -/
def ServiceStep.Unstreamed (endpoint : Side → RpcServiceEndpoint) : ServiceStep → Prop
  | .call methodId _ => ∀ side, (endpoint side).streamHandlers.contains methodId = false
  | _ => True

theorem ServiceStep.Unstreamed.allowed {endpoint : Side → RpcServiceEndpoint} {step : ServiceStep}
    (unstreamed : step.Unstreamed endpoint) (idSpace : Side → IdSpace) :
    step.toPeer.Allowed endpoint idSpace := by
  cases step with
  | call methodId encodedArgs => exact ⟨unstreamed, .inr rfl⟩
  | _ => trivial

namespace PrebufferedService

variable {service : PrebufferedService} {endpoint : Side → RpcServiceEndpoint}
  {idSpace : Side → IdSpace}

/-- A conversation in which the server makes no calls. -/
structure Serving (service : PrebufferedService) (endpoint : Side → RpcServiceEndpoint)
    (idSpace : Side → IdSpace) : Prop where
  conversing : service.Conversing endpoint idSpace
  uncalled : service.server.made = []

theorem new_serving (endpoint : Side → RpcServiceEndpoint) (creation : Creation) :
    (new endpoint creation).Serving endpoint creation.idSpace :=
  ⟨new_conversing endpoint creation, rfl⟩

namespace Serving

/-- No request waits at the client. -/
theorem unasked (serving : service.Serving endpoint idSpace) : service.client.waiting = [] := by
  apply List.eq_nil_iff_forall_not_mem.mpr
  intro entry member
  rcases serving.conversing.collected .server entry (List.mem_append_left _ member) with
    ⟨call, callMem, -⟩
  have isMade : call ∈ service.server.made := callMem
  rw [serving.uncalled] at isMade
  contradiction

theorem step (serving : service.Serving endpoint idSpace) {step : ServiceStep}
    (unstreamed : step.Unstreamed endpoint)
    (few : ∀ side, (service.step step).handedOut side ≤ 2 ^ 31) :
    (service.step step).Serving endpoint idSpace where
  conversing := serving.conversing.step (unstreamed.allowed idSpace) few
  uncalled := by
    have made := service.made_peerStep step.toPeer .server
    rw [show (service.node .server).made = [] from serving.uncalled, step.called_server] at made
    exact List.map_eq_nil_iff.mp made

theorem run (serving : service.Serving endpoint idSpace) {steps : List ServiceStep}
    (unstreamed : ∀ step ∈ steps, step.Unstreamed endpoint)
    (few : ∀ side, (service.run steps).handedOut side ≤ 2 ^ 31) :
    (service.run steps).Serving endpoint idSpace := by
  induction steps generalizing service with
  | nil => exact serving
  | cons first rest ih =>
      have next := serving.step (unstreamed first List.mem_cons_self) fun side =>
        (le_run (peerStep_oneCounter service first.toPeer) rest side).trans (few side)
      exact ih next (fun step member => unstreamed step (List.mem_cons_of_mem _ member)) few

end Serving

/-- A call of the client has returned its outcome once the response has ended. -/
theorem Conversing.client_result {T : Type u} (conversing : service.Conversing endpoint idSpace)
    (few : ∀ side, service.handedOut side ≤ 2 ^ 31) {index : Nat} {call : PrebufferedCall}
    (isMade : service.client.made[index]? = some call)
    (decodeResponse : UInt64 → List UInt8 → Except IoError T) :
    service.client.result (decodeResponse call.methodId) index =
      if (heard (.response index) service.client.log).any RpcStreamEvent.isEnd then
        some ((endpoint .server).outcome decodeResponse call.methodId call.encodedArgs)
      else none :=
  conversing.result_eq few .client isMade decodeResponse

/-- The calls of handlers: for which request, of which method, with which arguments. -/
def invocations (service : PrebufferedService) : List (UInt32 × UInt64 × List UInt8) :=
  service.server.served.filterMap fun entry =>
    (service.server.endpoint.invocation entry.2).map (Prod.mk entry.1)

/-- The calls of a run are made by its steps. -/
theorem call_of_made {endpoint : Side → RpcServiceEndpoint} {creation : Creation}
    {steps : List ServiceStep} {call : PrebufferedCall}
    (member : call ∈ ((new endpoint creation).run steps).client.made) :
    .call call.methodId call.encodedArgs ∈ steps := by
  have called : (call.methodId, call.encodedArgs) ∈ steps.filterMap ServiceStep.called := by
    have made := (new endpoint creation).made_run steps
    rw [show (new endpoint creation).client.made = [] from rfl, List.map_nil,
      List.nil_append] at made
    rw [← made]
    exact List.mem_map_of_mem member
  obtain ⟨step, stepMem, stepCalls⟩ := List.mem_filterMap.mp called
  cases step with
  | call methodId encodedArgs =>
      obtain ⟨rfl, rfl⟩ := Prod.mk.inj (Option.some.inj stepCalls)
      exact stepMem
  | _ => contradiction

end PrebufferedService

/-! ## Handlers that succeed -/

/-- The endpoint has this prebuffered handler for the method, and no streaming one. -/
structure RpcServiceEndpoint.Serves (endpoint : RpcServiceEndpoint) (methodId : UInt64)
    (handler : PrebufferedHandler) : Prop where
  prebuffered : endpoint.prebufferedHandlers[methodId]? = some handler
  unstreamed : endpoint.streamHandlers.contains methodId = false

/-- The handler of a call is run with the arguments of the call. -/
theorem invocation_received {endpoint : RpcServiceEndpoint} {call : PrebufferedCall}
    {handler : PrebufferedHandler}
    (registered : endpoint.prebufferedHandlers[call.methodId]? = some handler) :
    endpoint.invocation call.received = some (call.methodId, call.encodedArgs) := by
  have known : endpoint.prebufferedHandlers.contains call.received.rpcMethodId = true := by
    rw [ExtTreeMap.contains_eq_isSome_getElem?]
    exact congrArg Option.isSome registered
  rw [RpcServiceEndpoint.invocation, if_pos known, argsForHandler_received]
  rfl

/-- What a call of a method whose handler succeeds comes to. -/
theorem outcome_of_serves {T : Type u} {endpoint : RpcServiceEndpoint} {methodId : UInt64}
    {handler : List UInt8 → List UInt8}
    (serves : endpoint.Serves methodId fun args => .ok (handler args))
    (decodeResponse : UInt64 → List UInt8 → Except IoError T) (args : List UInt8) :
    endpoint.outcome decodeResponse methodId args =
      unpackResult (.ok (decodeResponse methodId (handler args))) := by
  simp only [RpcServiceEndpoint.outcome, serves.prebuffered]

namespace PrebufferedService

/-- Any number of concurrent prebuffered calls, any interleaving of their frames, any
cut into reads and any order of the handlers: no handler runs more than once for a
call or with other arguments than the call's, and no call returns anything but the
decoded output of its handler.  Once everything that was sent has arrived and the
handlers have run, each handler has run exactly once per call and every call has
returned. -/
theorem prebuffered_round_trip {T : Type u}
    (decodeResponse : UInt64 → List UInt8 → Except IoError T)
    (handle : UInt64 → List UInt8 → List UInt8) (endpoint : Side → RpcServiceEndpoint)
    (creation : Creation) (steps : List ServiceStep)
    (noStreams : (endpoint .client).streamHandlers.isEmpty = true)
    (registered : ∀ methodId encodedArgs, .call methodId encodedArgs ∈ steps →
      (endpoint .server).Serves methodId fun args => .ok (handle methodId args))
    (few : ∀ side, ((new endpoint creation).run steps).handedOut side < 2 ^ 31) :
    let service := (new endpoint creation).run steps
    let calls := service.client.made
    let expected := calls.map fun call => (call.rpcRequestId, call.methodId, call.encodedArgs)
    (calls.map fun call => (call.methodId, call.encodedArgs)) =
        steps.filterMap ServiceStep.called ∧
      (calls.map PrebufferedCall.rpcRequestId).Nodup ∧
      service.invocations.Subperm expected ∧
      (∀ index call result, calls[index]? = some call →
        service.client.result (decodeResponse call.methodId) index = some result →
        result = unpackResult
          (.ok (decodeResponse call.methodId (handle call.methodId call.encodedArgs)))) ∧
      (service.Quiescent → service.invocations.Perm expected ∧
        ∀ index call, calls[index]? = some call →
          service.client.result (decodeResponse call.methodId) index =
            some (unpackResult
              (.ok (decodeResponse call.methodId (handle call.methodId call.encodedArgs))))) := by
  intro service calls expected
  have few' : ∀ side, service.handedOut side ≤ 2 ^ 31 := fun side => (few side).le
  have serving : service.Serving endpoint creation.idSpace := by
    apply (new_serving endpoint creation).run _ few'
    intro step member
    cases step with
    | call methodId encodedArgs =>
        rintro (_ | _)
        · rw [ExtTreeMap.isEmpty_iff.mp noStreams]
          exact ExtTreeMap.contains_empty
        · exact (registered methodId encodedArgs member).unstreamed
    | _ => trivial
  have conversing := serving.conversing
  have serves : ∀ call ∈ calls, (endpoint .server).Serves call.methodId
      fun args => .ok (handle call.methodId args) :=
    fun call member => registered _ _ (call_of_made member)
  have invoked : ((calls.map fun call => (call.rpcRequestId, call.received)).filterMap
      fun entry => (service.server.endpoint.invocation entry.2).map (Prod.mk entry.1)) =
        expected := by
    rw [List.filterMap_map]
    refine (List.filterMap_congr ?_).trans (congrFun List.filterMap_eq_map calls)
    intro call member
    have known : service.server.endpoint.prebufferedHandlers[call.methodId]? = _ :=
      conversing.endpoints .server ▸ (serves call member).prebuffered
    simp only [Function.comp_apply, invocation_received known]
    rfl
  have outcome : ∀ {call : PrebufferedCall}, call ∈ calls →
      (endpoint .server).outcome decodeResponse call.methodId call.encodedArgs = unpackResult
        (.ok (decodeResponse call.methodId (handle call.methodId call.encodedArgs))) :=
    fun member => outcome_of_serves (serves _ member) decodeResponse _
  refine ⟨(new endpoint creation).made_run steps, conversing.made_nodup few' .client, ?_, ?_, ?_⟩
  · obtain ⟨some, perm, sublist⟩ := conversing.served_subperm .client
    exact invoked ▸ ⟨_, perm.filterMap _, sublist.filterMap _⟩
  · intro index call result isMade returned
    have resultEq := conversing.client_result few' isMade decodeResponse
    rw [returned] at resultEq
    split at resultEq
    · rw [Option.some.inj resultEq]
      exact outcome (List.mem_of_getElem? isMade)
    · contradiction
  · intro quiescent
    refine ⟨invoked ▸ (conversing.served_perm .client few' quiescent).filterMap _, ?_⟩
    intro index call isMade
    refine (conversing.result_of_quiescent few' .client isMade decodeResponse
      quiescent).trans ?_
    exact congrArg some (outcome (List.mem_of_getElem? isMade))

/-- A caller without handlers, and a server that reverses the arguments of method 5. -/
def reversing : Side → RpcServiceEndpoint
  | .client => ⟨∅, ∅, fun _ => []⟩
  | .server => ⟨(∅ : ExtTreeMap UInt64 PrebufferedHandler compare).insert 5 fun args =>
      .ok args.reverse, ∅, fun _ => []⟩

theorem reversing_unstreamed (step : ServiceStep) : step.Unstreamed reversing := by
  cases step with
  | call => rintro (_ | _) <;> exact ExtTreeMap.contains_empty
  | _ => trivial

/-- Two calls whose frames are interleaved and cut into reads, served in the other
order. -/
def twoCalls : List ServiceStep :=
  [.call 5 [1, 2, 3], .call 5 [], .send .client 3, .send .client 0, .send .client 0,
    .send .client 3, .read .server 40, .read .server 100, .serve .server 1, .serve .server 0,
    .send .server 2147483648, .send .server 2147483650, .send .server 2147483650,
    .send .server 2147483648, .read .client 40, .read .client 100]

theorem prebuffered_round_trip_of_two :
    let service := (new reversing separateProcesses).run twoCalls
    service.Quiescent ∧
      service.invocations.Perm [(1, 5, [1, 2, 3]), (2, 5, [])] ∧
      service.client.result Except.ok 0 = some (.ok [3, 2, 1]) ∧
      service.client.result Except.ok 1 = some (.ok []) := by
  intro service
  have quiescent : service.Quiescent :=
    { sent := fun side => by cases side <;> decide +kernel
      drained := fun side => by cases side <;> decide +kernel
      handled := fun side => by cases side <;> decide +kernel }
  have registered : ∀ methodId encodedArgs, .call methodId encodedArgs ∈ twoCalls →
      (reversing .server).Serves methodId fun args => .ok args.reverse := by
    intro methodId encodedArgs member
    have isFive : methodId = 5 := by
      simp only [twoCalls, List.mem_cons, ServiceStep.call.injEq, reduceCtorEq, List.not_mem_nil,
        or_false] at member
      rcases member with ⟨rfl, -⟩ | ⟨rfl, -⟩ <;> rfl
    subst isFive
    exact ⟨ExtTreeMap.getElem?_insert_self, rfl⟩
  have whole := (prebuffered_round_trip (fun _ => Except.ok)
    (fun _ args => args.reverse) reversing separateProcesses twoCalls rfl registered
    (fun side => by cases side <;> decide +kernel)).2.2.2.2 quiescent
  have made : service.client.made = [⟨1, 5, [1, 2, 3]⟩, ⟨2, 5, []⟩] := by decide +kernel
  refine ⟨quiescent, ?_, ?_, ?_⟩
  · have perm := whole.1
    rw [made] at perm
    exact perm
  · exact whole.2 0 ⟨1, 5, [1, 2, 3]⟩ (congrArg (·[0]?) made)
  · exact whole.2 1 ⟨2, 5, []⟩ (congrArg (·[1]?) made)

end PrebufferedService

/-! ## Handlers that fail -/

namespace PrebufferedService

/-- A structured error of a handler reaches the caller as it was exactly when it is a
failure without a message, or when its message happens to be the text that the caller
makes of the serialized error. -/
theorem structured_error_survives_iff {T : Type u}
    (decode : List UInt8 → Except IoError T) (endpoint : Side → RpcServiceEndpoint)
    (creation : Creation) (steps : List ServiceStep)
    (unstreamed : ∀ step ∈ steps, step.Unstreamed endpoint)
    (few : ∀ side, ((new endpoint creation).run steps).handedOut side < 2 ^ 31) :
    let service := (new endpoint creation).run steps
    ∀ index call handler payload, service.Quiescent →
      service.client.made[index]? = some call →
      (endpoint .server).prebufferedHandlers[call.methodId]? = some handler →
      handler call.encodedArgs = .error (.structured payload) →
      (service.client.result decode index = some (.error (.rpc payload)) ↔
        payload.message =
          callerMessage ((endpoint .server).encodeError payload) payload.code) := by
  intro service index call handler payload quiescent isMade registered fails
  have few' : ∀ side, service.handedOut side ≤ 2 ^ 31 := fun side => (few side).le
  have conversing := ((new_serving endpoint creation).run unstreamed few').conversing
  have returned : service.client.result decode index = some (.error (.rpc ⟨payload.code,
      callerMessage ((endpoint .server).encodeError payload) payload.code⟩)) := by
    refine (conversing.result_of_quiescent few' .client isMade (fun _ => decode)
      quiescent).trans ?_
    have isServer : endpoint Side.client.peer = endpoint .server := rfl
    simp only [RpcServiceEndpoint.outcome, isServer, registered, fails]
  rw [returned]
  constructor
  · intro same
    exact (congrArg RpcServiceErrorPayload.message
      (RpcServiceError.rpc.inj (Except.error.inj (Option.some.inj same)))).symm
  · intro same
    rw [← same]

/-- A server whose method 5 fails, with a serialization that keeps code and message
apart. -/
def failing (payload : RpcServiceErrorPayload) : Side → RpcServiceEndpoint
  | .client => ⟨∅, ∅, fun _ => []⟩
  | .server => ⟨(∅ : ExtTreeMap UInt64 PrebufferedHandler compare).insert 5 fun _ =>
      .error (.structured payload), ∅,
      fun error => error.code.status.toUInt8 :: utf8Bytes error.message⟩

/-- One call, served and answered. -/
def oneCall : List ServiceStep :=
  [.call 5 [1], .send .client 0, .send .client 0, .read .server 100, .serve .server 0,
    .send .server 2147483648, .send .server 2147483648, .read .client 100]

theorem structured_error_survives_without_message :
    let payload : RpcServiceErrorPayload := ⟨.fail, ""⟩
    ((new (failing payload) separateProcesses).run oneCall).client.result Except.ok 0 =
      some (.error (.rpc payload)) := by
  intro payload
  let service := (new (failing payload) separateProcesses).run oneCall
  have quiescent : service.Quiescent :=
    { sent := fun side => by cases side <;> decide +kernel
      drained := fun side => by cases side <;> decide +kernel
      handled := fun side => by cases side <;> decide +kernel }
  have unstreamed : ∀ step ∈ oneCall, step.Unstreamed (failing payload) := by
    intro step member
    cases step with
    | call => rintro (_ | _) <;> exact ExtTreeMap.contains_empty
    | _ => trivial
  exact (structured_error_survives_iff Except.ok (failing payload) separateProcesses
    oneCall unstreamed (fun side => by cases side <;> decide +kernel) 0 ⟨1, 5, [1]⟩
    (fun _ => .error (.structured payload)) payload quiescent (by decide +kernel)
    ExtTreeMap.getElem?_insert_self rfl).mpr rfl

/-- The message of a failure is lost. -/
theorem failure_message_lost :
    let payload : RpcServiceErrorPayload := ⟨.fail, "boom"⟩
    let service := (new (failing payload) separateProcesses).run oneCall
    (∀ first second, (failing payload .server).encodeError first =
        (failing payload .server).encodeError second → first = second) ∧
      service.Quiescent ∧ service.client.made = [⟨1, 5, [1]⟩] ∧
      service.server.served.map (fun entry => entry.1) = [1] ∧
      service.client.result Except.ok 0 = some (.error (.rpc ⟨.fail, ""⟩)) := by
  intro payload service
  refine ⟨?_, ?_, by decide +kernel, by decide +kernel, by decide +kernel⟩
  · rintro ⟨firstCode, firstMessage⟩ ⟨secondCode, secondMessage⟩ same
    obtain ⟨sameCode, sameMessage⟩ := List.cons.inj same
    have apart : ∀ first second : RpcServiceErrorCode,
        first.status.toUInt8 = second.status.toUInt8 → first = second := by
      intro first second
      cases first <;> cases second <;> decide
    have messageEq : firstMessage = secondMessage :=
      String.toByteArray_inj.mp (ByteArray.ext (Array.toList_inj.mp sameMessage))
    rw [apart firstCode secondCode sameCode, messageEq]
  · exact
      { sent := fun side => by cases side <;> decide +kernel
        drained := fun side => by cases side <;> decide +kernel
        handled := fun side => by cases side <;> decide +kernel }

end PrebufferedService

end Muxio.Service
