import Muxio.Service.RemoteCalls

/-!
# Calls when the connection is lost

A client may lose its connection at any point of a run: after a part of a request was
sent, between two chunks of a response, or when all is done.  It then fails whatever
is pending.  A call whose response had arrived keeps its result, and every other call
returns the error, even if most of its response had arrived.  Nothing that is read
later changes this.
-/

namespace Muxio.Service

open Std
open Muxio.Framing
open Muxio.Rpc
open Muxio.Transition

universe u

/-! ## Response handlers -/

section Handlers

/-- A response handler that has dropped its sender, for a call that has been told that it
was set up. -/
structure ResponseState.Closed (state : ResponseState) : Prop where
  dropped : state.channel.senderHeld = false
  ready : state.ready = some (.ok ())

/-- Nothing is sent any more. -/
theorem ResponseState.Closed.recvFn {state : ResponseState} (closed : state.Closed)
    (event : RpcStreamEvent) :
    (state.recvFn event).channel = state.channel ∧
      (state.recvFn event).Closed := by
  rcases state with ⟨⟨kind, items, senderHeld⟩, status, errorBuffer, ready⟩
  rcases closed with ⟨dropped, isReady⟩
  simp only at dropped isReady
  subst dropped isReady
  cases event with
  | header => exact ⟨rfl, rfl, rfl⟩
  | payloadChunk => rcases status with _ | _ | _ | _ | _ <;> exact ⟨rfl, rfl, rfl⟩
  | «end» => rcases status with _ | _ | _ | _ | _ <;> exact ⟨rfl, rfl, rfl⟩
  | error => exact ⟨rfl, rfl, rfl⟩

theorem ResponseState.Closed.foldl_recvFn {state : ResponseState} (closed : state.Closed)
    (events : List RpcStreamEvent) :
    (events.foldl ResponseState.recvFn state).channel = state.channel ∧
      (events.foldl ResponseState.recvFn state).Closed := by
  induction events generalizing state with
  | nil => exact ⟨rfl, closed⟩
  | cons event rest ih =>
      rcases closed.recvFn event with ⟨sameChannel, stillClosed⟩
      rcases ih stillClosed with ⟨same, closedLater⟩
      exact ⟨same.trans sameChannel, closedLater⟩

/-- An end or an error closes the response of a call. -/
theorem ResponseState.closed_recvFn {state : ResponseState} (isReady : state.ready = some (.ok ()))
    {event : RpcStreamEvent} (terminal : event.isEnd = true ∨ event.isError = true) :
    (state.recvFn event).Closed := by
  rcases state with ⟨⟨kind, items, senderHeld⟩, status, errorBuffer, ready⟩
  simp only at isReady
  subst isReady
  cases event with
  | header => rcases terminal with terminal | terminal <;> contradiction
  | payloadChunk => rcases terminal with terminal | terminal <;> contradiction
  | «end» =>
      cases senderHeld <;> rcases status with _ | _ | _ | _ | _ <;> exact ⟨rfl, rfl⟩
  | error => cases senderHeld <;> exact ⟨rfl, rfl⟩

/-- Once a call is told that it was set up, it stays so. -/
theorem ResponseState.ready_recvFn {state : ResponseState} (isReady : state.ready = some (.ok ()))
    (event : RpcStreamEvent) :
    (state.recvFn event).ready = some (.ok ()) := by
  rcases state with ⟨⟨kind, items, senderHeld⟩, status, errorBuffer, ready⟩
  simp only at isReady
  subst isReady
  cases event with
  | header => rfl
  | payloadChunk => cases senderHeld <;> rcases status with _ | _ | _ | _ | _ <;> rfl
  | «end» => cases senderHeld <;> rcases status with _ | _ | _ | _ | _ <;> rfl
  | error => cases senderHeld <;> rfl

variable {T : Type u} (decode : List UInt8 → Except IoError T)

/-- What a call returns once its response has ended or failed is final. -/
theorem callResult_append_of_terminal {events : List RpcStreamEvent}
    (terminal : ∃ event ∈ events, event.isEnd = true ∨ event.isError = true)
    (more : List RpcStreamEvent) :
    callResult decode (events ++ more) = callResult decode events := by
  have closes : ∀ state : ResponseState, state.ready = some (.ok ()) →
      (events.foldl ResponseState.recvFn state).Closed := by
    induction events with
    | nil => simp at terminal
    | cons event rest ih =>
        intro state isReady
        by_cases here : event.isEnd = true ∨ event.isError = true
        · exact ((ResponseState.closed_recvFn isReady here).foldl_recvFn
            rest).2
        · apply ih
          · rcases terminal with ⟨other, member, isTerminal⟩
            rcases List.mem_cons.mp member with rfl | later
            · exact absurd isTerminal here
            · exact ⟨other, later, isTerminal⟩
          · exact ResponseState.ready_recvFn isReady event
  have closed := closes ((ResponseState.new .unbounded).signalReady (.ok ())) rfl
  rcases closed.foldl_recvFn more with ⟨sameChannel, stillClosed⟩
  simp only [callResult, List.foldl_append, ResponseState.returned, closed.ready,
    stillClosed.ready, sameChannel]

/-- The error that a call returns when its connection is lost. -/
def connectionLost (error : FrameDecodeError) : RpcServiceError :=
  .transport ⟨.connectionAborted, displayDecodeError error⟩

theorem callRpcBuffered_chunks_error {S : Type u} (decode : List UInt8 → S) (senderHeld : Bool)
    (successBuf : List UInt8) (chunks : List (List UInt8)) (error : RpcServiceError) :
    callRpcBuffered decode senderHeld successBuf (chunks.map .ok ++ [.error error]) =
      some (.error error) := by
  induction chunks generalizing successBuf with
  | nil => rfl
  | cons chunk rest ih => exact ih _

/-- An error comes after the chunks that were received. -/
theorem ResponseState.Waiting.recvFn_error {state : ResponseState} (waiting : state.Waiting)
    (rpcHeader : Option RpcHeader) (rpcRequestId : Option UInt32) (rpcMethodId : Option UInt64)
    (error : FrameDecodeError) :
    let failed := state.recvFn (.error rpcHeader rpcRequestId rpcMethodId error)
    failed.ready = some (.ok ()) ∧ ∃ chunks : List (List UInt8),
      failed.channel.items = chunks.map .ok ++ [.error (connectionLost error)] := by
  rcases state with ⟨⟨kind, items, senderHeld⟩, status, errorBuffer, ready⟩
  rcases waiting with ⟨isUnbounded, held, ⟨chunks, itemsEq⟩, isReady⟩
  simp only at isUnbounded held itemsEq isReady
  subst isUnbounded held itemsEq isReady
  exact ⟨rfl, chunks, rfl⟩

/-- A call whose response has not ended fails with the connection, whatever it has
received. -/
theorem callResult_lost {events : List RpcStreamEvent}
    (goesOn : ∀ event ∈ events, event.isEnd = false ∧ event.isError = false)
    (rpcHeader : Option RpcHeader) (rpcRequestId : Option UInt32) (rpcMethodId : Option UInt64)
    (error : FrameDecodeError) :
    callResult decode
        (events ++ [.error rpcHeader rpcRequestId rpcMethodId error]) =
      some (.error (connectionLost error)) := by
  have waiting := ResponseState.waiting_start.foldl_recvFn goesOn
  rcases waiting.recvFn_error rpcHeader rpcRequestId rpcMethodId error with
    ⟨isReady, chunks, itemsEq⟩
  simp only [callResult, List.foldl_append, List.foldl_cons, List.foldl_nil,
    ResponseState.returned, isReady, itemsEq, callRpcBuffered_chunks_error, Option.map_some,
    unpackResult]

end Handlers

/-! ## Losing the connection -/

section Lost

variable {H : Type u} [DecidableEq H]

/-- Every stored handler hears that the connection is lost, and nothing else. -/
theorem heard_failAllPendingRequests (handler : H) (dispatcher : RpcDispatcher H)
    (error : FrameDecodeError) :
    heard handler (dispatcher.failAllPendingRequests error).2 =
      (dispatcher.routing.responseHandlers.toList.filter fun entry => entry.2 = handler).map
        fun entry => .error none (some entry.1) none error := by
  show (dispatcher.routing.responseHandlers.toList.map _).filterMap (Action.heardBy handler) = _
  induction dispatcher.routing.responseHandlers.toList with
  | nil => rfl
  | cons entry rest ih =>
      by_cases own : entry.2 = handler
      · simpa [Action.heardBy, own] using ih
      · simpa [Action.heardBy, own] using ih

end Lost

namespace ServiceNode

/-- The connection is lost: everything that is pending fails. -/
def disconnect (node : ServiceNode) (error : FrameDecodeError) : ServiceNode :=
  let failed := node.state.dispatcher.failAllPendingRequests error
  { node with
    state := node.state.withDispatcher failed.1 rfl node.state.responders
    log := node.log ++ failed.2 }

theorem disconnect_log (node : ServiceNode) (error : FrameDecodeError) :
    (node.disconnect error).log =
      node.log ++ (node.state.dispatcher.failAllPendingRequests error).2 :=
  rfl

/-- Read whatever may still arrive. -/
def readAll (node : ServiceNode) (reads : List (List UInt8 × Nat)) : ServiceNode :=
  reads.foldl (fun node read => (node.read read.1 read.2).1) node

theorem readAll_log (node : ServiceNode) (reads : List (List UInt8 × Nat)) :
    node.log <+: (node.readAll reads).log := by
  induction reads generalizing node with
  | nil => exact List.prefix_refl _
  | cons read rest ih => exact (List.prefix_append _ _).trans (ih (node.read read.1 read.2).1)

end ServiceNode

namespace PrebufferedService

variable {T : Type u} (decodeResponse : UInt64 → List UInt8 → Except IoError T)

/-- A call whose response has not ended is told that the connection is lost. -/
theorem Conversing.told_disconnect {service : PrebufferedService}
    {endpoint : Side → RpcServiceEndpoint} {idSpace : Side → IdSpace}
    (conversing : service.Conversing endpoint idSpace) {index : Nat} {call : PrebufferedCall}
    (isMade : service.client.made[index]? = some call)
    (unended : ¬ (heard (.response index) service.client.log).any RpcStreamEvent.isEnd = true)
    (error : FrameDecodeError) :
    ∃ (rpcRequestId : UInt32) (others : List RpcStreamEvent),
      heard (.response index) (service.client.state.dispatcher.failAllPendingRequests error).2 =
        .error none (some rpcRequestId) none error :: others := by
  rcases conversing.hears .client with ⟨_, _, hears⟩
  have answering := hears.sorting.answering
  have stored := (answering.ready index call isMade
    (answering.told index call isMade ▸ Bool.eq_false_of_not_eq_true unended)).1
  have isStored : (call.rpcRequestId, EndpointHandler.response index) ∈
      service.client.state.dispatcher.routing.responseHandlers.toList.filter
        fun entry => entry.2 = .response index := by
    rw [List.mem_filter]
    exact ⟨ExtTreeMap.mem_toList_iff_getElem?_eq_some.mpr stored, by simp⟩
  rcases List.exists_cons_of_ne_nil (List.ne_nil_of_mem isStored) with ⟨entry, others, entries⟩
  refine ⟨entry.1, others.map fun entry => .error none (some entry.1) none error, ?_⟩
  rw [heard_failAllPendingRequests, entries]
  rfl

/-- A call returns what it has returned before the connection was lost, or that it was
lost. -/
theorem Conversing.result_disconnect {service : PrebufferedService}
    {endpoint : Side → RpcServiceEndpoint} {idSpace : Side → IdSpace}
    (conversing : service.Conversing endpoint idSpace)
    (few : ∀ side, service.handedOut side ≤ 2 ^ 31) {index : Nat} {call : PrebufferedCall}
    (isMade : service.client.made[index]? = some call) (error : FrameDecodeError)
    (decode : List UInt8 → Except IoError T) (reads : List (List UInt8 × Nat)) :
    ((service.client.disconnect error).readAll reads).result decode index =
      some ((service.client.result decode index).getD (.error (connectionLost error))) := by
  rcases (service.client.disconnect error).readAll_log reads with ⟨more, logEq⟩
  let before := heard (.response index) service.client.log
  let told := heard (.response index)
    (service.client.state.dispatcher.failAllPendingRequests error).2
  have heardEq : heard (.response index) ((service.client.disconnect error).readAll reads).log =
      before ++ (told ++ heard (.response index) more) := by
    rw [← logEq, heard_append, ServiceNode.disconnect_log, heard_append, List.append_assoc]
  have outcome := conversing.client_result few isMade fun _ => decode
  rw [ServiceNode.result, heardEq]
  by_cases ended : before.any RpcStreamEvent.isEnd = true
  · rw [if_pos ended] at outcome
    rcases List.any_eq_true.mp ended with ⟨last, member, isEnd⟩
    rw [callResult_append_of_terminal _ ⟨last, member, .inl isEnd⟩]
    show service.client.result decode index = _
    rw [outcome]
    rfl
  · rw [if_neg ended] at outcome
    rcases conversing.told_disconnect isMade ended error with ⟨rpcRequestId, others, toldEq⟩
    have goesOn : ∀ event ∈ before, event.isEnd = false ∧ event.isError = false :=
      conversing.goesOn few .client isMade ended
    rw [show told = _ from toldEq, List.cons_append, List.append_cons,
      callResult_append_of_terminal, callResult_lost _ goesOn, outcome]
    · rfl
    · exact ⟨_, List.mem_append_right _ List.mem_cons_self, .inr rfl⟩

/-- The connection is lost at any point of any run, with any error, and anything may be
read afterwards.  Every call that was made returns.  It returns its whole outcome, and
then it has been executed, if it had returned before; otherwise it returns the error,
even if a part of its response had arrived. -/
theorem lost_connection_all_or_nothing (endpoint : Side → RpcServiceEndpoint)
    (creation : Creation) (steps : List ServiceStep) (error : FrameDecodeError)
    (reads : List (List UInt8 × Nat))
    (unstreamed : ∀ step ∈ steps, step.Unstreamed endpoint)
    (few : ∀ side, ((new endpoint creation).run steps).handedOut side ≤ 2 ^ 31) :
    let service := (new endpoint creation).run steps
    let client := (service.client.disconnect error).readAll reads
    ∀ index call, service.client.made[index]? = some call →
      let decode := decodeResponse call.methodId
      let returned := service.client.result decode index
      client.result decode index =
          some (returned.getD (.error (connectionLost error))) ∧
        ∀ result, returned = some result →
          result = (endpoint .server).outcome decodeResponse call.methodId
              call.encodedArgs ∧
            call.rpcRequestId ∈ service.server.served.map Prod.fst := by
  intro service client index call isMade decode returned
  have conversing := ((new_serving endpoint creation).run unstreamed few).conversing
  constructor
  · exact conversing.result_disconnect few isMade error decode reads
  · intro result isReturned
    have outcome := conversing.client_result few isMade decodeResponse
    rw [show service.client.result _ _ = some result from isReturned] at outcome
    split at outcome
    · rename_i ended
      exact ⟨Option.some.inj outcome, conversing.served_of_ended few .client isMade ended⟩
    · contradiction

/-- Two calls were served.  One response has arrived, and the other but for its end. -/
def twoCallsLost : List ServiceStep := twoCalls.take 14 ++ [.read .client 80]

theorem lost_connection_all_or_nothing_of_two :
    let service := (new reversing separateProcesses).run twoCallsLost
    let client := (service.client.disconnect .readAfterCancel).readAll [([7, 0, 7], 9)]
    client.result Except.ok 0 =
        some (.error (connectionLost .readAfterCancel) : Except RpcServiceError (List UInt8)) ∧
      client.result Except.ok 1 = some (.ok []) := by
  intro service client
  have settled := lost_connection_all_or_nothing (fun _ => Except.ok) reversing
    separateProcesses twoCallsLost .readAfterCancel [([7, 0, 7], 9)]
    (fun step _ => reversing_unstreamed step) (fun side => by cases side <;> decide +kernel)
  have made : service.client.made = [⟨1, 5, [1, 2, 3]⟩, ⟨2, 5, []⟩] := by decide +kernel
  have first := (settled 0 ⟨1, 5, [1, 2, 3]⟩ (congrArg (·[0]?) made)).1
  have second := (settled 1 ⟨2, 5, []⟩ (congrArg (·[1]?) made)).1
  have unreturned : service.client.result (T := List UInt8) Except.ok 0 = none := by
    decide +kernel
  have returned : service.client.result Except.ok 1 = some (.ok []) := by decide +kernel
  exact ⟨first.trans (by rw [unreturned]; rfl), second.trans (by rw [returned]; rfl)⟩

end PrebufferedService

end Muxio.Service
