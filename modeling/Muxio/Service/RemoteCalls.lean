import Muxio.Service.RoundTrip
import Muxio.Transition.Refinement

/-!
# Remote calls

What a prebuffered service is for: a call is made, its handler runs once, and the
call returns what the handler's outcome means to a caller.  `RemoteCalls` is a machine
that does only this.  A service, with its frames, reads and queues, refines it.
-/

namespace Muxio.Service

open Std
open Muxio.Framing
open Muxio.Rpc
open Muxio.Transition

universe u v

/-! ## The abstract machine -/

/-- How far a call has come. -/
inductive CallStage (T : Type u) where
  | requested
  | executed
  | returned (result : Except RpcServiceError T)

def CallStage.isRequested {T : Type u} : CallStage T → Bool
  | .requested => true
  | _ => false

structure RemoteCall (T : Type u) where
  methodId : UInt64
  args : List UInt8
  stage : CallStage T

/-- The calls in the order in which they were made, and the executions of their
methods in the order in which they happened. -/
structure RemoteCalls (T : Type u) where
  calls : List (RemoteCall T)
  executions : List (UInt64 × List UInt8)

namespace RemoteCalls

variable {T : Type u}

def start : RemoteCalls T := ⟨[], []⟩

/-- A call is made, is executed once, and then returns the outcome of its method. -/
inductive Next (outcome : UInt64 → List UInt8 → Except RpcServiceError T) :
    RemoteCalls T → RemoteCalls T → Prop
  | call (state : RemoteCalls T) (methodId : UInt64) (args : List UInt8) :
      Next outcome state { state with calls := state.calls ++ [⟨methodId, args, .requested⟩] }
  | execute {state : RemoteCalls T} {index : Nat} {methodId : UInt64} {args : List UInt8}
      (isRequested : state.calls[index]? = some ⟨methodId, args, .requested⟩) :
      Next outcome state
        ⟨state.calls.set index ⟨methodId, args, .executed⟩, state.executions ++ [(methodId, args)]⟩
  | finish {state : RemoteCalls T} {index : Nat} {methodId : UInt64} {args : List UInt8}
      (isExecuted : state.calls[index]? = some ⟨methodId, args, .executed⟩) :
      Next outcome state
        { state with
          calls := state.calls.set index ⟨methodId, args, .returned (outcome methodId args)⟩ }

variable {outcome : UInt64 → List UInt8 → Except RpcServiceError T}

/-- Some of the calls that have been executed return. -/
theorem finish_some {calls after : List (RemoteCall T)}
    (finishes : List.Forall₂ (fun call next => next = call ∨
      call.stage = .executed ∧
        next = { call with stage := .returned (outcome call.methodId call.args) }) calls after)
    (before : List (RemoteCall T)) (executions : List (UInt64 × List UInt8)) :
    Relation.ReflTransGen (Next outcome) ⟨before ++ calls, executions⟩
      ⟨before ++ after, executions⟩ := by
  induction finishes generalizing before with
  | nil => exact .refl
  | @cons call next rest later here _ ih =>
      have others := ih (before ++ [next])
      rw [List.append_assoc, List.append_assoc, List.singleton_append,
        List.singleton_append] at others
      rcases here with rfl | ⟨isExecuted, rfl⟩
      · exact others
      · rcases call with ⟨methodId, args, stage⟩
        subst isExecuted
        have isNext : (before ++ ⟨methodId, args, .executed⟩ :: rest)[before.length]? =
            some ⟨methodId, args, .executed⟩ := by simp
        have finished :
            Next outcome ⟨before ++ ⟨methodId, args, .executed⟩ :: rest, executions⟩ _ :=
          .finish isNext
        rw [List.set_append_right _ _ (Nat.le_refl _), Nat.sub_self, List.set_cons_zero] at finished
        exact Relation.ReflTransGen.head finished others

/-- The methods have been executed once for each call that is no longer waiting, and a
call that has returned gave the outcome of its method. -/
structure Faithful (outcome : UInt64 → List UInt8 → Except RpcServiceError T)
    (state : RemoteCalls T) : Prop where
  once : state.executions.Perm ((state.calls.filter fun call => !call.stage.isRequested).map
    fun call => (call.methodId, call.args))
  returned : ∀ call ∈ state.calls, ∀ result, call.stage = .returned result →
    result = outcome call.methodId call.args

/-- Every call has been executed once and has returned its outcome. -/
structure Finished (outcome : UInt64 → List UInt8 → Except RpcServiceError T)
    (state : RemoteCalls T) : Prop where
  once : state.executions.Perm (state.calls.map fun call => (call.methodId, call.args))
  returned : ∀ call ∈ state.calls, call.stage = .returned (outcome call.methodId call.args)

theorem Faithful.finished {state : RemoteCalls T} (faithful : Faithful outcome state)
    (returned : ∀ call ∈ state.calls,
      call.stage = .returned (outcome call.methodId call.args)) : Finished outcome state := by
  constructor
  · have once := faithful.once
    rw [List.filter_eq_self.mpr] at once
    · exact once
    · intro call member
      rw [returned call member]
      rfl
  · exact returned

theorem Next.length_le {before after : RemoteCalls T} (next : Next outcome before after) :
    before.calls.length ≤ after.calls.length := by
  cases next with
  | call => simp
  | execute => simp
  | finish => simp

/-- When all calls have returned there is nothing to do but to make another one. -/
theorem Finished.length_lt {before after : RemoteCalls T} (finished : Finished outcome before)
    (next : Next outcome before after) : before.calls.length < after.calls.length := by
  cases next with
  | call => simp
  | execute isRequested =>
      have returned := finished.returned _ (List.mem_of_getElem? isRequested)
      contradiction
  | finish isExecuted =>
      have returned := finished.returned _ (List.mem_of_getElem? isExecuted)
      contradiction

theorem Finished.eq_of_length {before after : RemoteCalls T} (finished : Finished outcome before)
    (reached : Relation.ReflTransGen (Next outcome) before after)
    (sameLength : after.calls.length = before.calls.length) : after = before := by
  rcases Relation.ReflTransGen.cases_head reached with rfl | ⟨middle, first, rest⟩
  · rfl
  · have grows := finished.length_lt first
    have atLeast : middle.calls.length ≤ after.calls.length := by
      clear sameLength grows first reached finished
      induction rest with
      | refl => exact Nat.le_refl _
      | tail _ next ih => exact ih.trans next.length_le
    omega

theorem Faithful.next {before after : RemoteCalls T} (faithful : Faithful outcome before)
    (next : Next outcome before after) : Faithful outcome after := by
  rcases faithful with ⟨once, returned⟩
  cases next with
  | call methodId args =>
      constructor
      · simpa [CallStage.isRequested] using once
      · intro call member result isReturned
        rcases List.mem_append.mp member with earlier | isNew
        · exact returned call earlier result isReturned
        · rw [List.mem_singleton.mp isNew] at isReturned
          contradiction
  | @execute index methodId args isRequested =>
      rcases List.getElem?_eq_some_iff.mp isRequested with ⟨inside, isCall⟩
      rcases @List.exists_of_set _ index ⟨methodId, args, .executed⟩ before.calls inside with
        ⟨earlier, later, callsEq, -, setEq⟩
      rw [isCall] at callsEq
      rw [callsEq] at once returned
      constructor
      · simp only [setEq]
        simp only [List.filter_append, List.map_append, CallStage.isRequested, Bool.not_true,
          Bool.false_eq_true, not_false_eq_true, List.filter_cons_of_neg, Bool.not_false,
          List.filter_cons_of_pos, List.map_cons] at once ⊢
        exact (once.append_right _).trans (List.perm_append_singleton _ _ |>.trans
          List.perm_middle.symm)
      · intro call member result isReturned
        simp only [setEq, List.mem_append, List.mem_cons] at member
        rcases member with inEarlier | rfl | inLater
        · exact returned call (by simp [inEarlier]) result isReturned
        · contradiction
        · exact returned call (by simp [inLater]) result isReturned
  | @finish index methodId args isExecuted =>
      rcases List.getElem?_eq_some_iff.mp isExecuted with ⟨inside, isCall⟩
      rcases @List.exists_of_set _ index ⟨methodId, args, .returned (outcome methodId args)⟩
        before.calls inside with ⟨earlier, later, callsEq, -, setEq⟩
      rw [isCall] at callsEq
      rw [callsEq] at once returned
      constructor
      · simpa [setEq, CallStage.isRequested] using once
      · intro call member result isReturned
        simp only [setEq, List.mem_append, List.mem_cons] at member
        rcases member with inEarlier | rfl | inLater
        · exact returned call (by simp [inEarlier]) result isReturned
        · exact (CallStage.returned.inj isReturned).symm
        · exact returned call (by simp [inLater]) result isReturned

theorem faithful_start : Faithful outcome (start : RemoteCalls T) :=
  ⟨.nil, fun _ member => absurd member List.not_mem_nil⟩

theorem Faithful.reached {before after : RemoteCalls T} (faithful : Faithful outcome before)
    (reached : Relation.ReflTransGen (Next outcome) before after) : Faithful outcome after := by
  induction reached with
  | refl => exact faithful
  | tail _ next ih => exact ih.next next

end RemoteCalls

/-! ## A service as remote calls -/

namespace PrebufferedService

variable {T : Type u} (decodeResponse : UInt64 → List UInt8 → Except IoError T)

/-- How far the call of this number has come. -/
def stage (service : PrebufferedService) (index : Nat) (call : PrebufferedCall) : CallStage T :=
  match service.client.result (decodeResponse call.methodId) index with
  | some result => .returned result
  | none =>
      if call.rpcRequestId ∈ service.server.served.map Prod.fst then .executed else .requested

/-- A service as a machine that makes remote calls. -/
def remoteCalls (service : PrebufferedService) : RemoteCalls T where
  calls := service.client.made.mapIdx fun index call =>
    ⟨call.methodId, call.encodedArgs, service.stage decodeResponse index call⟩
  executions := service.server.served.map fun entry =>
    (entry.2.rpcMethodId, RpcServiceEndpoint.argsForHandler entry.2)

/-! ## Steps of a service -/

/-- Only the calls, what was served and what was heard matter. -/
theorem remoteCalls_congr {before after : PrebufferedService}
    (sameMade : after.client.made = before.client.made)
    (sameServed : after.server.served = before.server.served)
    (sameLog : after.client.log = before.client.log) :
    after.remoteCalls decodeResponse =
      before.remoteCalls decodeResponse := by
  simp only [remoteCalls, stage, ServiceNode.result, sameMade, sameServed, sameLog]

theorem forall₂_mapIdx {α : Type u} {β : Type v} {R : β → β → Prop} {list : List α}
    {f g : Nat → α → β}
    (related : ∀ index element, list[index]? = some element →
      R (f index element) (g index element)) :
    List.Forall₂ R (list.mapIdx f) (list.mapIdx g) := by
  rw [List.forall₂_iff_get]
  constructor
  · simp
  · intro index inFirst inSecond
    have inside : index < list.length := by simpa using inFirst
    simpa using related index _ (List.getElem?_eq_getElem inside)

section Steps

variable {service : PrebufferedService} {endpoint : Side → RpcServiceEndpoint}
  {idSpace : Side → IdSpace} (conversing : service.Conversing endpoint idSpace)
  (few : ∀ side, service.handedOut side ≤ 2 ^ 31)

include conversing few

theorem remoteCalls_call (methodId : UInt64) (encodedArgs : List UInt8) :
    (service.step (.call methodId encodedArgs)).remoteCalls decodeResponse =
      let remote := service.remoteCalls decodeResponse
      { remote with calls := remote.calls ++ [⟨methodId, encodedArgs, .requested⟩] } := by
  have unheard : service.client.result (decodeResponse methodId)
      service.client.made.length = none := by
    rcases conversing.hears .client with ⟨_, _, hears⟩
    have silent : heard (.response service.client.made.length) service.client.log = [] :=
      hears.sorting.answering.unmade _ (Nat.le_refl _)
    rw [ServiceNode.result, silent]
    rfl
  have unserved : service.client.state.dispatcher.callId ∉
      service.server.served.map Prod.fst := by
    intro served
    rcases List.mem_map.mp served with ⟨entry, member, same⟩
    exact conversing.fresh few .client (same ▸ conversing.served_known .client entry member)
  have requested : (service.step (.call methodId encodedArgs)).stage decodeResponse
      service.client.made.length
      ⟨service.client.state.dispatcher.callId, methodId, encodedArgs⟩ = .requested := by
    have sameResult : (service.step (.call methodId encodedArgs)).client.result
        (decodeResponse methodId) service.client.made.length = none := unheard
    rw [stage, sameResult]
    exact if_neg unserved
  show RemoteCalls.mk (List.mapIdx _ (service.client.made ++
    [⟨service.client.state.dispatcher.callId, methodId, encodedArgs⟩])) _ = _
  rw [List.mapIdx_concat]
  simp only [requested]
  rfl

/-- When the request of a call is served, the call is executed and no other call moves. -/
theorem stage_serve {index position : Nat} {call : PrebufferedCall}
    (isMade : service.client.made[position]? = some call)
    (unreturned : service.client.result (decodeResponse call.methodId) position = none)
    (servedEq : (service.step (.serve .server index)).server.served =
      service.server.served ++ [(call.rpcRequestId, call.received)])
    {other : Nat} {otherCall : PrebufferedCall}
    (otherMade : service.client.made[other]? = some otherCall) :
    (service.step (.serve .server index)).stage decodeResponse other otherCall =
      if position = other then .executed
      else service.stage decodeResponse other otherCall := by
  have sameResult : (service.step (.serve .server index)).client.result
      (decodeResponse otherCall.methodId) other =
        service.client.result (decodeResponse otherCall.methodId) other := rfl
  simp only [stage, sameResult, servedEq, List.map_append, List.map_cons, List.map_nil,
    List.mem_append, List.mem_singleton]
  by_cases same : position = other
  · subst same
    obtain rfl : call = otherCall := Option.some.inj (isMade.symm.trans otherMade)
    simp [unreturned]
  · have otherId : otherCall.rpcRequestId ≠ call.rpcRequestId := fun sameId =>
      same (Answering.index_unique (conversing.made_nodup few .client) isMade otherMade
        sameId.symm)
    rw [if_neg same]
    cases service.client.result (decodeResponse otherCall.methodId) other with
    | some result => rfl
    | none => simp only [otherId, or_false]

/-- A request that waits is of a call that was requested. -/
theorem exists_requested {index : Nat} {entry : UInt32 × RpcRequest}
    (found : service.server.waiting[index]? = some entry) :
    ∃ position call, service.client.made[position]? = some call ∧
      entry = (call.rpcRequestId, call.received) ∧
      call.rpcRequestId ∉ service.server.served.map Prod.fst ∧
      service.client.result (decodeResponse call.methodId) position = none := by
  have waits := List.mem_of_getElem? found
  rcases conversing.collected .client entry (List.mem_append_left _ waits) with
    ⟨call, callMem, rfl⟩
  rcases List.mem_iff_getElem?.mp callMem with ⟨position, isMade⟩
  have unserved : call.rpcRequestId ∉ service.server.served.map Prod.fst := by
    have distinct := conversing.collected_nodup .client
    rw [List.map_append, List.nodup_append] at distinct
    intro served
    exact distinct.2.2 _ (List.mem_map_of_mem waits) _ served rfl
  refine ⟨position, call, isMade, rfl, unserved, ?_⟩
  have unheard : heard (.response position) service.client.log = [] :=
    conversing.unserved_unheard few .client isMade unserved
  rw [conversing.client_result few isMade, unheard]
  rfl

/-- Serving a request executes a call that had been requested. -/
theorem remoteCalls_serve (outcome : UInt64 → List UInt8 → Except RpcServiceError T)
    (index : Nat) :
    Relation.ReflTransGen (RemoteCalls.Next outcome)
      (service.remoteCalls decodeResponse)
      ((service.step (.serve .server index)).remoteCalls decodeResponse) := by
  have sameMade : (service.step (.serve .server index)).client.made = service.client.made := rfl
  cases found : service.server.waiting[index]? with
  | none =>
      have unchanged : (service.step (.serve .server index)).server = service.server :=
        congrArg Prod.fst (ServiceNode.serve_none found (service.handedOut .server))
      rw [remoteCalls_congr decodeResponse sameMade
        (congrArg ServiceNode.served unchanged) rfl]
  | some entry =>
      rcases exists_requested decodeResponse conversing few found with
        ⟨position, call, isMade, rfl, unserved, unreturned⟩
      have servedEq : (service.step (.serve .server index)).server.served =
          service.server.served ++ [(call.rpcRequestId, call.received)] :=
        congrArg (fun served => served.1.served)
          (ServiceNode.serve_eq found (service.handedOut .server))
      have isRequested : (service.remoteCalls decodeResponse).calls[position]? =
          some ⟨call.methodId, call.encodedArgs, .requested⟩ := by
        rw [remoteCalls, List.getElem?_mapIdx, isMade, Option.map_some, stage, unreturned]
        simp only [if_neg unserved]
      have calls : ((service.step (.serve .server index)).remoteCalls
          decodeResponse).calls =
            (service.remoteCalls decodeResponse).calls.set position
              ⟨call.methodId, call.encodedArgs, .executed⟩ := by
        apply List.ext_getElem?
        intro other
        simp only [remoteCalls, List.getElem?_set, List.getElem?_mapIdx, List.length_mapIdx,
          sameMade]
        by_cases same : position = other
        · subst same
          rcases List.getElem?_eq_some_iff.mp isMade with ⟨inside, -⟩
          rw [isMade, if_pos rfl, if_pos inside, Option.map_some, stage_serve
            decodeResponse conversing few isMade unreturned servedEq isMade, if_pos rfl]
        · rw [if_neg same]
          apply Option.map_congr
          intro otherCall otherMade
          rw [stage_serve decodeResponse conversing few isMade unreturned servedEq
            otherMade, if_neg same]
      have executions : ((service.step (.serve .server index)).remoteCalls
          decodeResponse).executions =
            (service.remoteCalls decodeResponse).executions ++
              [(call.methodId, call.encodedArgs)] := by
        simp only [remoteCalls, servedEq, List.map_append, List.map_cons, List.map_nil,
          argsForHandler_received]
        rfl
      have executed : Relation.ReflTransGen (RemoteCalls.Next outcome) _ _ :=
        .single (.execute isRequested)
      rw [← calls, ← executions] at executed
      exact executed

/-- When more events of responses have been heard, a call that had been executed may have
returned. -/
theorem stage_heard {later : PrebufferedService} (after : later.Conversing endpoint idSpace)
    (fewAfter : ∀ side, later.handedOut side ≤ 2 ^ 31)
    (sameServed : later.server.served = service.server.served)
    (logEq : ∃ more, later.client.log = service.client.log ++ more) {index : Nat}
    {call : PrebufferedCall} (isMade : service.client.made[index]? = some call)
    (stillMade : later.client.made[index]? = some call) :
    later.stage decodeResponse index call =
        service.stage decodeResponse index call ∨
      service.stage decodeResponse index call = .executed ∧
        later.stage decodeResponse index call =
          .returned ((endpoint .server).outcome decodeResponse call.methodId
            call.encodedArgs) := by
  rcases logEq with ⟨more, logEq⟩
  have resultBefore := conversing.client_result few isMade decodeResponse
  have resultAfter := after.client_result fewAfter stillMade decodeResponse
  rw [logEq, heard_append, List.any_append] at resultAfter
  by_cases ended : (heard (.response index) service.client.log).any RpcStreamEvent.isEnd = true
  · rw [if_pos ended] at resultBefore
    rw [ended, Bool.true_or, if_pos rfl] at resultAfter
    left
    rw [stage, stage, resultBefore, resultAfter]
  · rw [if_neg ended] at resultBefore
    rw [Bool.eq_false_of_not_eq_true ended, Bool.false_or] at resultAfter
    by_cases endedNow : (heard (.response index) more).any RpcStreamEvent.isEnd = true
    · rw [if_pos endedNow] at resultAfter
      have isServed : call.rpcRequestId ∈ service.server.served.map Prod.fst := by
        rw [← sameServed]
        apply after.served_of_ended fewAfter .client stillMade
        rw [show (later.node .client).log = _ from logEq, heard_append, List.any_append, endedNow,
          Bool.or_true]
      right
      simp only [stage, resultBefore, resultAfter, if_pos isServed, and_self]
    · rw [if_neg endedNow] at resultAfter
      left
      simp only [stage, resultBefore, resultAfter, sameServed]

/-- Reading at the client lets calls return that had been executed. -/
theorem remoteCalls_read {count : Nat}
    (after : (service.step (.read .client count)).Conversing endpoint idSpace)
    (fewAfter : ∀ side, (service.step (.read .client count)).handedOut side ≤ 2 ^ 31) :
    Relation.ReflTransGen
      (RemoteCalls.Next ((endpoint .server).outcome decodeResponse))
      (service.remoteCalls decodeResponse)
      ((service.step (.read .client count)).remoteCalls decodeResponse) := by
  have finishes : List.Forall₂ (fun call next => next = call ∨ call.stage = .executed ∧
      next = { call with
        stage := .returned ((endpoint .server).outcome decodeResponse call.methodId call.args) })
      (service.remoteCalls decodeResponse).calls
      ((service.step (.read .client count)).remoteCalls decodeResponse).calls := by
    apply forall₂_mapIdx
    intro index call isMade
    rcases stage_heard decodeResponse conversing few after fewAfter rfl ⟨_, rfl⟩ isMade isMade
      with same | ⟨isExecuted, isReturned⟩
    · exact .inl (by rw [same])
    · exact .inr ⟨isExecuted, by rw [isReturned]⟩
  exact RemoteCalls.finish_some finishes [] _

/-- In the end every call has returned its outcome. -/
theorem returned_of_quiescent (quiescent : service.Quiescent) :
    ∀ call ∈ (service.remoteCalls decodeResponse).calls,
      call.stage = .returned ((endpoint .server).outcome decodeResponse call.methodId
        call.args) := by
  intro call member
  rcases List.mem_iff_getElem?.mp member with ⟨index, isCall⟩
  rw [remoteCalls, List.getElem?_mapIdx] at isCall
  rcases Option.map_eq_some_iff.mp isCall with ⟨made, isMade, rfl⟩
  have returned : service.client.result (decodeResponse made.methodId) index = _ :=
    conversing.result_of_quiescent few .client isMade decodeResponse quiescent
  simp only [stage, returned]
  rfl

end Steps

/-! ## Runs of a service -/

/-- A service refines the machine of remote calls. -/
theorem refines (endpoint : Side → RpcServiceEndpoint) (idSpace : Side → IdSpace) :
    Refines step
      (fun service next => next.Unstreamed endpoint ∧
        ∀ side, (service.step next).handedOut side ≤ 2 ^ 31)
      (fun service => service.Serving endpoint idSpace)
      (remoteCalls decodeResponse)
      (RemoteCalls.Next ((endpoint .server).outcome decodeResponse)) where
  preserves := by
    rintro service next serving ⟨unstreamed, few⟩
    exact serving.step unstreamed few
  simulates := by
    rintro service next serving ⟨unstreamed, fewAfter⟩
    have conversing := serving.conversing
    have few : ∀ side, service.handedOut side ≤ 2 ^ 31 := fun side =>
      (le_peerStep conversing.valid.oneCounter next.toPeer side).trans (fewAfter side)
    have silent : ∀ {after : PrebufferedService}, after.client.made = service.client.made →
        after.server.served = service.server.served → after.client.log = service.client.log →
        Relation.ReflTransGen
          (RemoteCalls.Next ((endpoint .server).outcome decodeResponse))
          (service.remoteCalls decodeResponse) (after.remoteCalls decodeResponse) := by
      intro after sameMade sameServed sameLog
      rw [remoteCalls_congr decodeResponse sameMade sameServed sameLog]
    cases next with
    | call methodId encodedArgs =>
        rw [remoteCalls_call decodeResponse conversing few]
        exact .single (.call _ methodId encodedArgs)
    | send side streamId => cases side <;> exact silent rfl rfl rfl
    | read side count =>
        cases side with
        | client =>
            exact remoteCalls_read decodeResponse conversing few
              (serving.step unstreamed fewAfter).conversing fewAfter
        | server => exact silent rfl rfl rfl
    | serve side index =>
        cases side with
        | client =>
            rcases service.client.serve_keeps index (service.handedOut .client) with
              ⟨-, sameMade, sameLog⟩
            exact silent sameMade rfl sameLog
        | server => exact remoteCalls_serve decodeResponse conversing few _ index
    | draw side => cases side <;> exact silent rfl rfl rfl

theorem run_oneCounter {service : PrebufferedService}
    (oneCounter : service.toConnection.OneCounter) (steps : List ServiceStep) :
    (service.run steps).toConnection.OneCounter := by
  induction steps generalizing service with
  | nil => exact oneCounter
  | cons first rest ih => exact ih (peerStep_oneCounter service first.toPeer)

/-- Every step of a run is allowed if few enough ids have been handed out at its end. -/
theorem along_run {service : PrebufferedService} {endpoint : Side → RpcServiceEndpoint}
    {steps : List ServiceStep} (unstreamed : ∀ step ∈ steps, step.Unstreamed endpoint)
    (few : ∀ side, (service.run steps).handedOut side ≤ 2 ^ 31) :
    Along step (fun service next => next.Unstreamed endpoint ∧
      ∀ side, (service.step next).handedOut side ≤ 2 ^ 31) service steps := by
  induction steps generalizing service with
  | nil => exact trivial
  | cons first rest ih =>
      constructor
      · constructor
        · exact unstreamed first List.mem_cons_self
        · exact fun side =>
            (le_run (peerStep_oneCounter service first.toPeer) rest side).trans (few side)
      · exact ih (fun step member => unstreamed step (List.mem_cons_of_mem _ member)) few

/-- A service refines the machine of remote calls, from its start and from every state
that it reaches: whatever is interleaved and however it is cut into reads, each step
makes a call, executes one that was waiting, lets calls that were executed return, or
changes nothing that a caller or a handler could see.  So each call is executed at most
once and returns nothing but its outcome; and when everything has arrived, each has
been executed once and has returned. -/
theorem service_refines_remote_calls (endpoint : Side → RpcServiceEndpoint) (creation : Creation)
    (steps more : List ServiceStep)
    (unstreamed : ∀ step ∈ steps ++ more, step.Unstreamed endpoint)
    (few : ∀ side, ((new endpoint creation).run (steps ++ more)).handedOut side ≤ 2 ^ 31) :
    let outcome := (endpoint .server).outcome decodeResponse
    let before := (new endpoint creation).run steps
    let after := (new endpoint creation).run (steps ++ more)
    let reached := after.remoteCalls decodeResponse
    Relation.ReflTransGen (RemoteCalls.Next outcome) .start
        (before.remoteCalls decodeResponse) ∧
      Relation.ReflTransGen (RemoteCalls.Next outcome)
        (before.remoteCalls decodeResponse) reached ∧
      reached.Faithful outcome ∧
      (after.Quiescent → reached.Finished outcome) := by
  intro outcome before after reached
  have refining := refines decodeResponse endpoint creation.idSpace
  have appended : after = before.run more := List.foldl_append
  have atStart := new_serving endpoint creation
  have fewBefore : ∀ side, before.handedOut side ≤ 2 ^ 31 := by
    intro side
    have oneCounter := run_oneCounter atStart.conversing.valid.oneCounter steps
    exact (le_run oneCounter more side).trans (appended ▸ few side)
  rcases refining.run atStart (along_run
    (fun step member => unstreamed step (List.mem_append_left _ member)) fewBefore) with
    ⟨serving, fromStart⟩
  rcases refining.run serving (along_run
    (fun step member => unstreamed step (List.mem_append_right _ member))
    (fun side => appended ▸ few side)) with ⟨servingAfter, onwards⟩
  rw [← List.foldl_append] at servingAfter onwards
  have faithful := RemoteCalls.faithful_start.reached (fromStart.trans onwards)
  refine ⟨fromStart, onwards, faithful, ?_⟩
  intro quiescent
  exact faithful.finished
    (returned_of_quiescent decodeResponse servingAfter.conversing few quiescent)

/-- Two calls, executed in the other order, have returned what their handler made of them. -/
theorem service_refines_remote_calls_of_two :
    let remote := ((new reversing separateProcesses).run twoCalls).remoteCalls
      fun _ => Except.ok
    Relation.ReflTransGen
        (RemoteCalls.Next ((reversing .server).outcome fun _ => Except.ok)) .start
        remote ∧
      remote.executions.Perm [(5, [1, 2, 3]), (5, [])] ∧
      ∀ call ∈ remote.calls, call.stage = .returned (.ok call.args.reverse) := by
  intro remote
  have quiescent : ((new reversing separateProcesses).run twoCalls).Quiescent :=
    { sent := fun side => by cases side <;> decide +kernel
      drained := fun side => by cases side <;> decide +kernel
      handled := fun side => by cases side <;> decide +kernel }
  have unstreamed : ∀ step ∈ [] ++ twoCalls, step.Unstreamed reversing :=
    fun step _ => reversing_unstreamed step
  obtain ⟨-, fromStart, -, atEnd⟩ := service_refines_remote_calls (fun _ => Except.ok)
    reversing separateProcesses [] twoCalls unstreamed
    (fun side => by cases side <;> decide +kernel)
  obtain ⟨once, returned⟩ := atEnd quiescent
  have calls : remote.calls.map (fun call => (call.methodId, call.args)) =
      [(5, [1, 2, 3]), (5, [])] := by decide +kernel
  have reverses : ∀ args, (reversing .server).outcome (fun _ => Except.ok) 5 args =
      .ok args.reverse := by
    intro args
    simp only [RpcServiceEndpoint.outcome, reversing, ExtTreeMap.getElem?_insert_self]
    rfl
  refine ⟨fromStart, calls ▸ once, ?_⟩
  intro call member
  have isFive : call.methodId = 5 := by
    have listed := List.mem_map_of_mem (f := fun call => (call.methodId, call.args)) member
    rw [calls] at listed
    rcases List.mem_pair.mp listed with same | same
    · exact congrArg Prod.fst same
    · exact congrArg Prod.fst same
  rw [returned call member, isFive, reverses]

end PrebufferedService

end Muxio.Service
