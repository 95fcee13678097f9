import Muxio.Rpc.TerminalEvents
import Muxio.Service.Prebuffered

/-!
# Requests and responses of a prebuffered service

An end receives responses to its own calls and requests of its peer, mixed in any order.
It tells them apart by the request id alone: the events of its own calls go to their
response handlers, and all others are taken for requests.
-/

namespace Muxio.Service

open Std
open Muxio.Framing
open Muxio.Rpc
open Muxio.Transition

universe u v

theorem exists_of_mem_left {α β : Type u} {R : α → β → Prop} {xs : List α} {ys : List β}
    (related : List.Forall₂ R xs ys) {x : α} (member : x ∈ xs) : ∃ y ∈ ys, R x y := by
  induction related with
  | nil => contradiction
  | cons here _ ih =>
      rcases List.mem_cons.mp member with rfl | later
      · exact ⟨_, List.mem_cons_self, here⟩
      · obtain ⟨y, found, holds⟩ := ih later
        exact ⟨y, List.mem_cons_of_mem _ found, holds⟩

theorem map_eq_of_related {α β : Type u} {γ : Type v} {R : α → β → Prop} {xs : List α}
    {ys : List β} (related : List.Forall₂ R xs ys) {f : α → γ} {g : β → γ}
    (agree : ∀ x y, R x y → f x = g y) : xs.map f = ys.map g := by
  induction related with
  | nil => rfl
  | cons here _ ih => rw [List.map_cons, List.map_cons, agree _ _ here, ih]

/-- The request that the peer gathers from a call. -/
def PrebufferedCall.received (call : PrebufferedCall) : RpcRequest :=
  call.header.gathered (call.request.rpcPrebufferedPayloadBytes.getD [])

/-! ## What the caller hears -/

/-- The response handlers of the calls made have heard the events of their requests,
and are stored until the end has arrived. -/
structure Answering (made : List PrebufferedCall) (routing : Routing (EndpointHandler Nat))
    (log : List (Action (EndpointHandler Nat))) (events : List RpcStreamEvent) : Prop where
  told : ∀ (index : Nat) (call : PrebufferedCall), made[index]? = some call →
    heard (.response index) log =
      events.filter fun event => event.requestId = some call.rpcRequestId
  ready : ∀ (index : Nat) (call : PrebufferedCall), made[index]? = some call →
    (events.filter fun event => event.requestId = some call.rpcRequestId).any
      RpcStreamEvent.isEnd = false →
    routing.responseHandlers[call.rpcRequestId]? = some (.response index) ∧
      routing.prebufferingFlags[call.rpcRequestId]? ≠ some true
  unmade : ∀ index, made.length ≤ index → heard (.response index) log = []

namespace Answering

variable {made : List PrebufferedCall} {routing : Routing (EndpointHandler Nat)}
  {log : List (Action (EndpointHandler Nat))} {events : List RpcStreamEvent}

theorem index_unique (distinct : (made.map PrebufferedCall.rpcRequestId).Nodup)
    {first second : Nat} {call other : PrebufferedCall} (atFirst : made[first]? = some call)
    (atSecond : made[second]? = some other) (same : call.rpcRequestId = other.rpcRequestId) :
    first = second := by
  obtain ⟨inside, -⟩ := List.getElem?_eq_some_iff.mp atFirst
  apply (List.getElem?_inj (by simpa using inside) distinct).mp
  rw [List.getElem?_map, List.getElem?_map, atFirst, atSecond, Option.map_some, Option.map_some,
    same]

theorem heard_one (index other : Nat) (event : RpcStreamEvent) :
    heard (.response other) [Action.invoked (EndpointHandler.response index) event] =
      if index = other then [event] else [] := by
  by_cases same : index = other
  · simp [heard, Action.heardBy, same]
  · simp [heard, Action.heardBy, same]

/-- The handler of a call hears one more event. -/
theorem onEvent (answering : Answering made routing log events)
    (distinct : (made.map PrebufferedCall.rpcRequestId).Nodup) {index : Nat}
    {call : PrebufferedCall} (isMade : made[index]? = some call) {event : RpcStreamEvent}
    (named : event.requestId = some call.rpcRequestId) (noError : event.isError = false)
    (goesOn : (events.filter fun event => event.requestId = some call.rpcRequestId).any
      RpcStreamEvent.isEnd = false) :
    (routing.onEvent none true event).2 = [.invoked (.response index) event] ∧
      Answering made (routing.onEvent none true event).1
        (log ++ [.invoked (.response index) event]) (events ++ [event]) := by
  obtain ⟨stored, plain⟩ := answering.ready index call isMade goesOn
  have unrouted : (routing.slot call.rpcRequestId).route none call.rpcRequestId event =
      (routing.slot call.rpcRequestId, []) := by
    cases event <;> rfl
  have settled := Slot.onEvent_plain none true call.rpcRequestId stored plain unrouted
  obtain ⟨slotEq, actionsEq⟩ := routing.onEvent_slot none true named
  rw [settled] at slotEq actionsEq
  have others : ∀ other otherCall, made[other]? = some otherCall → other ≠ index →
      event.requestId ≠ some otherCall.rpcRequestId := by
    intro other otherCall otherMade different same
    have sameId : otherCall.rpcRequestId = call.rpcRequestId :=
      Option.some.inj (same.symm.trans named)
    exact different (index_unique distinct otherMade isMade sameId)
  refine ⟨actionsEq, ?_, ?_, ?_⟩
  · intro other otherCall otherMade
    rw [heard_append, answering.told other otherCall otherMade, List.filter_append, heard_one]
    by_cases same : other = index
    · subst same
      obtain rfl : call = otherCall := Option.some.inj (isMade.symm.trans otherMade)
      simp [named]
    · simp [Ne.symm same, others other otherCall otherMade same]
  · intro other otherCall otherMade unended
    rw [List.filter_append, List.any_append, Bool.or_eq_false_iff] at unended
    by_cases same : other = index
    · subst same
      obtain rfl : call = otherCall := Option.some.inj (isMade.symm.trans otherMade)
      have notEnd : event.isEnd = false := by simpa [named] using unended.2
      rw [if_neg (by simp [notEnd, noError])] at slotEq
      exact ⟨(congrArg Slot.handler slotEq).trans stored,
        fun flag => plain ((congrArg Slot.prebuffering slotEq).symm.trans flag)⟩
    · have kept := routing.onEvent_slot_other none true (others other otherCall otherMade same)
      obtain ⟨otherStored, otherPlain⟩ := answering.ready other otherCall otherMade unended.1
      exact ⟨(congrArg Slot.handler kept).trans otherStored,
        fun flag => otherPlain ((congrArg Slot.prebuffering kept).symm.trans flag)⟩
  · intro other outside
    have different : index ≠ other := by
      rintro rfl
      rw [List.getElem?_eq_none outside] at isMade
      contradiction
    rw [heard_append, answering.unmade other outside, heard_one, if_neg different]
    rfl

/-- A call is made under a new id. -/
theorem call {made : List PrebufferedCall} {routing next : Routing (EndpointHandler Nat)}
    {log : List (Action (EndpointHandler Nat))} {events : List RpcStreamEvent}
    (answering : Answering made routing log events) {call : PrebufferedCall}
    (fresh : call.rpcRequestId ∉ made.map PrebufferedCall.rpcRequestId)
    (silent : (events.filter fun event => event.requestId = some call.rpcRequestId) = [])
    (handlers : ∀ rpcRequestId : UInt32, next.responseHandlers[rpcRequestId]? =
      if call.rpcRequestId = rpcRequestId then some (.response made.length)
      else routing.responseHandlers[rpcRequestId]?)
    (flags : ∀ rpcRequestId : UInt32, next.prebufferingFlags[rpcRequestId]? =
      if call.rpcRequestId = rpcRequestId then some false
      else routing.prebufferingFlags[rpcRequestId]?) :
    Answering (made ++ [call]) next log events := by
  have split : ∀ {index : Nat} {other : PrebufferedCall}, (made ++ [call])[index]? = some other →
      made[index]? = some other ∨ index = made.length ∧ other = call := by
    intro index other found
    rcases Nat.lt_or_ge index made.length with inside | outside
    · rw [List.getElem?_append_left inside] at found
      exact .inl found
    · rw [List.getElem?_append_right outside, List.getElem?_singleton] at found
      split at found
      · exact .inr ⟨by omega, (Option.some.inj found).symm⟩
      · contradiction
  refine ⟨?_, ?_, ?_⟩
  · intro index other found
    rcases split found with early | ⟨rfl, rfl⟩
    · exact answering.told index other early
    · rw [silent]
      exact answering.unmade made.length (Nat.le_refl _)
  · intro index other found unended
    rw [handlers, flags]
    rcases split found with early | ⟨rfl, rfl⟩
    · have different : call.rpcRequestId ≠ other.rpcRequestId := by
        intro same
        exact fresh (same ▸ List.mem_map_of_mem (List.mem_of_getElem? early))
      rw [if_neg different, if_neg different]
      exact answering.ready index other early unended
    · rw [if_pos rfl, if_pos rfl]
      exact ⟨rfl, by simp⟩
  · intro index outside
    rw [List.length_append] at outside
    exact answering.unmade index (by omega)

end Answering

/-! ## Events of both kinds -/

/-- The events that are not those of own calls. -/
def requestsOf (made : List PrebufferedCall) (events : List RpcStreamEvent) :
    List RpcStreamEvent :=
  events.filter fun event =>
    decide (∀ call ∈ made, event.requestId ≠ some call.rpcRequestId)

theorem requestsOf_append (made : List PrebufferedCall) (first second : List RpcStreamEvent) :
    requestsOf made (first ++ second) = requestsOf made first ++ requestsOf made second :=
  List.filter_append ..

/-- The events of one request that is not an own call. -/
theorem requestsOf_filter {made : List PrebufferedCall} {rpcRequestId : UInt32}
    (foreign : rpcRequestId ∉ made.map PrebufferedCall.rpcRequestId)
    (events : List RpcStreamEvent) :
    ((requestsOf made events).filter fun event => event.requestId = some rpcRequestId) =
      events.filter fun event => event.requestId = some rpcRequestId := by
  rw [requestsOf, List.filter_filter]
  apply List.filter_congr
  intro event _
  by_cases named : event.requestId = some rpcRequestId
  · have others : ∀ call ∈ made, event.requestId ≠ some call.rpcRequestId := by
      intro call member same
      have sameId : call.rpcRequestId = rpcRequestId := Option.some.inj (same.symm.trans named)
      exact foreign (sameId ▸ List.mem_map_of_mem member)
    simp only [named, decide_true, Bool.true_and, decide_eq_true_eq]
    rw [named] at others
    exact others
  · simp [named]

theorem inMessages_requestsOf {events : List RpcStreamEvent} (inMessages : InMessages events)
    (made : List PrebufferedCall) : InMessages (requestsOf made events) where
  named event member := inMessages.named event (List.mem_of_mem_filter member)
  parts rpcRequestId := by
    by_cases own : rpcRequestId ∈ made.map PrebufferedCall.rpcRequestId
    · have nothing : ((requestsOf made events).filter fun event =>
          event.requestId = some rpcRequestId) = [] := by
        rw [List.filter_eq_nil_iff]
        intro event member named
        rcases List.mem_map.mp own with ⟨call, callMem, sameId⟩
        have foreign := of_decide_eq_true (List.mem_filter.mp member).2
        apply foreign call callMem
        rw [sameId]
        exact of_decide_eq_true named
      rcases inMessages.parts rpcRequestId with ⟨header, chunks, -⟩
      exact ⟨header, chunks, nothing ▸ List.nil_prefix⟩
    · rw [requestsOf_filter own]
      exact inMessages.parts rpcRequestId

/-- Events that a router leaves alone are handled as without it. -/
theorem Routing.onEvents_of_unoffered {H : Type u} {router : Option (StreamMethodRouter H)}
    (catchAll : Bool) (routing : Routing H) {events : List RpcStreamEvent}
    (unoffered : ∀ event ∈ events, offered router event = none) :
    routing.onEvents router catchAll events = routing.onEvents none catchAll events := by
  induction events generalizing routing with
  | nil => rfl
  | cons event rest ih =>
      have here : routing.onEvent router catchAll event = routing.onEvent none catchAll event := by
        have nothing : offered (none : Option (StreamMethodRouter H)) event = none := by
          cases event <;> rfl
        simp only [Routing.onEvent, Routing.route_of_unoffered routing nothing,
          Routing.route_of_unoffered routing (unoffered event List.mem_cons_self)]
      have later := ih (routing.onEvent none catchAll event).1
        fun other member => unoffered other (List.mem_cons_of_mem _ member)
      simp only [Routing.onEvents, here, later]

/-- An event has been caught or has gone to the response handler of a call. -/
def isPlain : Action (EndpointHandler Nat) → Bool
  | .caught _ => true
  | .invoked (.response _) _ => true
  | _ => false

/-- The routing of an end, which has been told these events, holds the response handlers of its
own calls, and nothing for requests of its peer. -/
structure Sorting (made : List PrebufferedCall) (routing : Routing (EndpointHandler Nat))
    (log : List (Action (EndpointHandler Nat))) (events : List RpcStreamEvent) : Prop where
  answering : Answering made routing log events
  foreign : ∀ rpcRequestId, rpcRequestId ∉ made.map PrebufferedCall.rpcRequestId →
    routing.slot rpcRequestId = Slot.empty

namespace Sorting

variable {made : List PrebufferedCall} {routing : Routing (EndpointHandler Nat)}
  {log : List (Action (EndpointHandler Nat))} {events : List RpcStreamEvent}

/-- An event of a request of the peer is caught. -/
theorem onRequest (sorting : Sorting made routing log events) {event : RpcStreamEvent}
    {rpcRequestId : UInt32} (named : event.requestId = some rpcRequestId)
    (isForeign : rpcRequestId ∉ made.map PrebufferedCall.rpcRequestId) :
    (routing.onEvent none true event).2 = [.caught event] ∧
      Sorting made (routing.onEvent none true event).1 (log ++ [.caught event])
        (events ++ [event]) := by
  rcases routing.onEvent_slot none true named with ⟨slotEq, actionsEq⟩
  rw [sorting.foreign rpcRequestId isForeign] at slotEq actionsEq
  have others : ∀ call ∈ made, event.requestId ≠ some call.rpcRequestId := by
    intro call member same
    have sameId : call.rpcRequestId = rpcRequestId := Option.some.inj (same.symm.trans named)
    exact isForeign (sameId ▸ List.mem_map_of_mem member)
  have emptyCaught : (Slot.empty : Slot (EndpointHandler Nat)).onEvent none true rpcRequestId
      event = (Slot.empty, [.caught event]) := by
    cases event <;> rfl
  rw [emptyCaught] at slotEq actionsEq
  refine ⟨actionsEq, ?_, ?_⟩
  · have unaffected : ∀ call ∈ made, ((events ++ [event]).filter fun event =>
        event.requestId = some call.rpcRequestId) =
          events.filter fun event => event.requestId = some call.rpcRequestId := by
      intro call member
      rw [List.filter_append, List.filter_cons_of_neg (by simpa using others call member),
        List.filter_nil, List.append_nil]
    constructor
    case told =>
      intro index call isMade
      rw [heard_append, heard_caught, List.append_nil,
        unaffected call (List.mem_of_getElem? isMade)]
      exact sorting.answering.told index call isMade
    case ready =>
      intro index call isMade goesOn
      have member := List.mem_of_getElem? isMade
      rw [unaffected call member] at goesOn
      have kept := routing.onEvent_slot_other none true (others call member)
      rcases sorting.answering.ready index call isMade goesOn with ⟨stored, plain⟩
      exact ⟨(congrArg Slot.handler kept).trans stored,
        fun flag => plain ((congrArg Slot.prebuffering kept).symm.trans flag)⟩
    case unmade =>
      intro index outside
      rw [heard_append, heard_caught, List.append_nil]
      exact sorting.answering.unmade index outside
  · intro other otherForeign
    by_cases same : rpcRequestId = other
    · rw [← same]
      exact slotEq
    · rw [routing.onEvent_slot_other none true
        (by rw [named]; exact fun equal => same (Option.some.inj equal))]
      exact sorting.foreign other otherForeign

/-- An event of the response to an own call goes to its handler. -/
theorem onResponse (sorting : Sorting made routing log events)
    (distinct : (made.map PrebufferedCall.rpcRequestId).Nodup) {index : Nat}
    {call : PrebufferedCall} (isMade : made[index]? = some call) {event : RpcStreamEvent}
    (named : event.requestId = some call.rpcRequestId) (noError : event.isError = false)
    (goesOn : (events.filter fun event => event.requestId = some call.rpcRequestId).any
      RpcStreamEvent.isEnd = false) :
    (routing.onEvent none true event).2 = [.invoked (.response index) event] ∧
      Sorting made (routing.onEvent none true event).1
        (log ++ [.invoked (.response index) event]) (events ++ [event]) := by
  rcases sorting.answering.onEvent distinct isMade named noError goesOn with ⟨actionsEq, next⟩
  refine ⟨actionsEq, next, ?_⟩
  intro other otherForeign
  rw [routing.onEvent_slot_other none true]
  · exact sorting.foreign other otherForeign
  · rw [named]
    intro same
    exact otherForeign (Option.some.inj same ▸ List.mem_map_of_mem (List.mem_of_getElem? isMade))

/-- One more event of whole messages. -/
theorem onEvent (sorting : Sorting made routing log events)
    (distinct : (made.map PrebufferedCall.rpcRequestId).Nodup) {event : RpcStreamEvent}
    {rest : List RpcStreamEvent} (noError : event.isError = false)
    (inMessages : InMessages (events ++ event :: rest)) :
    ∃ action, (routing.onEvent none true event).2 = [action] ∧
      Sorting made (routing.onEvent none true event).1 (log ++ [action]) (events ++ [event]) ∧
      [action].filterMap Action.caughtEvent = requestsOf made [event] ∧ isPlain action := by
  rcases Option.ne_none_iff_exists'.mp
    (inMessages.named event (List.mem_append_right _ List.mem_cons_self)) with
    ⟨rpcRequestId, named⟩
  by_cases own : rpcRequestId ∈ made.map PrebufferedCall.rpcRequestId
  · rcases List.mem_map.mp own with ⟨call, callMem, rfl⟩
    rcases List.mem_iff_getElem?.mp callMem with ⟨index, isMade⟩
    rcases sorting.onResponse distinct isMade named noError (inMessages.unended named) with
      ⟨actionsEq, next⟩
    have unasked : requestsOf made [event] = [] :=
      List.filter_cons_of_neg fun foreign => of_decide_eq_true foreign call callMem named
    exact ⟨_, actionsEq, next, unasked.symm, rfl⟩
  · rcases sorting.onRequest named own with ⟨actionsEq, next⟩
    have asked : requestsOf made [event] = [event] := by
      apply List.filter_cons_of_pos
      apply decide_eq_true
      intro call member same
      have sameId : call.rpcRequestId = rpcRequestId := Option.some.inj (same.symm.trans named)
      exact own (sameId ▸ List.mem_map_of_mem member)
    exact ⟨_, actionsEq, next, asked.symm, rfl⟩

/-- What a read of whole messages does. -/
theorem onEvents (sorting : Sorting made routing log events)
    (distinct : (made.map PrebufferedCall.rpcRequestId).Nodup) {more : List RpcStreamEvent}
    (noErrors : ∀ event ∈ more, event.isError = false)
    (inMessages : InMessages (events ++ more)) :
    let after := routing.onEvents none true more
    Sorting made after.1 (log ++ after.2) (events ++ more) ∧
      after.2.filterMap Action.caughtEvent = requestsOf made more ∧
      ∀ action ∈ after.2, isPlain action := by
  induction more generalizing routing log events with
  | nil =>
      rw [List.append_nil]
      refine ⟨by simpa [Routing.onEvents] using sorting, rfl, ?_⟩
      intro action member
      cases member
  | cons event rest ih =>
      rcases sorting.onEvent distinct (noErrors event List.mem_cons_self) inMessages with
        ⟨action, actionsEq, next, caught, plain⟩
      rw [List.append_cons] at inMessages ⊢
      rcases ih next (fun other member => noErrors other (List.mem_cons_of_mem _ member))
        inMessages with ⟨later, caughtLater, plainLater⟩
      simp only [Routing.onEvents, actionsEq]
      refine ⟨?_, ?_, ?_⟩
      · rw [← List.append_assoc]
        exact later
      · rw [List.filterMap_append, caughtLater, ← List.singleton_append (l := rest),
          requestsOf_append, caught]
      · intro other member
        rcases List.mem_append.mp member with here | there
        · rw [List.mem_singleton.mp here]
          exact plain
        · exact plainLater other there

end Sorting

/-- A call touches the routing of its own id only. -/
theorem call_slot_other {H : Type u} (dispatcher : RpcDispatcher H) {rpcRequestId : UInt32}
    (different : dispatcher.callId ≠ rpcRequestId) (rpcRequest : RpcRequest) (maxChunkSize : Nat)
    (onResponse : Option H) (prebufferResponse : Bool) (handedOut : Nat) :
    (dispatcher.call rpcRequest maxChunkSize onResponse prebufferResponse
      handedOut).dispatcher.routing.slot rpcRequestId = dispatcher.routing.slot rpcRequestId := by
  have sameHandler : (dispatcher.call rpcRequest maxChunkSize onResponse prebufferResponse
      handedOut).dispatcher.routing.responseHandlers[rpcRequestId]? =
        dispatcher.routing.responseHandlers[rpcRequestId]? := by
    rw [dispatcher.call_handlers, if_neg fun own => different own.1]
  have sameFlag : (dispatcher.call rpcRequest maxChunkSize onResponse prebufferResponse
      handedOut).dispatcher.routing.prebufferingFlags[rpcRequestId]? =
        dispatcher.routing.prebufferingFlags[rpcRequestId]? := by
    rw [dispatcher.call_flags, if_neg different]
  have sameBuffer : (dispatcher.call rpcRequest maxChunkSize onResponse prebufferResponse
      handedOut).dispatcher.routing.prebufferedResponses =
        dispatcher.routing.prebufferedResponses := by
    cases onResponse <;> rfl
  simp only [Routing.slot, sameHandler, sameFlag, sameBuffer]

end Muxio.Service
