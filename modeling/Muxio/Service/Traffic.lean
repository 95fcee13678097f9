import Muxio.Service.Endpoint

/-!
# What arriving bytes do to an endpoint

A read of an endpoint decodes bytes, routes the events, installs writers, collects
requests and sends responses.  Only the first two touch the decoders and the routing
tables, whether the read succeeds or fails.  An end that makes no calls of its own
therefore has, request by request, done exactly what the events of that request make
its routing slot do.
-/

namespace Muxio.Service

open Std
open Muxio.Framing
open Muxio.Rpc
open Muxio.Transition

universe u

/-! ## The part of a dispatcher that traffic drives -/

/-- Two dispatchers with the same configuration that have decoded and routed the same
bytes. -/
structure SameTraffic {H : Type u} (first second : RpcDispatcher H) : Prop where
  sameSetup : setup first = setup second
  routing : first.routing = second.routing
  mux : first.session.frameMuxStreamDecoder = second.session.frameMuxStreamDecoder
  decoders : first.session.rpcStreamDecoders = second.session.rpcStreamDecoders

namespace SameTraffic

variable {H : Type u}

theorem refl (dispatcher : RpcDispatcher H) : SameTraffic dispatcher dispatcher :=
  ⟨rfl, rfl, rfl, rfl⟩

theorem trans {first second third : RpcDispatcher H} (left : SameTraffic first second)
    (right : SameTraffic second third) : SameTraffic first third where
  sameSetup := left.sameSetup.trans right.sameSetup
  routing := left.routing.trans right.routing
  mux := left.mux.trans right.mux
  decoders := left.decoders.trans right.decoders

theorem installWriters (dispatcher : RpcDispatcher H) (handedOut : Nat)
    (responders : List StreamResponder) :
    SameTraffic (installWriters dispatcher handedOut responders).2.2.1 dispatcher := by
  induction responders generalizing dispatcher handedOut with
  | nil => exact refl dispatcher
  | cons responder rest ih => exact (ih _ _).trans ⟨rfl, rfl, rfl, rfl⟩

theorem collectFinalized (dispatcher : RpcDispatcher H) (ids : List UInt32) :
    SameTraffic (collectFinalized dispatcher ids).2 dispatcher := by
  induction ids generalizing dispatcher with
  | nil => exact refl dispatcher
  | cons id rest ih =>
      have deleted : SameTraffic (dispatcher.deleteRpcRequest id).2 dispatcher :=
        ⟨rfl, rfl, rfl, rfl⟩
      rw [Service.collectFinalized]
      split
      · split
        · rename_i request remaining deletes
          rw [deletes] at deleted
          exact (ih remaining).trans deleted
        · rename_i remaining deletes
          rw [deletes] at deleted
          exact (ih remaining).trans deleted
      · exact ih dispatcher

theorem sendResponses (dispatcher : RpcDispatcher H) (handedOut : Nat)
    (responses : List RpcResponse) :
    SameTraffic (sendResponses dispatcher handedOut responses).2.1 dispatcher := by
  induction responses generalizing dispatcher handedOut with
  | nil => exact refl dispatcher
  | cons response rest ih => exact (ih _ _).trans ⟨rfl, rfl, rfl, rfl⟩

end SameTraffic

namespace RpcServiceEndpoint

variable {R : Type u} (endpoint : RpcServiceEndpoint) (state : EndpointState R)
  (bytes : List UInt8) (handedOut : Nat)

theorem decodeBytes_traffic :
    SameTraffic (endpoint.decodeBytes state bytes handedOut).state.dispatcher
        ((endpoint.installRouter state).dispatcher.readBytes bytes).2.1 ∧
      (endpoint.decodeBytes state bytes handedOut).actions =
        ((endpoint.installRouter state).dispatcher.readBytes bytes).2.2 := by
  unfold decodeBytes
  simp only
  split
  · exact ⟨SameTraffic.refl _, rfl⟩
  · exact ⟨(SameTraffic.collectFinalized _ _).trans (SameTraffic.installWriters _ _ _), rfl⟩

/-- A read leaves the decoders and the routing as its events do. -/
theorem readBytes_traffic :
    SameTraffic (endpoint.readBytes state bytes handedOut).state.dispatcher
        ((endpoint.installRouter state).dispatcher.readBytes bytes).2.1 ∧
      (endpoint.readBytes state bytes handedOut).actions =
        ((endpoint.installRouter state).dispatcher.readBytes bytes).2.2 := by
  rcases endpoint.decodeBytes_traffic state bytes handedOut with ⟨same, actionsEq⟩
  unfold readBytes
  simp only
  split
  · exact ⟨same, actionsEq⟩
  · exact ⟨(SameTraffic.sendResponses _ _ _).trans same, actionsEq⟩

end RpcServiceEndpoint

/-! ## An end that only listens -/

/-- The events of one request. -/
def ofRequest (rpcRequestId : UInt32) (events : List RpcStreamEvent) : List RpcStreamEvent :=
  events.filter fun event => event.requestId = some rpcRequestId

/-- What the events of a request make its slot do when no call has been made under its
id. -/
def slotRun {R : Type u} (endpoint : RpcServiceEndpoint) (rpcRequestId : UInt32)
    (events : List RpcStreamEvent) :
    Slot (EndpointHandler R) × List (Action (EndpointHandler R)) :=
  Slot.empty.onEvents (some endpoint.router) true rpcRequestId (ofRequest rpcRequestId events)

/-- The routing and the log of an end with streaming methods that has made no call. -/
structure Listening {R : Type u} (endpoint : RpcServiceEndpoint) (state : EndpointState R)
    (log : List (Action (EndpointHandler R))) (arrived : List RpcStreamEvent) : Prop where
  slots : ∀ rpcRequestId,
    state.dispatcher.routing.slot rpcRequestId = (slotRun endpoint rpcRequestId arrived).1
  actions : ∀ rpcRequestId, (log.filter fun action => action.requestId = some rpcRequestId) =
    (slotRun endpoint rpcRequestId arrived).2
  answers : ∀ action ∈ log, ∃ event ∈ arrived, action.requestId = event.requestId

namespace Listening

variable {R : Type u} {endpoint : RpcServiceEndpoint} {state : EndpointState R}
  {log : List (Action (EndpointHandler R))} {arrived : List RpcStreamEvent}

theorem new (endpoint : RpcServiceEndpoint) (idSpace : IdSpace) (handedOut : Nat) :
    Listening endpoint (EndpointState.new (R := R) idSpace handedOut).1 [] [] where
  slots rpcRequestId := Routing.slot_new rpcRequestId
  actions _ := rfl
  answers _ member := absurd member List.not_mem_nil

theorem mem_onEvents {H : Type u} {router : Option (StreamMethodRouter H)} {catchAll : Bool}
    {routing : Routing H} {events : List RpcStreamEvent} {action : Action H}
    (member : action ∈ (routing.onEvents router catchAll events).2) :
    ∃ event ∈ events, action.requestId = event.requestId := by
  induction events generalizing routing with
  | nil => contradiction
  | cons event rest ih =>
      rcases List.mem_append.mp member with now | later
      · exact ⟨event, List.mem_cons_self, routing.onEvent_requestId router catchAll now⟩
      · rcases ih later with ⟨other, otherMem, named⟩
        exact ⟨other, List.mem_cons_of_mem _ otherMem, named⟩

/-- Arriving bytes add the events that they are decoded into. -/
theorem traffic (listening : Listening endpoint state log arrived)
    (streams : endpoint.streamHandlers.isEmpty = false) (bytes : List UInt8)
    {after : EndpointState R} {actions : List (Action (EndpointHandler R))}
    (same : SameTraffic after.dispatcher
      ((endpoint.installRouter state).dispatcher.readBytes bytes).2.1)
    (actionsEq : actions = ((endpoint.installRouter state).dispatcher.readBytes bytes).2.2) :
    Listening endpoint after (log ++ actions)
      (arrived ++ (state.dispatcher.session.decodeBytes bytes).1) := by
  let events := (state.dispatcher.session.decodeBytes bytes).1
  have routed : (endpoint.installRouter state).dispatcher.rpcRespondableSession.streamMethodRouter =
      some endpoint.router := by
    unfold RpcServiceEndpoint.installRouter
    rw [if_neg (by rw [streams]; decide)]
    rfl
  have runEq : (endpoint.installRouter state).dispatcher.actionsOf events =
      state.dispatcher.routing.onEvents (some endpoint.router) true events := by
    have catches : (endpoint.installRouter
      state).dispatcher.rpcRespondableSession.catchAllResponseHandler = true :=
        (endpoint.installRouter state).catchesAll
    rw [RpcDispatcher.actionsOf, routed, catches]
    exact congrArg (fun routing => Routing.onEvents _ _ routing events)
      (endpoint.installRouter_routing state)
  have readEq := (endpoint.installRouter state).dispatcher.readBytes_eq bytes
  rw [endpoint.installRouter_session state, runEq] at readEq
  have routingEq : after.dispatcher.routing =
      (state.dispatcher.routing.onEvents (some endpoint.router) true events).1 := by
    refine same.routing.trans ?_
    rw [readEq]
    exact congrArg Prod.fst runEq
  have logged : actions =
      (state.dispatcher.routing.onEvents (some endpoint.router) true events).2 := by
    rw [actionsEq, readEq]
  have whole : ∀ rpcRequestId, slotRun (R := R) endpoint rpcRequestId (arrived ++ events) =
      ((state.dispatcher.routing.slot rpcRequestId).onEvents (some endpoint.router) true
          rpcRequestId (ofRequest rpcRequestId events) |>.1,
        (slotRun endpoint rpcRequestId arrived).2 ++
          ((state.dispatcher.routing.slot rpcRequestId).onEvents (some endpoint.router) true
            rpcRequestId (ofRequest rpcRequestId events)).2) := by
    intro rpcRequestId
    rw [slotRun, ofRequest, List.filter_append, Slot.onEvents_append, listening.slots]
    rfl
  constructor
  case slots =>
    intro rpcRequestId
    rw [routingEq, whole]
    exact (Routing.onEvents_slot _ _ _ events rpcRequestId).1
  case actions =>
    intro rpcRequestId
    rw [List.filter_append, listening.actions, whole, logged]
    exact congrArg ((slotRun endpoint rpcRequestId arrived).2 ++ ·)
      (Routing.onEvents_slot _ _ _ events rpcRequestId).2
  case answers =>
    intro action member
    rcases List.mem_append.mp member with earlier | now
    · rcases listening.answers action earlier with ⟨event, eventMem, named⟩
      exact ⟨event, List.mem_append_left _ eventMem, named⟩
    · rcases mem_onEvents (logged ▸ now) with ⟨event, eventMem, named⟩
      exact ⟨event, List.mem_append_right _ eventMem, named⟩

theorem read (listening : Listening endpoint state log arrived)
    (streams : endpoint.streamHandlers.isEmpty = false) (bytes : List UInt8) (handedOut : Nat) :
    let read := endpoint.readBytes state bytes handedOut
    Listening endpoint read.state (log ++ read.actions)
      (arrived ++ (state.dispatcher.session.decodeBytes bytes).1) := by
  rcases endpoint.readBytes_traffic state bytes handedOut with ⟨same, actionsEq⟩
  exact listening.traffic streams bytes same actionsEq

end Listening

/-! ## The streaming handlers of such an end -/

/-- A slot calls the handler it had, or one that the router has given it. -/
theorem handler_of_invoked {H : Type u} {router : Option (StreamMethodRouter H)} {catchAll : Bool}
    {rpcId : UInt32} {slot : Slot H} {events : List RpcStreamEvent}
    (named : ∀ event ∈ events, event.requestId = some rpcId) {handler : H}
    {delivered : RpcStreamEvent}
    (member : .invoked handler delivered ∈ (slot.onEvents router catchAll rpcId events).2) :
    slot.handler = some handler ∨
      ∃ event ∈ events, offered router event = some handler := by
  induction events generalizing slot with
  | nil => contradiction
  | cons event rest ih =>
      have ownName := named event List.mem_cons_self
      have routedHandler : (slot.route router rpcId event).1.handler = some handler →
          slot.handler = some handler ∨ offered router event = some handler := by
        intro isHandler
        cases event with
        | header requestId methodId header =>
            obtain rfl : requestId = rpcId := Option.some.inj ownName
            cases offers : router.bind fun routerFn => routerFn methodId requestId with
            | none =>
                rw [Slot.route, offers] at isHandler
                exact .inl isHandler
            | some other =>
                rw [Slot.route, offers] at isHandler
                exact .inr (offers.trans isHandler)
        | _ => exact .inl isHandler
      have here : (slot.route router rpcId event).1.handler = some handler →
          slot.handler = some handler ∨
            ∃ other ∈ event :: rest, offered router other = some handler := by
        intro isHandler
        rcases routedHandler isHandler with stored | offers
        · exact .inl stored
        · exact .inr ⟨event, List.mem_cons_self, offers⟩
      rcases List.mem_append.mp member with now | later
      · rcases List.mem_append.mp now with routes | settles
        · rcases Slot.mem_route routes with ⟨_, _, differs⟩
          contradiction
        · rcases Slot.mem_settle ownName settles with ⟨other, _, stored, same, -⟩ | caught
          · cases same
            exact here stored
          · contradiction
      · rcases ih (fun other otherMem => named other (List.mem_cons_of_mem _ otherMem)) later with
          stored | ⟨other, otherMem, offers⟩
        · rw [Slot.onEvent_tables] at stored
          split at stored
          · contradiction
          · exact here stored
        · exact .inr ⟨other, List.mem_cons_of_mem _ otherMem, offers⟩

/-- Only streams of a method reach its handler. -/
theorem Listening.method_of_invoked {R : Type u} {endpoint : RpcServiceEndpoint}
    {state : EndpointState R} {log : List (Action (EndpointHandler R))}
    {arrived : List RpcStreamEvent} (listening : Listening endpoint state log arrived)
    {methodId : UInt64} {delivered : RpcStreamEvent} {rpcRequestId : UInt32}
    (member : .invoked (.stream methodId) delivered ∈ log)
    (named : delivered.requestId = some rpcRequestId) :
    ∃ header, .header rpcRequestId methodId header ∈ arrived := by
  have inSlot : Action.invoked (EndpointHandler.stream methodId) delivered ∈
      (slotRun (R := R) endpoint rpcRequestId arrived).2 := by
    rw [← listening.actions]
    exact List.mem_filter.mpr ⟨member, decide_eq_true named⟩
  have ownNames : ∀ event ∈ ofRequest rpcRequestId arrived, event.requestId = some rpcRequestId :=
    fun event eventMem => of_decide_eq_true (List.mem_filter.mp eventMem).2
  rcases handler_of_invoked ownNames inSlot with stored | ⟨event, eventMem, offers⟩
  · contradiction
  · have ownName := ownNames event eventMem
    have isArrived := List.mem_of_mem_filter eventMem
    cases event with
    | header requestId otherMethod header =>
        obtain rfl : requestId = rpcRequestId := Option.some.inj ownName
        have routes : endpoint.router (R := R) otherMethod requestId =
          some (.stream methodId) := offers
        unfold RpcServiceEndpoint.router at routes
        split at routes
        · cases routes
          exact ⟨header, isArrived⟩
        · contradiction
    | _ => contradiction

end Muxio.Service
