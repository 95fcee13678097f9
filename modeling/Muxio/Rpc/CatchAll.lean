import Muxio.Rpc.Prebuffering

/-!
# What the catch-all is given

The catch-all stands in for handlers that are not there: a request of the peer
has none, so its events reach the dispatcher's queue.  An event that a handler
takes is kept from the catch-all only if the request does not prebuffer.  The
events of a prebuffered response go to both, and the dispatcher queues the
response as if it were a request.
-/

namespace Muxio.Rpc

open Std
open Muxio.Framing

universe u

/-- The events of a request up to the one that ends it. -/
def untilTerminal : List RpcStreamEvent → List RpcStreamEvent
  | [] => []
  | event :: rest =>
      if event.isEnd || event.isError then [event] else event :: untilTerminal rest

namespace Slot

variable {H : Type u} {router : Option (StreamMethodRouter H)} {rpcId : UInt32} {slot : Slot H}

theorem caught_notMem_invoke (events : List RpcStreamEvent) (event : RpcStreamEvent) :
    Action.caught event ∉ slot.invoke events := by
  intro member
  rcases mem_invoke member with ⟨handler, _, other, _, isInvoked⟩
  contradiction

/-- Prebuffering leaves the event to the catch-all, whether or not a handler is stored. -/
theorem caught_mem_settle (event : RpcStreamEvent) :
    Action.caught event ∈ (slot.settle true rpcId event).2 ↔
      slot.prebuffering = some true ∨ slot.handler = none := by
  unfold settle
  by_cases prebuffers : slot.prebuffering = some true
  · simp only [prebuffers, true_or, iff_true]
    cases event with
    | header => exact List.mem_append_right _ (List.mem_singleton_self _)
    | payloadChunk => exact List.mem_singleton_self _
    | «end» => exact List.mem_append_right _ (List.mem_singleton_self _)
    | error => exact List.mem_singleton_self _
  · simp only [if_neg (mt slot.prebuffering_iff.mp prebuffers), prebuffers, false_or,
      List.mem_append, caught_notMem_invoke]
    cases slot.handler with
    | none => simp
    | some handler => simp

theorem caught_mem_onEvent (event : RpcStreamEvent) :
    Action.caught event ∈ (slot.onEvent router true rpcId event).2 ↔
      slot.prebuffering = some true ∨ (slot.route router rpcId event).1.handler = none := by
  rw [onEvent, List.mem_append, caught_mem_settle, (slot.route_tables router rpcId event).1,
    or_iff_right]
  intro member
  rcases mem_route member with ⟨rpcMethodId, handler, isRouted⟩
  contradiction

theorem route_handler_eq_none {event : RpcStreamEvent} (named : event.requestId = some rpcId) :
    (slot.route router rpcId event).1.handler = none ↔
      slot.handler = none ∧ offered router event = none := by
  cases event with
  | header requestId rpcMethodId rpcHeader =>
      rw [show requestId = rpcId from Option.some.inj named]
      cases routed : router.bind fun routerFn => routerFn rpcMethodId rpcId with
      | none => simp only [route, offered, routed, and_true]
      | some handler => simp only [route, offered, routed, reduceCtorEq, and_false]
  | payloadChunk => exact (and_iff_left rfl).symm
  | «end» => exact (and_iff_left rfl).symm
  | error => exact (and_iff_left rfl).symm

end Slot

namespace Routing

variable {H : Type u} (router : Option (StreamMethodRouter H)) (catchAll : Bool)

/-- A property of every event in the state in which it is processed. -/
def AtEach (property : Routing H → RpcStreamEvent → Prop) :
    Routing H → List RpcStreamEvent → Prop
  | _, [] => True
  | routing, event :: rest =>
      property routing event ∧ AtEach property (routing.onEvent router catchAll event).1 rest

/-- A handler is registered for the request of an event.  The router has been consulted. -/
def Claimed (rpcId : UInt32) (routing : Routing H) (event : RpcStreamEvent) : Prop :=
  event.requestId = some rpcId → rpcId ∈ (routing.route router event).1.responseHandlers

/-- The catch-all is given an event exactly if no handler is registered for its request. -/
def FallsBack (rpcId : UInt32) (routing : Routing H) (event : RpcStreamEvent) : Prop :=
  event.requestId = some rpcId →
    (.caught event ∈ (routing.onEvent router catchAll event).2 ↔
      rpcId ∉ (routing.route router event).1.responseHandlers)

variable {router} {catchAll} {rpcId : UInt32} {routing : Routing H}

theorem notMem_route_responseHandlers {event : RpcStreamEvent}
    (named : event.requestId = some rpcId) :
    rpcId ∉ (routing.route router event).1.responseHandlers ↔
      routing.responseHandlers[rpcId]? = none ∧ offered router event = none := by
  have routed : (routing.route router event).1.responseHandlers[rpcId]? =
      ((routing.slot rpcId).route router rpcId event).1.handler :=
    congrArg Slot.handler (routing.route_slot router named).1
  rw [ExtTreeMap.mem_iff_isSome_getElem?, Option.not_isSome_iff_eq_none, routed,
    Slot.route_handler_eq_none named]
  exact Iff.rfl

/-- A request that prebuffers falls back only if it has no handler. -/
theorem fallsBack_iff {event : RpcStreamEvent} (named : event.requestId = some rpcId) :
    FallsBack router true rpcId routing event ↔
      (routing.prebufferingFlags[rpcId]? = some true →
        routing.responseHandlers[rpcId]? = none ∧ offered router event = none) := by
  have caught : .caught event ∈ (routing.onEvent router true event).2 ↔
      routing.prebufferingFlags[rpcId]? = some true ∨
        rpcId ∉ (routing.route router event).1.responseHandlers := by
    rw [(routing.onEvent_slot router true named).2, Slot.caught_mem_onEvent,
      Slot.route_handler_eq_none named, notMem_route_responseHandlers named]
    exact Iff.rfl
  rw [FallsBack, caught, ← notMem_route_responseHandlers named]
  constructor
  · intro law prebuffers
    exact (law named).mp (Or.inl prebuffers)
  · intro law _
    exact or_iff_right_of_imp law

/-- Whether every event of a request falls back can be told from what is stored before the first
of them. -/
theorem atEach_fallsBack_iff (events : List RpcStreamEvent) :
    AtEach router true (FallsBack router true rpcId) routing events ↔
      (routing.prebufferingFlags[rpcId]? = some true →
        ∀ event ∈ untilTerminal (events.filter fun event => event.requestId = some rpcId),
          routing.responseHandlers[rpcId]? = none ∧ offered router event = none) := by
  induction events generalizing routing with
  | nil => simp [AtEach, untilTerminal]
  | cons event rest ih =>
      rw [AtEach, ih]
      by_cases named : event.requestId = some rpcId
      · have next := (routing.onEvent_slot router true named).1
        rw [Slot.onEvent_tables] at next
        rw [fallsBack_iff named, List.filter_cons_of_pos (by simpa using named), untilTerminal]
        cases terminal : event.isEnd || event.isError with
        | true =>
            rw [terminal, if_pos rfl] at next
            have flags : (routing.onEvent router true event).1.prebufferingFlags[rpcId]? = none :=
              congrArg Slot.prebuffering next
            simp [flags]
        | false =>
            rw [terminal, if_neg Bool.false_ne_true] at next
            have flags : (routing.onEvent router true event).1.prebufferingFlags[rpcId]? =
              routing.prebufferingFlags[rpcId]? := congrArg Slot.prebuffering next
            have handlers : (routing.onEvent router true event).1.responseHandlers[rpcId]? =
              ((routing.slot rpcId).route router rpcId event).1.handler :=
                congrArg Slot.handler next
            rw [flags, handlers, if_neg Bool.false_ne_true, List.forall_mem_cons]
            constructor
            · rintro ⟨first, later⟩ prebuffers
              refine ⟨first prebuffers, ?_⟩
              intro other member
              exact ⟨(first prebuffers).1, (later prebuffers other member).2⟩
            · intro all
              constructor
              · intro prebuffers
                exact (all prebuffers).1
              · intro prebuffers other member
                exact ⟨(Slot.route_handler_eq_none named).mpr (all prebuffers).1,
                  ((all prebuffers).2 other member).2⟩
      · have unaffected := routing.onEvent_slot_other router true named
        have flags := congrArg Slot.prebuffering unaffected
        have handlers := congrArg Slot.handler unaffected
        simp only [slot] at flags handlers
        rw [List.filter_cons_of_neg (by simpa using named), flags, handlers, and_iff_right]
        exact fun isNamed => absurd isNamed named

/-- The catch-all is given nothing of a request whose handler takes every event. -/
theorem caught_notMem_onEvents {events : List RpcStreamEvent}
    (fallsBack : AtEach router catchAll (FallsBack router catchAll rpcId) routing events)
    (claimed : AtEach router catchAll (Claimed router rpcId) routing events)
    {event : RpcStreamEvent} (named : event.requestId = some rpcId) :
    .caught event ∉ (routing.onEvents router catchAll events).2 := by
  induction events generalizing routing with
  | nil => exact List.not_mem_nil
  | cons first rest ih =>
      intro member
      rcases List.mem_append.mp member with now | later
      · have firstNamed : first.requestId = some rpcId := by
          rw [← named]
          exact (routing.onEvent_requestId router catchAll now).symm
        have own : event = first := by
          rw [(routing.onEvent_slot router catchAll firstNamed).2] at now
          rcases List.mem_append.mp now with routed | settled
          · rcases Slot.mem_route routed with ⟨rpcMethodId, handler, isRouted⟩
            contradiction
          · rcases Slot.mem_settle firstNamed settled with
              ⟨handler, delivered, _, isInvoked, _⟩ | same
            · contradiction
            · exact Action.caught.inj same
        rw [own] at now
        exact (fallsBack.1 firstNamed).mp now (claimed.1 firstNamed)
      · exact ih fallsBack.2 claimed.2 later

end Routing

/-- Actions that hand the catch-all nothing of a request leave its part of the queue alone. -/
theorem RequestQueue.replay_ofRequest {H : Type u} (queue : RequestQueue)
    {actions : List (Action H)} {rpcId : UInt32}
    (uncaught : ∀ event : RpcStreamEvent, event.requestId = some rpcId →
      .caught event ∉ actions) :
    (queue.replay actions).ofRequest rpcId = queue.ofRequest rpcId := by
  have nothing : ((actions.filterMap Action.caughtEvent).filter fun event =>
      event.requestId = some rpcId) = [] := by
    rw [List.filter_eq_nil_iff]
    intro event member named
    rcases List.mem_filterMap.mp member with ⟨action, actionMem, isCaught⟩
    cases action with
    | caught other =>
        rw [Option.some.inj isCaught] at actionMem
        exact uncaught event (of_decide_eq_true named) actionMem
    | routed => contradiction
    | invoked => contradiction
  rw [replay_eq_foldl, foldl_onEvent_ofRequest, nothing, List.foldl_nil]

namespace RpcDispatcher

variable {H : Type u}

/-- The ids that a read returns are those of the queue at that point. -/
theorem readChunks_returned (dispatcher : RpcDispatcher H) (chunks : List (List UInt8))
    {ids : List UInt32} (returned : .ok ids ∈ (dispatcher.readChunks chunks).1) :
    ∃ earlier later, (dispatcher.readChunks chunks).2.2 = earlier ++ later ∧
      ids = (dispatcher.rpcRequestQueue.replay earlier).map Prod.fst := by
  induction chunks generalizing dispatcher with
  | nil => contradiction
  | cons chunk rest ih =>
      rcases List.mem_cons.mp returned with now | afterwards
      · refine ⟨(dispatcher.readBytes chunk).2.2, _, rfl, ?_⟩
        simp only [readBytes] at now
        cases read : (dispatcher.rpcRespondableSession.readBytes chunk).1 with
        | error =>
            rw [read] at now
            contradiction
        | ok =>
            rw [read] at now
            exact Except.ok.inj now
      · obtain ⟨earlier, later, split, own⟩ := ih _ afterwards
        refine ⟨(dispatcher.readBytes chunk).2.2 ++ earlier, later, ?_, ?_⟩
        · rw [readChunks, split, List.append_assoc]
        · rw [RequestQueue.replay_append]
          exact own

/-- A handler is registered for a request at each of its events. -/
def Consumed (dispatcher : RpcDispatcher H) (chunks : List (List UInt8)) (rpcId : UInt32) : Prop :=
  dispatcher.routing.AtEach dispatcher.rpcRespondableSession.streamMethodRouter
    dispatcher.rpcRespondableSession.catchAllResponseHandler
    (Routing.Claimed dispatcher.rpcRespondableSession.streamMethodRouter rpcId)
    (dispatcher.session.decodeChunks chunks).1

/-- For one request, reads use the catch-all only in place of a missing handler. -/
structure OnlyFallback (dispatcher : RpcDispatcher H) (chunks : List (List UInt8))
    (rpcId : UInt32) : Prop where
  fallsBack : dispatcher.routing.AtEach dispatcher.rpcRespondableSession.streamMethodRouter
    dispatcher.rpcRespondableSession.catchAllResponseHandler
    (Routing.FallsBack dispatcher.rpcRespondableSession.streamMethodRouter
      dispatcher.rpcRespondableSession.catchAllResponseHandler rpcId)
    (dispatcher.session.decodeChunks chunks).1
  unqueued : dispatcher.Consumed chunks rpcId →
    (dispatcher.readChunks chunks).2.1.rpcRequestQueue.ofRequest rpcId =
      dispatcher.rpcRequestQueue.ofRequest rpcId
  unreturned : dispatcher.Consumed chunks rpcId →
    ∀ ids, .ok ids ∈ (dispatcher.readChunks chunks).1 → rpcId ∈ ids →
      rpcId ∈ dispatcher.rpcRequestQueue.map Prod.fst

/-- The catch-all is only a fallback for a request exactly if the request does not prebuffer, or
has no handler from its first event to its last. -/
theorem catch_all_only_fallback_iff (dispatcher : RpcDispatcher H)
    (catchesAll : dispatcher.rpcRespondableSession.catchAllResponseHandler = true)
    (chunks : List (List UInt8)) (rpcId : UInt32) :
    dispatcher.OnlyFallback chunks rpcId ↔
      (dispatcher.routing.prebufferingFlags[rpcId]? = some true →
        ∀ event ∈ untilTerminal ((dispatcher.session.decodeChunks chunks).1.filter fun event =>
            event.requestId = some rpcId),
          dispatcher.routing.responseHandlers[rpcId]? = none ∧
            offered dispatcher.rpcRespondableSession.streamMethodRouter event = none) := by
  rw [← Routing.atEach_fallsBack_iff]
  constructor
  · intro only
    have fallsBack := only.fallsBack
    rw [catchesAll] at fallsBack
    exact fallsBack
  · intro fallsBack
    rw [← catchesAll] at fallsBack
    have read := (dispatcher.readChunks_eq chunks).2
    have uncaught : dispatcher.Consumed chunks rpcId → ∀ event : RpcStreamEvent,
        event.requestId = some rpcId → .caught event ∉ (dispatcher.readChunks chunks).2.2 := by
      intro consumed event named
      rw [read]
      exact Routing.caught_notMem_onEvents fallsBack consumed named
    constructor
    · exact fallsBack
    · intro consumed
      have uncaughtHere := uncaught consumed
      rw [read] at uncaughtHere ⊢
      exact RequestQueue.replay_ofRequest _ uncaughtHere
    · intro consumed ids returned member
      obtain ⟨earlier, later, split, own⟩ := dispatcher.readChunks_returned chunks returned
      have untouched : (dispatcher.rpcRequestQueue.replay earlier).ofRequest rpcId =
          dispatcher.rpcRequestQueue.ofRequest rpcId := by
        apply RequestQueue.replay_ofRequest
        intro event named inEarlier
        apply uncaught consumed event named
        rw [split]
        exact List.mem_append_left _ inEarlier
      rw [own] at member
      rcases List.mem_map.mp member with ⟨entry, entryMem, entryId⟩
      have inPart : entry ∈ (dispatcher.rpcRequestQueue.replay earlier).ofRequest rpcId :=
        List.mem_filter.mpr ⟨entryMem, decide_eq_true entryId⟩
      rw [untouched] at inPart
      exact List.mem_map.mpr ⟨entry, List.mem_of_mem_filter inPart, entryId⟩

/-- The response to a plain call stays out of the queue. -/
theorem catch_all_only_fallback_plain : (callOfFive none false).OnlyFallback [answerToOne] 1 := by
  apply (catch_all_only_fallback_iff (callOfFive none false) (by decide) [answerToOne] 1).mpr
  intro prebuffers
  have plain : (callOfFive none false).routing.prebufferingFlags[(1 : UInt32)]? = some false := by
    decide
  rw [plain] at prebuffers
  contradiction

/-- The response to a prebuffered call goes to its handler and into the queue. -/
theorem prebuffered_response_is_queued :
    let header : RpcHeader := ⟨.response, 1, 5, [0]⟩
    let read := (callOfFive none true).readChunks [answerToOne]
    (callOfFive none true).rpcRequestQueue = [] ∧
      read.2.2 = [.invoked true header.headerEvent, .caught header.headerEvent,
        .caught (header.chunkEvent [9]), .invoked true (header.chunkEvent [9]),
        .invoked true header.endEvent, .caught header.endEvent] ∧
      read.2.1.rpcRequestQueue = [(1, ⟨5, some [0], some [9], true⟩)] ∧
      read.1 = [.ok [1]] ∧
      ¬ (callOfFive none true).OnlyFallback [answerToOne] 1 := by
  refine ⟨by decide, by decide, by decide, by decide, ?_⟩
  intro only
  have law := (Routing.atEach_fallsBack_iff _).mp only.fallsBack (by decide)
  have first := law (RpcHeader.headerEvent ⟨.response, 1, 5, [0]⟩) (by decide)
  have stored : (callOfFive none true).routing.responseHandlers[(1 : UInt32)]? = some true := by
    decide
  rw [stored] at first
  exact absurd first.1 (Option.some_ne_none _)

end RpcDispatcher

end Muxio.Rpc
