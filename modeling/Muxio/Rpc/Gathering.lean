import Muxio.Rpc.Handlers

/-!
# Requests that no handler takes

The catch-all gathers what no handler takes, and a gathered request that has
ended waits to be collected.  Seen from one request, a read either leaves the
request uncollectable or not, and what decides is the stored handler, the
router, and the order of headers and ends.
-/

namespace Muxio.Rpc

open Std

universe u

/-! ## Gathering one request -/

/-- What the catch-all makes of an event, seen from the request it names. -/
def RpcRequest.gather (entry : Option RpcRequest) : RpcStreamEvent → Option RpcRequest
  | .header _ _ rpcHeader =>
      entry <|> some ⟨rpcHeader.rpcMethodId,
        if rpcHeader.rpcMetadataBytes.isEmpty then none else some rpcHeader.rpcMetadataBytes, none,
        false⟩
  | .payloadChunk _ _ _ bytes =>
      entry.map fun request =>
        { request with
          rpcPrebufferedPayloadBytes :=
            some (request.rpcPrebufferedPayloadBytes.getD [] ++ bytes) }
  | .end .. => entry.map fun request => { request with isFinalized := true }
  | .error .. => entry

/-- The event an action gives to the catch-all. -/
def Action.caughtEvent {H : Type u} : Action H → Option RpcStreamEvent
  | caught event => some event
  | _ => none

namespace RequestQueue

theorem find_update (id rpcRequestId : UInt32) (change : RpcRequest → RpcRequest)
    (queue : RequestQueue) :
    (update id change queue).find rpcRequestId =
      if id = rpcRequestId then (queue.find rpcRequestId).map change
      else queue.find rpcRequestId := by
  induction queue with
  | nil => simp [update, find]
  | cons entry rest ih =>
      rcases entry with ⟨entryId, request⟩
      unfold find at ih ⊢
      by_cases here : entryId = id
      · subst here
        by_cases same : entryId = rpcRequestId <;> simp [update, same]
      · by_cases selected : entryId = rpcRequestId
        · subst selected
          simp [update, here, Ne.symm here]
        · simp [update, here, selected, ih]

theorem find_append (first second : RequestQueue) (rpcRequestId : UInt32) :
    find (first ++ second) rpcRequestId =
      (first.find rpcRequestId <|> second.find rpcRequestId) := by
  unfold find
  rw [List.find?_append]
  cases List.find? (fun entry => entry.1 = rpcRequestId) first <;> simp

/-- An event changes what is found of the request it names. -/
theorem find_onEvent (queue : RequestQueue) (event : RpcStreamEvent) (rpcRequestId : UInt32) :
    (queue.onEvent event).find rpcRequestId =
      if event.requestId = some rpcRequestId then RpcRequest.gather (queue.find rpcRequestId) event
      else queue.find rpcRequestId := by
  cases event with
  | header id methodId rpcHeader =>
      rw [onEvent, find_append]
      by_cases same : id = rpcRequestId
      · simp [find, RpcStreamEvent.requestId, RpcRequest.gather, same]
      · simp [find, RpcStreamEvent.requestId, same]
  | payloadChunk rpcHeader id methodId bytes =>
      simp only [onEvent, find_update, RpcStreamEvent.requestId, Option.some.injEq,
        RpcRequest.gather]
  | «end» rpcHeader id methodId =>
      simp only [onEvent, find_update, RpcStreamEvent.requestId, Option.some.injEq,
        RpcRequest.gather]
  | error => simp [onEvent, RpcRequest.gather]

theorem find_foldl_onEvent (queue : RequestQueue) (events : List RpcStreamEvent)
    (rpcRequestId : UInt32) :
    (events.foldl onEvent queue).find rpcRequestId =
      (events.filter fun event => event.requestId = some rpcRequestId).foldl RpcRequest.gather
        (queue.find rpcRequestId) := by
  induction events generalizing queue with
  | nil => rfl
  | cons event rest ih =>
      rw [List.foldl_cons, ih, find_onEvent]
      by_cases named : event.requestId = some rpcRequestId
      · rw [if_pos named, List.filter_cons_of_pos (by simpa using named), List.foldl_cons]
      · rw [if_neg named, List.filter_cons_of_neg (by simpa using named)]

theorem replay_eq_foldl {H : Type u} (queue : RequestQueue) (actions : List (Action H)) :
    queue.replay actions = (actions.filterMap Action.caughtEvent).foldl onEvent queue := by
  induction actions generalizing queue with
  | nil => rfl
  | cons action rest ih =>
      cases action with
      | caught event => exact ih _
      | routed => exact ih _
      | invoked => exact ih _

/-- The actions of a read change what is found of a request only by what the
catch-all gets of it. -/
theorem find_replay {H : Type u} (queue : RequestQueue) (actions : List (Action H))
    (rpcRequestId : UInt32) :
    (queue.replay actions).find rpcRequestId =
      ((actions.filter fun action => action.requestId = some rpcRequestId).filterMap
        Action.caughtEvent).foldl RpcRequest.gather (queue.find rpcRequestId) := by
  have sameEvents : ((actions.filterMap Action.caughtEvent).filter fun event =>
      event.requestId = some rpcRequestId) =
        (actions.filter fun action => action.requestId = some rpcRequestId).filterMap
          Action.caughtEvent := by
    rw [List.filter_filterMap, List.filterMap_filter]
    apply List.filterMap_congr
    intro action _
    cases action with
    | caught event =>
        by_cases named : event.requestId = some rpcRequestId
        · simp [Action.caughtEvent, Action.requestId, named]
        · simp [Action.caughtEvent, Action.requestId, named]
    | routed => simp [Action.caughtEvent]
    | invoked => simp [Action.caughtEvent]
  rw [replay_eq_foldl, find_foldl_onEvent, sameEvents]

end RequestQueue

/-- A request that waits to be collected. -/
def RpcRequest.Collectable (entry : Option RpcRequest) : Prop :=
  entry.map RpcRequest.isFinalized = some true

namespace RpcRequest

variable {entry : Option RpcRequest}

theorem Collectable.gather (collectable : Collectable entry) (event : RpcStreamEvent) :
    Collectable (gather entry event) := by
  cases entry with
  | none => contradiction
  | some request => cases event <;> first | rfl | exact collectable

theorem Collectable.foldl (collectable : Collectable entry) (events : List RpcStreamEvent) :
    Collectable (events.foldl RpcRequest.gather entry) := by
  induction events generalizing entry with
  | nil => exact collectable
  | cons event rest ih => exact ih (collectable.gather event)

theorem gather_isSome (present : entry.isSome) (event : RpcStreamEvent) :
    (gather entry event).isSome := by
  cases entry with
  | none => contradiction
  | some request => cases event <;> rfl

/-- An end makes a request collectable. -/
theorem collectable_of_end {events : List RpcStreamEvent} (present : entry.isSome)
    (ends : ∃ event ∈ events, event.isEnd = true) :
    Collectable (events.foldl gather entry) := by
  induction events generalizing entry with
  | nil => simp at ends
  | cons event rest ih =>
      rcases ends with ⟨last, member, isEnd⟩
      rcases List.mem_cons.mp member with rfl | later
      · rw [List.foldl_cons]
        apply Collectable.foldl
        cases last with
        | «end» =>
            cases entry with
            | none => contradiction
            | some request => rfl
        | _ => contradiction
      · exact ih (gather_isSome present event) ⟨last, later, isEnd⟩

/-- Every header is followed by an end. -/
def HeadersEnd (events : List RpcStreamEvent) : Prop :=
  ∀ before event after, events = before ++ event :: after → event.isHeader = true →
    ∃ last ∈ after, last.isEnd = true

theorem HeadersEnd.suffix {first second : List RpcStreamEvent}
    (headersEnd : HeadersEnd (first ++ second)) : HeadersEnd second := by
  rintro before event after rfl isHeader
  exact headersEnd (first ++ before) event after (List.append_assoc ..).symm isHeader

theorem collectable_of_header {events : List RpcStreamEvent} (headersEnd : HeadersEnd events)
    (announced : ∃ event ∈ events, event.isHeader = true) :
    Collectable (events.foldl gather entry) := by
  rcases announced with ⟨event, member, isHeader⟩
  rcases List.append_of_mem member with ⟨before, after, rfl⟩
  have ends := headersEnd before event after rfl isHeader
  rw [List.foldl_append, List.foldl_cons]
  refine collectable_of_end ?_ ends
  cases event with
  | header => cases before.foldl gather entry <;> rfl
  | _ => contradiction

theorem not_collectable_foldl {events : List RpcStreamEvent} (uncollectable : ¬ Collectable entry)
    (harmless : ∀ event ∈ events, event.isHeader = false ∧ (event.isEnd = true → entry = none)) :
    ¬ Collectable (events.foldl gather entry) := by
  induction events generalizing entry with
  | nil => exact uncollectable
  | cons event rest ih =>
      rcases harmless event (List.mem_cons_self ..) with ⟨notHeader, endless⟩
      have absent : entry = none → gather entry event = none := by
        rintro rfl
        cases event with
        | header => contradiction
        | _ => rfl
      refine ih ?_ ?_
      · cases event with
        | header => contradiction
        | payloadChunk => cases entry <;> exact uncollectable
        | «end» =>
            rw [absent (endless rfl)]
            rw [endless rfl] at uncollectable
            exact uncollectable
        | error => exact uncollectable
      · intro other member
        have restHarmless := harmless other (List.mem_cons_of_mem _ member)
        exact ⟨restHarmless.1, fun isEnd => absent (restHarmless.2 isEnd)⟩

/-- A request stays uncollectable exactly when no header arrives, and no end for
a request already in the queue. -/
theorem not_collectable_foldl_iff {events : List RpcStreamEvent} (headersEnd : HeadersEnd events) :
    ¬ Collectable (events.foldl gather entry) ↔
      ¬ Collectable entry ∧ ∀ event ∈ events,
        event.isHeader = false ∧ (event.isEnd = true → entry = none) := by
  constructor
  · intro uncollectable
    refine ⟨fun collectable => uncollectable (collectable.foldl events), ?_⟩
    intro event member
    constructor
    · apply Bool.eq_false_of_not_eq_true
      intro isHeader
      exact uncollectable (collectable_of_header headersEnd ⟨event, member, isHeader⟩)
    · intro isEnd
      by_contra present
      exact uncollectable (collectable_of_end (Option.isSome_iff_ne_none.mpr present)
        ⟨event, member, isEnd⟩)
  · rintro ⟨uncollectable, harmless⟩
    exact not_collectable_foldl uncollectable harmless

end RpcRequest

/-! ## What reaches the catch-all -/

/-- The handler that the router offers for an event. -/
def offered {H : Type u} (router : Option (StreamMethodRouter H)) : RpcStreamEvent → Option H
  | .header rpcRequestId rpcMethodId _ =>
      router.bind fun routerFn => routerFn rpcMethodId rpcRequestId
  | _ => none

/-- The events after the first terminal one. -/
def afterTerminal : List RpcStreamEvent → List RpcStreamEvent
  | [] => []
  | event :: rest => if event.isEnd || event.isError then rest else afterTerminal rest

theorem afterTerminal_suffix (events : List RpcStreamEvent) :
    ∃ front, events = front ++ afterTerminal events := by
  induction events with
  | nil => exact ⟨[], rfl⟩
  | cons event rest ih =>
      rw [afterTerminal]
      split
      · exact ⟨[event], rfl⟩
      · rcases ih with ⟨front, restEq⟩
        exact ⟨event :: front, congrArg (List.cons event) restEq⟩

namespace Slot

section Caught

variable {H : Type u} {router : Option (StreamMethodRouter H)} {rpcId : UInt32} {slot : Slot H}

theorem route_eq_self {event : RpcStreamEvent} (named : event.requestId = some rpcId)
    (unrouted : offered router event = none) : slot.route router rpcId event = (slot, []) := by
  cases event with
  | header requestId methodId rpcHeader =>
      rw [show requestId = rpcId from Option.some.inj named] at unrouted
      simp only [route, show (router.bind fun routerFn => routerFn methodId rpcId) = none from
        unrouted]
  | payloadChunk => rfl
  | «end» => rfl
  | error => rfl

/-- The handler offered by the router is called with the header. -/
theorem onEvent_offered {catchAll : Bool} {event : RpcStreamEvent}
    (named : event.requestId = some rpcId) {handler : H}
    (routed : offered router event = some handler) :
    .invoked handler event ∈ (slot.onEvent router catchAll rpcId event).2 := by
  cases event with
  | header requestId methodId rpcHeader =>
      rw [show requestId = rpcId from Option.some.inj named] at routed ⊢
      have routedEq : (router.bind fun routerFn => routerFn methodId rpcId) = some handler := routed
      simp only [onEvent, route, routedEq]
      by_cases flag : slot.prebuffering.getD false
      · simp [settle, flag, invoke]
      · simp [settle, flag, invoke]
  | _ => contradiction

theorem settle_handler {catchAll : Bool} {event : RpcStreamEvent} {handler : H}
    (kept : (slot.settle catchAll rpcId event).1.handler = some handler) :
    slot.handler = some handler := by
  unfold settle at kept
  simp only at kept
  split at kept
  · cases event with
    | header => exact kept
    | payloadChunk => exact kept
    | «end» => contradiction
    | error => contradiction
  · split at kept
    · contradiction
    · exact kept

/-- A slot whose events reach the catch-all. -/
def Leaks (slot : Slot H) : Prop := slot.handler = none ∨ slot.prebuffering = some true

theorem leaks_empty : (empty : Slot H).Leaks := Or.inl rfl

theorem settle_leaks (rpcId : UInt32) (leaks : slot.Leaks) (event : RpcStreamEvent) :
    (slot.settle true rpcId event).2.filterMap Action.caughtEvent = [event] ∧
      (slot.settle true rpcId event).1.Leaks := by
  have invoked : ∀ events, (slot.invoke events).filterMap Action.caughtEvent = [] := by
    intro events
    unfold invoke
    cases slot.handler with
    | none => rfl
    | some handler => simp [List.filterMap_map, Function.comp_def, Action.caughtEvent]
  have caught : [Action.caught (H := H) event].filterMap Action.caughtEvent = [event] := rfl
  by_cases flag : slot.prebuffering.getD false
  · have prebuffers : slot.prebuffering = some true := by
      cases stored : slot.prebuffering with
      | none => simp [stored] at flag
      | some value => simpa [stored] using flag
    simp only [settle, flag, if_true]
    cases event with
    | header =>
        simp only [List.filterMap_append, invoked, caught, List.nil_append]
        exact ⟨trivial, Or.inr prebuffers⟩
    | payloadChunk => exact ⟨caught, Or.inr prebuffers⟩
    | «end» =>
        simp only [List.filterMap_append, invoked, caught, List.nil_append]
        exact ⟨trivial, leaks_empty⟩
    | error => exact ⟨caught, leaks_empty⟩
  · have unstored : slot.handler = none := by
      rcases leaks with unstored | prebuffers
      · exact unstored
      · rw [prebuffers] at flag
        exact absurd rfl flag
    simp only [settle, if_neg flag, List.filterMap_append, invoked, unstored]
    refine ⟨caught, ?_⟩
    split
    · exact leaks_empty
    · exact Or.inl unstored

/-- The catch-all gets all events of a request that leaks. -/
theorem onEvents_leaks (leaks : slot.Leaks) {events : List RpcStreamEvent}
    (named : ∀ event ∈ events, event.requestId = some rpcId)
    (unrouted : ∀ event ∈ events, offered router event = none) :
    (slot.onEvents router true rpcId events).2.filterMap Action.caughtEvent = events := by
  induction events generalizing slot with
  | nil => rfl
  | cons event rest ih =>
      rcases settle_leaks rpcId leaks event with ⟨caughtNow, leaksAfter⟩
      have routeEq : slot.route router rpcId event = (slot, []) :=
        route_eq_self (named event (List.mem_cons_self ..))
          (unrouted event (List.mem_cons_self ..))
      have restCaught := ih leaksAfter
        (fun other member => named other (List.mem_cons_of_mem _ member))
        (fun other member => unrouted other (List.mem_cons_of_mem _ member))
      simp only [onEvents, onEvent, routeEq, List.filterMap_append, caughtNow, restCaught,
        List.nil_append, List.singleton_append]

/-- Of a request with a plain handler the catch-all gets what follows the first
terminal event. -/
theorem onEvents_claimed {handler : H} (stored : slot.handler = some handler)
    (plain : slot.prebuffering ≠ some true) {events : List RpcStreamEvent}
    (named : ∀ event ∈ events, event.requestId = some rpcId)
    (unrouted : ∀ event ∈ events, offered router event = none) :
    (slot.onEvents router true rpcId events).2.filterMap Action.caughtEvent =
      afterTerminal events := by
  induction events with
  | nil => rfl
  | cons event rest ih =>
      have restNamed : ∀ other ∈ rest, other.requestId = some rpcId := fun other member =>
        named other (List.mem_cons_of_mem _ member)
      have restUnrouted : ∀ other ∈ rest, offered router other = none := fun other member =>
        unrouted other (List.mem_cons_of_mem _ member)
      have step := onEvent_plain router true rpcId stored plain
        (route_eq_self (named event (List.mem_cons_self ..))
          (unrouted event (List.mem_cons_self ..)))
      rw [onEvents, afterTerminal]
      simp only [step, List.filterMap_append]
      split
      · exact onEvents_leaks leaks_empty restNamed restUnrouted
      · exact ih restNamed restUnrouted

/-- Without a router only the handler that is stored is called. -/
theorem onEvents_invoked {catchAll : Bool} {events : List RpcStreamEvent}
    (named : ∀ event ∈ events, event.requestId = some rpcId)
    (unrouted : ∀ event ∈ events, offered router event = none) {handler : H}
    {event : RpcStreamEvent}
    (member : .invoked handler event ∈ (slot.onEvents router catchAll rpcId events).2) :
    slot.handler = some handler := by
  induction events generalizing slot with
  | nil => contradiction
  | cons first rest ih =>
      have firstNamed := named first (List.mem_cons_self ..)
      have routeEq : slot.route router rpcId first = (slot, []) :=
        route_eq_self firstNamed (unrouted first (List.mem_cons_self ..))
      rcases List.mem_append.mp member with now | later
      · simp only [onEvent, routeEq, List.nil_append] at now
        rcases mem_settle firstNamed now with ⟨_, _, stored, actionEq, -⟩ | caught
        · cases actionEq
          exact stored
        · contradiction
      · have kept := ih (fun other member => named other (List.mem_cons_of_mem _ member))
          (fun other member => unrouted other (List.mem_cons_of_mem _ member)) later
        simp only [onEvent, routeEq] at kept
        exact settle_handler kept

theorem onEvents_offered {catchAll : Bool} {events : List RpcStreamEvent}
    (named : ∀ event ∈ events, event.requestId = some rpcId) {event : RpcStreamEvent}
    (member : event ∈ events) {handler : H} (routed : offered router event = some handler) :
    .invoked handler event ∈ (slot.onEvents router catchAll rpcId events).2 := by
  induction events generalizing slot with
  | nil => contradiction
  | cons first rest ih =>
      apply List.mem_append.mpr
      rcases List.mem_cons.mp member with rfl | later
      · exact Or.inl (onEvent_offered (named event (List.mem_cons_self ..)) routed)
      · exact Or.inr
          (ih (fun other otherMem => named other (List.mem_cons_of_mem _ otherMem)) later)

/-- The events of a request leave it uncollectable and reach no handler of a
given kind exactly when the router stays silent, a plain handler of another kind
is stored, and after the first terminal event there is neither another header
nor an end for a request in the queue.  The router is one that offers handlers
of the given kind only. -/
theorem absorbed_iff {kind : H → Prop}
    (offersKind : ∀ event handler, offered router event = some handler → kind handler)
    {events : List RpcStreamEvent} (named : ∀ event ∈ events, event.requestId = some rpcId)
    (headersEnd : RpcRequest.HeadersEnd events)
    (announced : ∀ event rest, events = event :: rest → event.isHeader = true)
    (entry : Option RpcRequest) :
    ((∀ handler event, .invoked handler event ∈ (slot.onEvents router true rpcId events).2 →
          ¬ kind handler) ∧
        ¬ RpcRequest.Collectable (((slot.onEvents router true rpcId events).2.filterMap
          Action.caughtEvent).foldl RpcRequest.gather entry)) ↔
      ¬ RpcRequest.Collectable entry ∧
        (∀ event ∈ events, offered router event = none ∧
          (∃ handler, slot.handler = some handler ∧ ¬ kind handler) ∧
          slot.prebuffering ≠ some true) ∧
        ∀ event ∈ afterTerminal events,
          event.isHeader = false ∧ (event.isEnd = true → entry = none) := by
  cases events with
  | nil => simp [onEvents, afterTerminal]
  | cons first rest =>
      have isHeader := announced first rest rfl
      rcases afterTerminal_suffix (first :: rest) with ⟨front, suffix⟩
      constructor
      · rintro ⟨quiet, uncollectable⟩
        have unrouted : ∀ event ∈ first :: rest, offered router event = none := by
          intro event member
          cases routed : offered router event with
          | none => rfl
          | some handler =>
              exact absurd (offersKind event handler routed)
                (quiet handler event (onEvents_offered named member routed))
        have claimed : ¬ slot.Leaks := by
          intro leaks
          rw [onEvents_leaks leaks named unrouted] at uncollectable
          exact uncollectable (RpcRequest.collectable_of_header headersEnd
            ⟨first, List.mem_cons_self .., isHeader⟩)
        rcases not_or.mp claimed with ⟨handled, plain⟩
        rcases Option.ne_none_iff_exists'.mp handled with ⟨handler, stored⟩
        have step := onEvent_plain router true rpcId stored plain
          (route_eq_self (named first (List.mem_cons_self ..))
            (unrouted first (List.mem_cons_self ..)))
        have notKind : ¬ kind handler := quiet handler first (by simp [onEvents, step])
        rw [onEvents_claimed stored plain named unrouted,
          RpcRequest.not_collectable_foldl_iff (suffix ▸ headersEnd).suffix] at uncollectable
        exact ⟨uncollectable.1, fun event member =>
          ⟨unrouted event member, ⟨handler, stored, notKind⟩, plain⟩, uncollectable.2⟩
      · rintro ⟨uncollectable, absorbed, harmless⟩
        have unrouted : ∀ event ∈ first :: rest, offered router event = none := fun event member =>
          (absorbed event member).1
        rcases absorbed first (List.mem_cons_self ..) with ⟨-, ⟨handler, stored, notKind⟩, plain⟩
        constructor
        · intro invoked event member
          have sameHandler := onEvents_invoked named unrouted member
          rw [stored, Option.some.injEq] at sameHandler
          exact sameHandler ▸ notKind
        · rw [onEvents_claimed stored plain named unrouted]
          exact RpcRequest.not_collectable_foldl uncollectable harmless

end Caught

end Slot

/-- A handler that the router supplies is called with the header at once. -/
theorem Routing.onEvents_routed {H : Type u} {router : Option (StreamMethodRouter H)}
    {catchAll : Bool} {routing : Routing H} {events : List RpcStreamEvent} {rpcMethodId : UInt64}
    {rpcRequestId : UInt32} {handler : H}
    (member : .routed rpcMethodId rpcRequestId handler ∈
      (routing.onEvents router catchAll events).2) :
    ∃ event, offered router event = some handler ∧
      .invoked handler event ∈ (routing.onEvents router catchAll events).2 := by
  induction events generalizing routing with
  | nil => contradiction
  | cons first rest ih =>
      rcases List.mem_append.mp member with here | later
      · cases named : first.requestId with
        | none =>
            simp only [routing.onEvent_unnamed router catchAll named] at here
            split at here
            · simp at here
            · contradiction
        | some rpcId =>
            have actionsEq := (routing.onEvent_slot router catchAll named).2
            rw [actionsEq] at here
            rcases List.mem_append.mp here with routed | settled
            · have routedHere : offered router first = some handler := by
                cases first with
                | header requestId methodId rpcHeader =>
                    cases named
                    unfold Slot.route at routed
                    simp only at routed
                    split at routed
                    · rename_i offer offerEq
                      cases List.mem_singleton.mp routed
                      exact offerEq
                    · contradiction
                | _ => contradiction
              refine ⟨first, routedHere, List.mem_append_left _ ?_⟩
              rw [actionsEq]
              exact Slot.onEvent_offered named routedHere
            · rcases Slot.mem_settle named settled with ⟨_, _, -, actionEq, -⟩ | actionEq
              · contradiction
              · contradiction
      · rcases ih later with ⟨event, offer, invoked⟩
        exact ⟨event, offer, List.mem_append_right _ invoked⟩

end Muxio.Rpc
