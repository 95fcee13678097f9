import Muxio.Rpc.Gathering

/-!
# What a session keeps for a request

Opening a request stores its flag and its handler; the first event of a request
that prebuffers stores a buffer; an end removes all three.  So what is stored
for a request is read off from how it was opened and which of its events have
been processed since.

The handler of a request sees the same header and the same end whether or not
the response is prebuffered, and in between either the chunks one by one or
their concatenation.
-/

namespace Muxio.Rpc

open Std
open Muxio.Framing

universe u

/-! ## Runs of a session -/

/-- Opening a request sets its slot, when nothing was stored for it, and no other. -/
theorem RpcRespondableSession.initRespondableRequest_slot {H : Type u}
    (session : RpcRespondableSession H) (hdr : RpcHeader)
    (maxChunkSize : Nat) (onResponse : Option H) (prebufferResponse : Bool) (handedOut : Nat)
    (rpcId : UInt32) :
    (session.initRespondableRequest hdr maxChunkSize onResponse prebufferResponse
        handedOut).2.1.routing.slot rpcId =
      if hdr.rpcRequestId = rpcId then
        ⟨onResponse <|> (session.routing.slot rpcId).handler,
          (session.routing.slot rpcId).buffered, some prebufferResponse⟩
      else session.routing.slot rpcId := by
  by_cases same : hdr.rpcRequestId = rpcId
  · cases onResponse <;>
      simp [RpcRespondableSession.initRespondableRequest, Routing.slot, same]
  · cases onResponse <;>
      simp [RpcRespondableSession.initRespondableRequest, Routing.slot, same,
        ExtTreeMap.getElem?_insert]

/-- One operation on a session. -/
inductive SessionStep (H : Type u) where
  | initRespondableRequest (hdr : RpcHeader) (maxChunkSize : Nat) (onResponse : Option H)
      (prebufferResponse : Bool)
  | readBytes (bytes : List UInt8)

/-- What happens in a session: a request is opened, or an event is processed. -/
inductive SessionRecord (H : Type u) where
  | opened (rpcRequestId : UInt32) (onResponse : Option H) (prebufferResponse : Bool)
  | processed (event : RpcStreamEvent)

/-- A session, the process-wide id counter, and what has happened so far. -/
structure SessionRun (H : Type u) where
  session : RpcRespondableSession H
  handedOut : Nat
  record : List (SessionRecord H)

namespace SessionRun

variable {H : Type u}

/-- A new session without a router. -/
def start (idSpace : IdSpace) (catchAll : Bool) (handedOut : Nat) : SessionRun H :=
  let made := RpcRespondableSession.new idSpace handedOut
  ⟨if catchAll then made.1.setCatchAllResponseHandler else made.1, made.2, []⟩

def step (run : SessionRun H) : SessionStep H → SessionRun H
  | .initRespondableRequest hdr maxChunkSize onResponse prebufferResponse =>
      let opened := run.session.initRespondableRequest hdr maxChunkSize onResponse
        prebufferResponse run.handedOut
      ⟨opened.2.1, opened.2.2,
        run.record ++ [.opened hdr.rpcRequestId onResponse prebufferResponse]⟩
  | .readBytes bytes =>
      ⟨(run.session.readBytes bytes).2.1, run.handedOut,
        run.record ++ (run.session.rpcSession.decodeBytes bytes).1.map .processed⟩

def steps (run : SessionRun H) (ops : List (SessionStep H)) : SessionRun H := ops.foldl step run

end SessionRun

/-- The request that a step opens. -/
def SessionStep.openedId {H : Type u} : SessionStep H → Option UInt32
  | initRespondableRequest hdr _ _ _ => some hdr.rpcRequestId
  | readBytes _ => none

/-- How a request was opened, and its events that have been processed since. -/
structure Opening (H : Type u) where
  onResponse : Option H
  prebufferResponse : Bool
  events : List RpcStreamEvent

namespace Opening

variable {H : Type u}

/-- The event of a record, if it carries the given request id. -/
def eventOf (rpcId : UInt32) : SessionRecord H → Option RpcStreamEvent
  | .opened .. => none
  | .processed event => if event.requestId = some rpcId then some event else none

/-- The opening of a request in a record. -/
def find (rpcId : UInt32) : List (SessionRecord H) → Option (Opening H)
  | [] => none
  | .opened id onResponse prebufferResponse :: rest =>
      if id = rpcId then some ⟨onResponse, prebufferResponse, rest.filterMap (eventOf rpcId)⟩
      else find rpcId rest
  | .processed _ :: rest => find rpcId rest

/-- An end event has been processed since the request was opened. -/
def ended (opening : Opening H) : Bool := opening.events.any RpcStreamEvent.isEnd

/-- The payload bytes processed since the request was opened. -/
def bytes (opening : Opening H) : List UInt8 := opening.events.flatMap RpcStreamEvent.chunkBytes

/-- What is stored for a request right after it is opened. -/
def slot (opening : Opening H) : Slot H :=
  ⟨opening.onResponse, none, some opening.prebufferResponse⟩

theorem find_opened_other {rpcId id : UInt32} (different : id ≠ rpcId) (onResponse : Option H)
    (prebufferResponse : Bool) (record : List (SessionRecord H)) :
    find rpcId (record ++ [.opened id onResponse prebufferResponse]) = find rpcId record := by
  induction record with
  | nil => simp [find, different]
  | cons first rest ih =>
      cases first with
      | opened other otherResponse otherPrebuffer =>
          by_cases here : other = rpcId
          · simp [find, here, eventOf]
          · simp [find, here, ih]
      | processed event => exact ih

theorem find_opened_new {rpcId : UInt32} {record : List (SessionRecord H)}
    (isNew : find rpcId record = none) (onResponse : Option H) (prebufferResponse : Bool) :
    find rpcId (record ++ [.opened rpcId onResponse prebufferResponse]) =
      some ⟨onResponse, prebufferResponse, []⟩ := by
  induction record with
  | nil => simp [find]
  | cons first rest ih =>
      cases first with
      | opened other otherResponse otherPrebuffer =>
          by_cases here : other = rpcId
          · simp [find, here] at isNew
          · simp only [find, if_neg here] at isNew
            simp [find, here, ih isNew]
      | processed event => exact ih isNew

theorem find_processed (rpcId : UInt32) (events : List RpcStreamEvent) :
    find (H := H) rpcId (events.map .processed) = none := by
  induction events with
  | nil => rfl
  | cons event rest ih => exact ih

theorem find_append_processed (rpcId : UInt32) (events : List RpcStreamEvent)
    (record : List (SessionRecord H)) :
    find rpcId (record ++ events.map .processed) =
      (find rpcId record).map fun opening =>
        { opening with events := opening.events ++
            events.filter fun event => event.requestId = some rpcId } := by
  have named : (events.map SessionRecord.processed).filterMap (eventOf (H := H) rpcId) =
      events.filter fun event => event.requestId = some rpcId := by
    rw [List.filterMap_map, ← List.filterMap_eq_filter]
    apply List.filterMap_congr
    intro event _
    simp [eventOf, Option.guard]
  induction record with
  | nil => exact find_processed rpcId events
  | cons first rest ih =>
      cases first with
      | opened other otherResponse otherPrebuffer =>
          by_cases here : other = rpcId
          · simp [find, here, named]
          · simp [find, here, ih]
      | processed event => exact ih

end Opening

namespace SessionRun

variable {H : Type u}

/-- What is stored for each request follows from its opening and the events since. -/
structure Tracked (run : SessionRun H) : Prop where
  unrouted : run.session.streamMethodRouter = none
  unopened : ∀ rpcId, Opening.find rpcId run.record = none →
    run.session.routing.slot rpcId = Slot.empty
  opened : ∀ rpcId opening, Opening.find rpcId run.record = some opening →
    run.session.routing.slot rpcId =
      (opening.slot.onEvents none run.session.catchAllResponseHandler rpcId opening.events).1
  errorless : ∀ rpcId opening, Opening.find rpcId run.record = some opening →
    ∀ event ∈ opening.events, event.isError = false

theorem start_tracked (idSpace : IdSpace) (catchAll : Bool) (handedOut : Nat) :
    (start idSpace catchAll handedOut : SessionRun H).Tracked := by
  have router : (start idSpace catchAll handedOut : SessionRun H).session.streamMethodRouter =
      none := by
    cases catchAll <;> rfl
  have routing : (start idSpace catchAll handedOut : SessionRun H).session.routing =
      Routing.new := by
    cases catchAll <;> rfl
  constructor
  · exact router
  · intro rpcId _
    rw [routing, Routing.slot_new]
  · intro rpcId opening impossible
    contradiction
  · intro rpcId opening impossible
    contradiction

/-- A request that was not opened before. -/
theorem Tracked.init {run : SessionRun H} (tracked : run.Tracked) {hdr : RpcHeader}
    (isNew : Opening.find hdr.rpcRequestId run.record = none) (maxChunkSize : Nat)
    (onResponse : Option H) (prebufferResponse : Bool) :
    (run.step (.initRespondableRequest hdr maxChunkSize onResponse
      prebufferResponse)).Tracked := by
  have slots := run.session.initRespondableRequest_slot hdr maxChunkSize onResponse
    prebufferResponse run.handedOut
  constructor
  · exact tracked.unrouted
  · intro rpcId absent
    by_cases same : hdr.rpcRequestId = rpcId
    · subst same
      simp only [step, Opening.find_opened_new isNew] at absent
      contradiction
    · simp only [step, Opening.find_opened_other same] at absent
      exact (slots rpcId).trans ((if_neg same).trans (tracked.unopened rpcId absent))
  · intro rpcId opening found
    by_cases same : hdr.rpcRequestId = rpcId
    · subst same
      simp only [step, Opening.find_opened_new isNew] at found
      obtain rfl := Option.some.inj found
      refine (slots hdr.rpcRequestId).trans ?_
      rw [if_pos rfl, tracked.unopened _ isNew]
      cases onResponse <;> rfl
    · simp only [step, Opening.find_opened_other same] at found
      exact (slots rpcId).trans ((if_neg same).trans (tracked.opened rpcId opening found))
  · intro rpcId opening found
    by_cases same : hdr.rpcRequestId = rpcId
    · subst same
      simp only [step, Opening.find_opened_new isNew] at found
      obtain rfl := Option.some.inj found
      intro event member
      contradiction
    · simp only [step, Opening.find_opened_other same] at found
      exact tracked.errorless rpcId opening found

/-- A read of any bytes. -/
theorem Tracked.read {run : SessionRun H} (tracked : run.Tracked) (bytes : List UInt8) :
    (run.step (.readBytes bytes)).Tracked := by
  have slots : ∀ rpcId, (run.step (.readBytes bytes)).session.routing.slot rpcId =
      ((run.session.routing.slot rpcId).onEvents none run.session.catchAllResponseHandler rpcId
        ((run.session.rpcSession.decodeBytes bytes).1.filter fun event =>
          event.requestId = some rpcId)).1 := by
    intro rpcId
    simp only [step, RpcRespondableSession.readBytes_eq, tracked.unrouted]
    exact (Routing.onEvents_slot none _ _ _ rpcId).1
  have catchAll : (run.step (.readBytes bytes)).session.catchAllResponseHandler =
      run.session.catchAllResponseHandler := by
    simp only [step, RpcRespondableSession.readBytes_eq]
  constructor
  · simp only [step, RpcRespondableSession.readBytes_eq]
    exact tracked.unrouted
  · intro rpcId absent
    simp only [step, Opening.find_append_processed, Option.map_eq_none_iff] at absent
    rw [slots, tracked.unopened rpcId absent, Slot.onEvents_empty]
  · intro rpcId opening found
    simp only [step, Opening.find_append_processed] at found
    obtain ⟨before, foundBefore, rfl⟩ := Option.map_eq_some_iff.mp found
    rw [slots, tracked.opened rpcId before foundBefore, catchAll, Slot.onEvents_append]
    rfl
  · intro rpcId opening found
    simp only [step, Opening.find_append_processed] at found
    obtain ⟨before, foundBefore, rfl⟩ := Option.map_eq_some_iff.mp found
    intro event member
    rcases List.mem_append.mp member with early | late
    · exact tracked.errorless rpcId before foundBefore event early
    · obtain ⟨processed, isNamed⟩ := List.mem_filter.mp late
      have named := of_decide_eq_true isNamed
      apply Bool.eq_false_of_not_eq_true
      intro isError
      rw [RpcSession.decodeItems_error processed isError] at named
      contradiction

/-- Steps that open each request at most once. -/
theorem Tracked.steps {run : SessionRun H} (tracked : run.Tracked) {ops : List (SessionStep H)}
    (distinct : (ops.filterMap SessionStep.openedId).Nodup)
    (areNew : ∀ rpcId ∈ ops.filterMap SessionStep.openedId,
      Opening.find rpcId run.record = none) : (run.steps ops).Tracked := by
  induction ops generalizing run with
  | nil => exact tracked
  | cons op rest ih =>
      cases op with
      | initRespondableRequest hdr maxChunkSize onResponse prebufferResponse =>
          have opens : (SessionStep.initRespondableRequest hdr maxChunkSize onResponse
              prebufferResponse).openedId = some hdr.rpcRequestId := rfl
          rw [List.filterMap_cons_some opens] at distinct areNew
          rw [List.nodup_cons] at distinct
          have isNew := areNew hdr.rpcRequestId List.mem_cons_self
          apply ih (tracked.init isNew maxChunkSize onResponse prebufferResponse) distinct.2
          intro rpcId member
          have different : hdr.rpcRequestId ≠ rpcId := by
            rintro rfl
            exact distinct.1 member
          simp only [step, Opening.find_opened_other different]
          exact areNew rpcId (List.mem_cons_of_mem _ member)
      | readBytes bytes =>
          have opensNone : (SessionStep.readBytes bytes : SessionStep H).openedId = none := rfl
          rw [List.filterMap_cons_none opensNone] at distinct areNew
          apply ih (tracked.read bytes) distinct
          intro rpcId member
          simp only [step, Opening.find_append_processed, areNew rpcId member, Option.map_none]

/-- In every state between operations the tables hold exactly the requests that are open, with
the handlers they were opened with; a buffer belongs to a request that prebuffers and holds
its payload so far. -/
theorem per_request_state_exact (idSpace : IdSpace) (catchAll : Bool) (handedOut : Nat)
    (ops : List (SessionStep H)) (distinct : (ops.filterMap SessionStep.openedId).Nodup)
    (rpcId : UInt32) :
    let run := (start idSpace catchAll handedOut).steps ops
    (rpcId ∈ run.session.routing.prebufferingFlags ↔
      ∃ opening, Opening.find rpcId run.record = some opening ∧ opening.ended = false) ∧
    (rpcId ∈ run.session.routing.responseHandlers ↔
      ∃ opening, Opening.find rpcId run.record = some opening ∧ opening.ended = false ∧
        opening.onResponse.isSome = true) ∧
    (rpcId ∈ run.session.routing.prebufferedResponses →
      run.session.routing.prebufferingFlags[rpcId]? = some true) ∧
    ∀ bytes, run.session.routing.prebufferedResponses[rpcId]? = some bytes →
      ∃ opening, Opening.find rpcId run.record = some opening ∧ opening.ended = false ∧
        bytes = opening.bytes := by
  intro run
  have tracked : run.Tracked := by
    apply (start_tracked idSpace catchAll handedOut).steps distinct
    intro other _
    rfl
  have flags : run.session.routing.prebufferingFlags[rpcId]? =
      (run.session.routing.slot rpcId).prebuffering := rfl
  have handlers : run.session.routing.responseHandlers[rpcId]? =
      (run.session.routing.slot rpcId).handler := rfl
  have buffers : run.session.routing.prebufferedResponses[rpcId]? =
      (run.session.routing.slot rpcId).buffered := rfl
  simp only [ExtTreeMap.mem_iff_isSome_getElem?, flags, handlers, buffers]
  cases found : Opening.find rpcId run.record with
  | none =>
      rw [tracked.unopened rpcId found]
      simp [Slot.empty]
  | some opening =>
      have endings : (opening.events.any fun event => event.isEnd || event.isError) =
          opening.ended := by
        rw [Opening.ended, Bool.eq_iff_iff, List.any_eq_true, List.any_eq_true]
        constructor
        · rintro ⟨event, member, terminal⟩
          rw [tracked.errorless rpcId opening found event member, Bool.or_false] at terminal
          exact ⟨event, member, terminal⟩
        · rintro ⟨event, member, isEnd⟩
          exact ⟨event, member, by rw [isEnd, Bool.true_or]⟩
      have stored := tracked.opened rpcId opening found
      rw [stored, Slot.onEvents_prebuffering, Slot.onEvents_handler, Slot.onEvents_buffered,
        endings]
      cases ended : opening.ended with
      | true => simp [ended]
      | false =>
          simp only [Bool.false_eq_true, if_false, Opening.slot, Option.some.injEq]
          refine ⟨by simp [ended], by simp [ended], ?_, ?_⟩
          · intro buffered
            by_contra plain
            simp [plain] at buffered
          · intro bytes buffered
            refine ⟨opening, rfl, ended, ?_⟩
            split at buffered
            · exact (Option.some.inj buffered).symm
            · contradiction

/-- A prebuffered response that has not ended, and a request without a handler. -/
theorem per_request_state_exact_unfinished :
    let answer := (RpcStreamEncoder.new 9 64 ⟨.response, 1, 5, [0]⟩).andThen fun encoder =>
      (encoder.writeBytes [7, 8]).andThen FrameStreamEncoder.flush
    let ops : List (SessionStep Bool) :=
      [.initRespondableRequest ⟨.call, 1, 5, []⟩ 64 (some true) true,
        .initRespondableRequest ⟨.call, 3, 5, []⟩ 64 none false,
        .readBytes (frameBytes answer.frames)]
    let run := (start .client true 0).steps ops
    run.session.routing.prebufferedResponses[(1 : UInt32)]? = some [7, 8] ∧
      run.session.routing.prebufferingFlags[(1 : UInt32)]? = some true ∧
      ∃ opening, Opening.find 3 run.record = some opening ∧ opening.ended = false := by
  intro answer ops run
  have buffered : run.session.routing.prebufferedResponses[(1 : UInt32)]? = some [7, 8] := by
    decide +kernel
  have first := per_request_state_exact .client true 0 ops (by decide) 1
  have second := per_request_state_exact .client true 0 ops (by decide) 3
  refine ⟨buffered, first.2.2.1 ?_, second.1.mp ?_⟩
  · exact ExtTreeMap.mem_iff_isSome_getElem?.mpr (by rw [buffered]; rfl)
  · decide +kernel

end SessionRun

/-! ## Prebuffered and plain delivery -/

/-- The handler that an action calls, with the event it is given. -/
def Action.delivery {H : Type u} : Action H → Option (H × RpcStreamEvent)
  | invoked handler event => some (handler, event)
  | _ => none

/-- What is delivered to the handler of a request, in order. -/
def delivered {H : Type u} (rpcId : UInt32) (actions : List (Action H)) :
    List (H × RpcStreamEvent) :=
  (actions.filter fun action => action.requestId = some rpcId).filterMap Action.delivery

namespace Slot

variable {H : Type u} {router : Option (StreamMethodRouter H)} {catchAll : Bool} {rpcId : UInt32}
  {slot : Slot H} {handler : H}

/-- What the stored handler is given for an event. -/
def deliveries (slot : Slot H) (rpcId : UInt32) (event : RpcStreamEvent) : List RpcStreamEvent :=
  if slot.prebuffering = some true then
    match event with
    | .header .. => [event]
    | .end rpcHeader _ rpcMethodId =>
        [.payloadChunk rpcHeader rpcId rpcMethodId (slot.buffered.getD []), event]
    | _ => []
  else [event]

theorem settle_delivery (stored : slot.handler = some handler) (event : RpcStreamEvent) :
    (slot.settle catchAll rpcId event).2.filterMap Action.delivery =
      (slot.deliveries rpcId event).map (Prod.mk handler) := by
  have invoked : ∀ events, (slot.invoke events).filterMap Action.delivery =
      events.map (Prod.mk handler) := by
    intro events
    simp only [invoke, stored, List.filterMap_map]
    exact congrFun List.filterMap_eq_map' events
  have caught : (if catchAll then [Action.caught (H := H) event] else []).filterMap
      Action.delivery = [] := by
    cases catchAll <;> rfl
  unfold settle deliveries
  by_cases prebuffers : slot.prebuffering = some true
  · simp only [slot.prebuffering_iff.mpr prebuffers, if_true, if_pos prebuffers]
    cases event with
    | header => simp only [List.filterMap_append, invoked, caught, List.append_nil]
    | payloadChunk => exact caught
    | «end» => simp only [List.filterMap_append, invoked, caught, List.append_nil]
    | error => exact caught
  · simp only [if_neg (mt slot.prebuffering_iff.mp prebuffers), if_neg prebuffers, stored,
      Option.isSome_some, if_true, List.append_nil, invoked]

/-- The handler that a response header finds or brings with it. -/
def receiver (router : Option (StreamMethodRouter H)) (handler : H) (header : RpcHeader) : H :=
  (offered router header.headerEvent).getD handler

theorem route_header (router : Option (StreamMethodRouter H))
    (stored : slot.handler = some handler) (header : RpcHeader) :
    (slot.route router header.rpcRequestId header.headerEvent).1 =
        { slot with handler := some (receiver router handler header) } ∧
      (slot.route router header.rpcRequestId header.headerEvent).2.filterMap Action.delivery =
        [] := by
  cases routed : offered router header.headerEvent with
  | none =>
      rw [route_eq_self header.headerEvent_requestId routed, receiver, routed, Option.getD_none,
        ← stored]
      exact ⟨rfl, rfl⟩
  | some other =>
      have taken : (router.bind fun routerFn =>
          routerFn header.rpcMethodId header.rpcRequestId) = some other := routed
      simp only [route, RpcHeader.headerEvent, taken]
      rw [receiver, routed]
      exact ⟨rfl, rfl⟩

/-- A response header is delivered at once. -/
theorem onEvent_header (stored : slot.handler = some handler) (header : RpcHeader) :
    (slot.onEvent router catchAll header.rpcRequestId header.headerEvent).2.filterMap
        Action.delivery = [(receiver router handler header, header.headerEvent)] ∧
      (slot.onEvent router catchAll header.rpcRequestId header.headerEvent).1 =
        ⟨some (receiver router handler header),
          if slot.prebuffering = some true then some (slot.buffered.getD []) else slot.buffered,
          slot.prebuffering⟩ := by
  obtain ⟨routedSlot, undelivered⟩ := route_header router stored header
  simp only [onEvent, routedSlot, List.filterMap_append, undelivered, List.nil_append]
  constructor
  · rw [settle_delivery rfl]
    unfold deliveries
    split <;> rfl
  · rw [settle_tables]
    simp [RpcHeader.headerEvent, RpcStreamEvent.isEnd, RpcStreamEvent.isError,
      RpcStreamEvent.chunkBytes]

/-- A chunk of a prebuffered response goes into the buffer. -/
theorem onEvent_chunk (stored : slot.handler = some handler)
    (prebuffers : slot.prebuffering = some true) (header : RpcHeader) (payload : List UInt8) :
    (slot.onEvent router catchAll rpcId (header.chunkEvent payload)).2.filterMap
        Action.delivery = [] ∧
      (slot.onEvent router catchAll rpcId (header.chunkEvent payload)).1 =
        ⟨some handler, some (slot.buffered.getD [] ++ payload), some true⟩ := by
  have unrouted : slot.route router rpcId (header.chunkEvent payload) = (slot, []) := rfl
  simp only [onEvent, unrouted, List.nil_append]
  constructor
  · have held : slot.deliveries rpcId (header.chunkEvent payload) = [] := by
      simp only [deliveries, if_pos prebuffers, RpcHeader.chunkEvent]
    rw [settle_delivery stored, held, List.map_nil]
  · rw [settle_tables, if_pos prebuffers, stored, prebuffers]
    rfl

/-- A prebuffered payload is delivered joined, together with the end. -/
theorem onEvents_joined (stored : slot.handler = some handler)
    (prebuffers : slot.prebuffering = some true) (header : RpcHeader)
    (payloads : List (List UInt8)) :
    (slot.onEvents router catchAll header.rpcRequestId
        (payloads.map header.chunkEvent ++ [header.endEvent])).2.filterMap Action.delivery =
      [(handler, header.chunkEvent (slot.buffered.getD [] ++ payloads.flatten)),
        (handler, header.endEvent)] := by
  induction payloads generalizing slot with
  | nil =>
      have unrouted : slot.route router header.rpcRequestId header.endEvent = (slot, []) := rfl
      simp only [List.map_nil, List.nil_append, onEvents, onEvent, unrouted, List.append_nil,
        settle_delivery stored, deliveries, if_pos prebuffers, List.flatten_nil]
      rfl
  | cons payload rest ih =>
      obtain ⟨silent, next⟩ : _ ∧
          (slot.onEvent router catchAll header.rpcRequestId (header.chunkEvent payload)).1 = _ :=
        onEvent_chunk stored prebuffers header payload
      rw [List.map_cons, List.cons_append, onEvents]
      dsimp only
      rw [List.filterMap_append, silent, next, ih rfl rfl, Option.getD_some, List.append_assoc,
        List.flatten_cons]
      rfl

/-- The handler of a prebuffered response is given the header, the joined payload and the
end. -/
theorem onEvents_prebuffered (stored : slot.handler = some handler)
    (prebuffers : slot.prebuffering = some true) (unused : slot.buffered = none)
    (header : RpcHeader) (payloads : List (List UInt8)) :
    (slot.onEvents router catchAll header.rpcRequestId
        (header.streamEvents payloads)).2.filterMap Action.delivery =
      [header.headerEvent, header.chunkEvent payloads.flatten, header.endEvent].map
        (Prod.mk (receiver router handler header)) := by
  obtain ⟨first, next⟩ : _ ∧
      (slot.onEvent router catchAll header.rpcRequestId header.headerEvent).1 = _ :=
    onEvent_header stored header
  rw [if_pos prebuffers, unused, prebuffers] at next
  rw [RpcHeader.streamEvents, List.cons_append, onEvents]
  dsimp only
  rw [List.filterMap_append, first, next, onEvents_joined rfl rfl]
  rfl

/-- The handler of a plain response is given the events as they are. -/
theorem onEvents_unbuffered (stored : slot.handler = some handler)
    (plain : slot.prebuffering ≠ some true) (header : RpcHeader)
    (payloads : List (List UInt8)) :
    (slot.onEvents router catchAll header.rpcRequestId
        (header.streamEvents payloads)).2.filterMap Action.delivery =
      (header.streamEvents payloads).map (Prod.mk (receiver router handler header)) := by
  obtain ⟨first, next⟩ : _ ∧
      (slot.onEvent router catchAll header.rpcRequestId header.headerEvent).1 = _ :=
    onEvent_header stored header
  have claimed : (slot.onEvent router catchAll header.rpcRequestId
      header.headerEvent).1.handler = some (receiver router handler header) := by
    rw [next]
  have stillPlain : (slot.onEvent router catchAll header.rpcRequestId
      header.headerEvent).1.prebuffering ≠ some true := by
    rw [next]
    exact plain
  rw [RpcHeader.streamEvents, List.cons_append, onEvents]
  dsimp only
  rw [List.filterMap_append, first, onEvents_payload _ _ _ claimed stillPlain,
    List.filterMap_map, List.map_cons]
  exact congrArg _ (congrFun List.filterMap_eq_map' _)

end Slot

/-- A request that waits for its response. -/
structure PendingRequest (H : Type u) where
  header : RpcHeader
  maxChunkSize : Nat
  onResponse : Option H
  prebufferResponse : Bool

namespace PendingRequest

variable {H : Type u}

def rpcRequestId (request : PendingRequest H) : UInt32 := request.header.rpcRequestId

/-- The same request without prebuffering. -/
def plain (request : PendingRequest H) : PendingRequest H :=
  { request with prebufferResponse := false }

end PendingRequest

namespace RpcRespondableSession

variable {H : Type u}

/-- Open requests one after another. -/
def openAll (session : RpcRespondableSession H) (handedOut : Nat) :
    List (PendingRequest H) → RpcRespondableSession H
  | [] => session
  | request :: rest =>
      let opened := session.initRespondableRequest request.header request.maxChunkSize
        request.onResponse request.prebufferResponse handedOut
      openAll opened.2.1 opened.2.2 rest

/-- Successive reads; the caller goes on after an error. -/
def readAll (session : RpcRespondableSession H) :
    List (List UInt8) → RpcRespondableSession H × List (Action H)
  | [] => (session, [])
  | chunk :: rest =>
      let read := session.readBytes chunk
      let later := readAll read.2.1 rest
      (later.1, read.2.2 ++ later.2)

/-- Successive reads route the events of the underlying session, in order. -/
theorem readAll_eq (session : RpcRespondableSession H) (chunks : List (List UInt8)) :
    session.readAll chunks =
      ({ session with
          rpcSession := (session.rpcSession.decodeChunks chunks).2.2
          routing := (session.routing.onEvents session.streamMethodRouter
            session.catchAllResponseHandler (session.rpcSession.decodeChunks chunks).1).1 },
        (session.routing.onEvents session.streamMethodRouter session.catchAllResponseHandler
          (session.rpcSession.decodeChunks chunks).1).2) := by
  induction chunks generalizing session with
  | nil => rfl
  | cons chunk rest ih =>
      simp only [readAll, readBytes_eq, ih, RpcSession.decodeChunks, Routing.onEvents_append]

/-- Opening requests changes neither the router nor the catch-all nor what a read decodes. -/
theorem openAll_reads (session : RpcRespondableSession H) (handedOut : Nat)
    (requests : List (PendingRequest H)) :
    (session.openAll handedOut requests).streamMethodRouter = session.streamMethodRouter ∧
      (session.openAll handedOut requests).catchAllResponseHandler =
        session.catchAllResponseHandler ∧
      ∃ streamId, (session.openAll handedOut requests).rpcSession =
        { session.rpcSession with nextStreamId := streamId } := by
  induction requests generalizing session handedOut with
  | nil => exact ⟨rfl, rfl, session.rpcSession.nextStreamId, rfl⟩
  | cons request rest ih => exact ih _ _

theorem openAll_slot_other (session : RpcRespondableSession H)
    {requests : List (PendingRequest H)} {rpcId : UInt32}
    (absent : rpcId ∉ requests.map PendingRequest.rpcRequestId) (handedOut : Nat) :
    (session.openAll handedOut requests).routing.slot rpcId = session.routing.slot rpcId := by
  induction requests generalizing session handedOut with
  | nil => rfl
  | cons request rest ih =>
      rw [List.map_cons, List.mem_cons, not_or] at absent
      have different : request.header.rpcRequestId ≠ rpcId := Ne.symm absent.1
      rw [openAll, ih _ absent.2, initRespondableRequest_slot, if_neg different]

/-- Opening requests with distinct ids fills their slots. -/
theorem openAll_slot {session : RpcRespondableSession H} {requests : List (PendingRequest H)}
    (distinct : (requests.map PendingRequest.rpcRequestId).Nodup) {request : PendingRequest H}
    (member : request ∈ requests)
    (unused : session.routing.slot request.rpcRequestId = Slot.empty) (handedOut : Nat) :
    (session.openAll handedOut requests).routing.slot request.rpcRequestId =
      ⟨request.onResponse, none, some request.prebufferResponse⟩ := by
  induction requests generalizing session handedOut with
  | nil => contradiction
  | cons first rest ih =>
      rw [List.map_cons, List.nodup_cons] at distinct
      rcases List.mem_cons.mp member with rfl | later
      · have own : request.header.rpcRequestId = request.rpcRequestId := rfl
        rw [openAll, openAll_slot_other _ distinct.1, initRespondableRequest_slot, if_pos own,
          unused]
        cases request.onResponse <;> rfl
      · have different : first.header.rpcRequestId ≠ request.rpcRequestId := by
          intro same
          apply distinct.1
          rw [show first.rpcRequestId = request.rpcRequestId from same]
          exact List.mem_map_of_mem later
        apply ih distinct.2 later
        rw [initRespondableRequest_slot, if_neg different, unused]

end RpcRespondableSession

theorem RpcSession.decodeChunks_nextStreamId (session : RpcSession) (streamId : UInt32)
    (chunks : List (List UInt8)) :
    (RpcSession.decodeChunks { session with nextStreamId := streamId } chunks).1 =
      (session.decodeChunks chunks).1 := by
  induction chunks generalizing session with
  | nil => rfl
  | cons chunk rest ih =>
      exact congrArg ((session.decodeBytes chunk).1 ++ ·) (ih (session.decodeBytes chunk).2.2)

namespace RpcRespondableSession

variable {H : Type u}

/-- What reads deliver to a request and leave stored for it, once requests are opened. -/
theorem openAll_readAll {session : RpcRespondableSession H} {requests : List (PendingRequest H)}
    (distinct : (requests.map PendingRequest.rpcRequestId).Nodup) {request : PendingRequest H}
    (member : request ∈ requests)
    (unused : session.routing.slot request.rpcRequestId = Slot.empty) (handedOut : Nat)
    (chunks : List (List UInt8)) :
    let slot : Slot H := ⟨request.onResponse, none, some request.prebufferResponse⟩
    let events := (session.rpcSession.decodeChunks chunks).1.filter fun event =>
      event.requestId = some request.rpcRequestId
    let read := (session.openAll handedOut requests).readAll chunks
    delivered request.rpcRequestId read.2 =
        (slot.onEvents session.streamMethodRouter session.catchAllResponseHandler
          request.rpcRequestId events).2.filterMap Action.delivery ∧
      read.1.routing.slot request.rpcRequestId =
        (slot.onEvents session.streamMethodRouter session.catchAllResponseHandler
          request.rpcRequestId events).1 := by
  intro slot events read
  obtain ⟨router, catchAll, streamId, rpcSession⟩ := session.openAll_reads handedOut requests
  have opened := openAll_slot distinct member unused handedOut
  have routed := (session.openAll handedOut requests).routing.onEvents_slot
    session.streamMethodRouter session.catchAllResponseHandler
    (session.rpcSession.decodeChunks chunks).1 request.rpcRequestId
  rw [opened] at routed
  have readEq := (session.openAll handedOut requests).readAll_eq chunks
  rw [router, catchAll, rpcSession, RpcSession.decodeChunks_nextStreamId] at readEq
  simp only [read, readEq, delivered]
  constructor
  · rw [routed.2]
  · exact routed.1

/-- The handler of each pending request receives the same header and the same end, and between
them the payload chunks, or their concatenation as one chunk if the response is prebuffered; at
every moment before that, its buffer holds its own chunks so far. -/
theorem prebuffered_agrees_with_plain (session : RpcRespondableSession H)
    (requests : List (PendingRequest H))
    (distinct : (requests.map PendingRequest.rpcRequestId).Nodup) (request : PendingRequest H)
    (member : request ∈ requests)
    (unused : session.routing.slot request.rpcRequestId = Slot.empty)
    (handler : H) (registered : request.onResponse = some handler)
    (header : RpcHeader) (answers : header.rpcRequestId = request.rpcRequestId)
    (payloads : List (List UInt8)) (chunks : List (List UInt8))
    (inbound : ((session.rpcSession.decodeChunks chunks).1.filter fun event =>
      event.requestId = some request.rpcRequestId) = header.streamEvents payloads)
    (handedOut : Nat) :
    ∃ receiver, (offered session.streamMethodRouter header.headerEvent = none →
        receiver = handler) ∧
      delivered request.rpcRequestId ((session.openAll handedOut
          (requests.map PendingRequest.plain)).readAll chunks).2 =
        (header.streamEvents payloads).map (Prod.mk receiver) ∧
      delivered request.rpcRequestId ((session.openAll handedOut requests).readAll chunks).2 =
        (if request.prebufferResponse then
          [header.headerEvent, header.chunkEvent payloads.flatten, header.endEvent]
        else header.streamEvents payloads).map (Prod.mk receiver) ∧
      ∀ done later, chunks = done ++ later → ∀ bytes,
        ((session.openAll handedOut requests).readAll done).1.routing.prebufferedResponses[
          request.rpcRequestId]? = some bytes →
        bytes = ((session.rpcSession.decodeChunks done).1.filter fun event =>
          event.requestId = some request.rpcRequestId).flatMap RpcStreamEvent.chunkBytes := by
  have plainDistinct : ((requests.map PendingRequest.plain).map
      PendingRequest.rpcRequestId).Nodup := by
    rw [List.map_map]
    exact distinct
  have plainMember : request.plain ∈ requests.map PendingRequest.plain :=
    List.mem_map_of_mem member
  have plainRead := (openAll_readAll plainDistinct plainMember unused handedOut chunks).1
  have actualRead := (openAll_readAll distinct member unused handedOut chunks).1
  have plainId : request.plain.rpcRequestId = request.rpcRequestId := rfl
  rw [plainId, inbound, ← answers] at plainRead
  rw [inbound, ← answers] at actualRead
  refine ⟨Slot.receiver session.streamMethodRouter handler header, ?_, ?_, ?_, ?_⟩
  · intro unrouted
    rw [Slot.receiver, unrouted, Option.getD_none]
  · rw [← answers, plainRead]
    apply Slot.onEvents_unbuffered registered
    exact Bool.false_ne_true ∘ Option.some.inj
  · rw [← answers, actualRead]
    cases flag : request.prebufferResponse with
    | true =>
        rw [if_pos rfl]
        exact Slot.onEvents_prebuffered registered rfl rfl header payloads
    | false =>
        rw [if_neg Bool.false_ne_true]
        apply Slot.onEvents_unbuffered registered
        exact Bool.false_ne_true ∘ Option.some.inj
  · intro done later _ bytes buffered
    have stored := (openAll_readAll distinct member unused handedOut done).2
    have inBuffer := congrArg Slot.buffered stored
    rw [Slot.onEvents_buffered] at inBuffer
    rw [show ((session.openAll handedOut requests).readAll done).1.routing.prebufferedResponses[
      request.rpcRequestId]? = _ from inBuffer] at buffered
    split at buffered
    · contradiction
    · split at buffered
      · exact (Option.some.inj buffered).symm
      · contradiction

/-- Two interleaved responses, the first of them prebuffered. -/
theorem prebuffered_agrees_with_plain_interleaved :
    let session : RpcRespondableSession Bool := (new .client 0).1
    let requests : List (PendingRequest Bool) :=
      [⟨⟨.call, 1, 5, []⟩, 64, some true, true⟩, ⟨⟨.call, 3, 5, []⟩, 64, some false, false⟩]
    let answer (streamId requestId : UInt32) : List Frame :=
      ((RpcStreamEncoder.new streamId 20 ⟨.response, requestId, 5, [0]⟩).andThen fun encoder =>
        (encoder.writeBytes [7, 8]).andThen fun encoder => encoder.flush.andThen fun encoder =>
          (encoder.writeBytes [9]).andThen fun encoder => encoder.flush.andThen
            FrameStreamEncoder.endStream).frames
    let chunks :=
      [frameBytes ((answer 9 1).take 1 ++ answer 10 3), frameBytes ((answer 9 1).drop 1)]
    let header : RpcHeader := ⟨.response, 1, 5, [0]⟩
    delivered 1 ((session.openAll 0 requests).readAll chunks).2 =
      [(true, header.headerEvent), (true, header.chunkEvent [7, 8, 9]),
        (true, header.endEvent)] := by
  intro session requests answer chunks header
  have inbound : ((session.rpcSession.decodeChunks chunks).1.filter fun event =>
      event.requestId = some 1) = header.streamEvents [[7, 8], [9]] := by
    decide +kernel
  have agrees := prebuffered_agrees_with_plain session requests (by decide)
    ⟨⟨.call, 1, 5, []⟩, 64, some true, true⟩ (List.mem_cons_self ..) rfl true rfl header rfl
    [[7, 8], [9]] chunks inbound 0
  rcases agrees with ⟨receiver, unrouted, _, joined, _⟩
  rw [unrouted rfl] at joined
  exact joined

end RpcRespondableSession

end Muxio.Rpc
