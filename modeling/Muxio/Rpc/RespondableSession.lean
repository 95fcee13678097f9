import Muxio.Rpc.Session

/-!
# Sessions that route events to handlers

`RpcRespondableSession` keeps a response handler per request id and hands it the
events that carry that id.  A stream method router may install a handler when a
header arrives, prebuffering may hold the payload back until the end, and what
no handler takes goes to the catch-all.

Handlers are opaque here: a session stores their names, and a read returns the
actions it performed, in order, instead of running code.
-/

namespace Muxio.Rpc

open Std
open Muxio.Framing

universe u

/-- What the event callback of a session does to the outside. -/
inductive Action (H : Type u) where
  /-- The router supplied a handler for a stream. -/
  | routed (rpcMethodId : UInt64) (rpcRequestId : UInt32) (handler : H)
  /-- A stored handler was called. -/
  | invoked (handler : H) (event : RpcStreamEvent)
  /-- The catch-all handler was called. -/
  | caught (event : RpcStreamEvent)
  deriving DecidableEq, Repr

/-- The request an action is about. -/
def Action.requestId {H : Type u} : Action H → Option UInt32
  | routed _ rpcRequestId _ => some rpcRequestId
  | invoked _ event => event.requestId
  | caught event => event.requestId

/-- The tables of a session that are keyed by request id. -/
structure Routing (H : Type u) where
  responseHandlers : ExtTreeMap UInt32 H compare
  prebufferedResponses : ExtTreeMap UInt32 (List UInt8) compare
  prebufferingFlags : ExtTreeMap UInt32 Bool compare

/-- A router for streaming methods. -/
abbrev StreamMethodRouter (H : Type u) := UInt64 → UInt32 → Option H

namespace Routing

variable {H : Type u}

def new : Routing H := ⟨∅, ∅, ∅⟩

/-- Drop everything stored for a request. -/
def forget (routing : Routing H) (rpcId : UInt32) : Routing H where
  responseHandlers := routing.responseHandlers.erase rpcId
  prebufferedResponses := routing.prebufferedResponses.erase rpcId
  prebufferingFlags := routing.prebufferingFlags.erase rpcId

/-- Whether the response of a request is to be prebuffered. -/
def isPrebuffering (routing : Routing H) (rpcId : UInt32) : Bool :=
  routing.prebufferingFlags[rpcId]?.getD false

/-- Consult the router on a header; its handler replaces whatever is stored. -/
def route (router : Option (StreamMethodRouter H)) (routing : Routing H) :
    RpcStreamEvent → Routing H × List (Action H)
  | .header rpcRequestId rpcMethodId _ =>
      match router.bind fun routerFn => routerFn rpcMethodId rpcRequestId with
      | some handler =>
          ({ routing with
              responseHandlers := routing.responseHandlers.insert rpcRequestId handler },
            [.routed rpcMethodId rpcRequestId handler])
      | none => (routing, [])
  | _ => (routing, [])

/-- Call the handler stored for a request, if there is one. -/
def invoke (routing : Routing H) (rpcId : UInt32) (events : List RpcStreamEvent) :
    List (Action H) :=
  match routing.responseHandlers[rpcId]? with
  | some handler => events.map (.invoked handler)
  | none => []

/-- Deliver an event to a request that prebuffers.  The handler sees the header
at once, and the joined payload together with the end. -/
def prebuffer (routing : Routing H) (rpcId : UInt32) (event : RpcStreamEvent) :
    Routing H × List (Action H) :=
  let buffer := routing.prebufferedResponses[rpcId]?.getD []
  let routing :=
    { routing with prebufferedResponses := routing.prebufferedResponses.insert rpcId buffer }
  match event with
  | .header .. => (routing, routing.invoke rpcId [event])
  | .payloadChunk _ _ _ bytes =>
      ({ routing with
          prebufferedResponses := routing.prebufferedResponses.insert rpcId (buffer ++ bytes) },
        [])
  | .end rpcHeader _ rpcMethodId =>
      let actions := routing.invoke rpcId [.payloadChunk rpcHeader rpcId rpcMethodId buffer, event]
      if routing.responseHandlers.contains rpcId then
        ({ routing with
            prebufferedResponses := routing.prebufferedResponses.erase rpcId
            prebufferingFlags := routing.prebufferingFlags.erase rpcId }, actions)
      else
        (routing, actions)
  | .error .. => (routing, [])

/-- Deliver an event that carries a request id.  Only a plain delivery counts as
handled; a prebuffered one goes to the catch-all as well. -/
def deliver (routing : Routing H) (rpcId : UInt32) (event : RpcStreamEvent) :
    Routing H × List (Action H) × Bool :=
  if routing.isPrebuffering rpcId then
    let delivered := routing.prebuffer rpcId event
    (delivered.1, delivered.2, false)
  else
    (routing, routing.invoke rpcId [event], routing.responseHandlers.contains rpcId)

/-- Deliver an event, clean up after a terminal one, and fall back to the
catch-all. -/
def settle (catchAll : Bool) (routing : Routing H) (rpcId : UInt32) (event : RpcStreamEvent) :
    Routing H × List (Action H) :=
  let delivered := routing.deliver rpcId event
  (if event.isEnd || event.isError then delivered.1.forget rpcId else delivered.1,
    delivered.2.1 ++ if !delivered.2.2 && catchAll then [.caught event] else [])

/-- The event callback of `read_bytes`. -/
def onEvent (router : Option (StreamMethodRouter H)) (catchAll : Bool) (routing : Routing H)
    (event : RpcStreamEvent) : Routing H × List (Action H) :=
  let routed := routing.route router event
  let settled : Routing H × List (Action H) := match event.requestId with
    | none => (routed.1, if catchAll then [.caught event] else [])
    | some rpcId => routed.1.settle catchAll rpcId event
  (settled.1, routed.2 ++ settled.2)

/-- The event callback run over a list of events. -/
def onEvents (router : Option (StreamMethodRouter H)) (catchAll : Bool) :
    Routing H → List RpcStreamEvent → Routing H × List (Action H)
  | routing, [] => (routing, [])
  | routing, event :: rest =>
      let first := routing.onEvent router catchAll event
      let later := onEvents router catchAll first.1 rest
      (later.1, first.2 ++ later.2)

end Routing

structure RpcRespondableSession (H : Type u) where
  rpcSession : RpcSession
  routing : Routing H
  /-- Whether a catch-all handler is installed. -/
  catchAllResponseHandler : Bool
  streamMethodRouter : Option (StreamMethodRouter H)

namespace RpcRespondableSession

variable {H : Type u}

def new (idSpace : IdSpace) (handedOut : Nat) : RpcRespondableSession H × Nat :=
  let session := RpcSession.new idSpace handedOut
  (⟨session.1, Routing.new, false, none⟩, session.2)

/-- Open a stream whose response goes to `onResponse`. -/
def initRespondableRequest (session : RpcRespondableSession H) (hdr : RpcHeader)
    (maxChunkSize : Nat) (onResponse : Option H) (prebufferResponse : Bool) (handedOut : Nat) :
    EncoderOutcome × RpcRespondableSession H × Nat :=
  let routing := session.routing
  let routing :=
    { routing with
      prebufferingFlags := routing.prebufferingFlags.insert hdr.rpcRequestId prebufferResponse }
  let routing := match onResponse with
    | some handler =>
        { routing with
          responseHandlers := routing.responseHandlers.insert hdr.rpcRequestId handler }
    | none => routing
  let opened := session.rpcSession.initRequest hdr maxChunkSize handedOut
  ({ opened.1 with result := opened.1.result.mapError fun _ => .corruptFrame },
    { session with routing := routing, rpcSession := opened.2.1 }, opened.2.2)

/-- Open a stream that answers a request of the peer. -/
def startReplyStream (session : RpcRespondableSession H) (hdr : RpcHeader)
    (maxChunkSize handedOut : Nat) : EncoderOutcome × RpcRespondableSession H × Nat :=
  let opened := session.rpcSession.initRequest hdr maxChunkSize handedOut
  ({ opened.1 with result := opened.1.result.mapError fun _ => .corruptFrame },
    { session with rpcSession := opened.2.1 }, opened.2.2)

def setStreamMethodRouter (session : RpcRespondableSession H) (router : StreamMethodRouter H) :
    RpcRespondableSession H :=
  { session with streamMethodRouter := some router }

def setCatchAllResponseHandler (session : RpcRespondableSession H) : RpcRespondableSession H :=
  { session with catchAllResponseHandler := true }

/-- Decode bytes and route every event. -/
def readBytes (session : RpcRespondableSession H) (bytes : List UInt8) :
    Except FrameDecodeError Unit × RpcRespondableSession H × List (Action H) :=
  let step : Routing H × List (Action H) → RpcStreamEvent → Routing H × List (Action H) :=
    fun (routing, actions) event =>
      let next := routing.onEvent session.streamMethodRouter session.catchAllResponseHandler event
      (next.1, actions ++ next.2)
  let run := RpcSession.readBytes (RpcSession.total step) session.rpcSession
    (session.routing, []) bytes
  (run.1, { session with rpcSession := run.2.1, routing := run.2.2.1 }, run.2.2.2)

/-- A read routes the events of the underlying session, in order. -/
theorem readBytes_eq (session : RpcRespondableSession H) (bytes : List UInt8) :
    session.readBytes bytes =
      ((session.rpcSession.decodeBytes bytes).2.1,
        { session with
          rpcSession := (session.rpcSession.decodeBytes bytes).2.2
          routing := (session.routing.onEvents session.streamMethodRouter
            session.catchAllResponseHandler (session.rpcSession.decodeBytes bytes).1).1 },
        (session.routing.onEvents session.streamMethodRouter
          session.catchAllResponseHandler (session.rpcSession.decodeBytes bytes).1).2) := by
  have folded : ∀ (events : List RpcStreamEvent) (routing : Routing H)
      (actions : List (Action H)),
      events.foldl (fun (routing, actions) event =>
        let next := Routing.onEvent session.streamMethodRouter session.catchAllResponseHandler
          routing event
        (next.1, actions ++ next.2)) (routing, actions) =
        ((routing.onEvents session.streamMethodRouter session.catchAllResponseHandler events).1,
          actions ++ (routing.onEvents session.streamMethodRouter
            session.catchAllResponseHandler events).2) := by
    intro events
    induction events with
    | nil => simp [Routing.onEvents]
    | cons event rest ih =>
        intro routing actions
        simp [Routing.onEvents, ih]
  simp only [readBytes, RpcSession.readBytes_total, folded, List.nil_append]

end RpcRespondableSession

/-! ## One request at a time -/

/-- What a session stores for one request. -/
structure Slot (H : Type u) where
  handler : Option H
  buffered : Option (List UInt8)
  prebuffering : Option Bool
  deriving DecidableEq, Repr

namespace Slot

variable {H : Type u}

/-- Nothing is stored. -/
def empty : Slot H := ⟨none, none, none⟩

/-- Call the stored handler, if there is one. -/
def invoke (slot : Slot H) (events : List RpcStreamEvent) : List (Action H) :=
  match slot.handler with
  | some handler => events.map (.invoked handler)
  | none => []

/-- The router's effect on the slot of the request that an event names. -/
def route (router : Option (StreamMethodRouter H)) (rpcId : UInt32) (slot : Slot H) :
    RpcStreamEvent → Slot H × List (Action H)
  | .header _ rpcMethodId _ =>
      match router.bind fun routerFn => routerFn rpcMethodId rpcId with
      | some handler => ({ slot with handler := some handler }, [.routed rpcMethodId rpcId handler])
      | none => (slot, [])
  | _ => (slot, [])

/-- Delivery seen from the request that an event names. -/
def settle (catchAll : Bool) (rpcId : UInt32) (slot : Slot H) (event : RpcStreamEvent) :
    Slot H × List (Action H) :=
  let caught : List (Action H) := if catchAll then [.caught event] else []
  if slot.prebuffering.getD false then
    let buffer := slot.buffered.getD []
    match event with
    | .header .. => ({ slot with buffered := some buffer }, slot.invoke [event] ++ caught)
    | .payloadChunk _ _ _ bytes => ({ slot with buffered := some (buffer ++ bytes) }, caught)
    | .end rpcHeader _ rpcMethodId =>
        (empty, slot.invoke [.payloadChunk rpcHeader rpcId rpcMethodId buffer, event] ++ caught)
    | .error .. => (empty, caught)
  else
    (if event.isEnd || event.isError then empty else slot,
      slot.invoke [event] ++ if slot.handler.isSome then [] else caught)

/-- The callback seen from the request that an event names. -/
def onEvent (router : Option (StreamMethodRouter H)) (catchAll : Bool) (rpcId : UInt32)
    (slot : Slot H) (event : RpcStreamEvent) : Slot H × List (Action H) :=
  let routed := slot.route router rpcId event
  let settled := routed.1.settle catchAll rpcId event
  (settled.1, routed.2 ++ settled.2)

/-- The callback over the events of one request. -/
def onEvents (router : Option (StreamMethodRouter H)) (catchAll : Bool) (rpcId : UInt32) :
    Slot H → List RpcStreamEvent → Slot H × List (Action H)
  | slot, [] => (slot, [])
  | slot, event :: rest =>
      let first := slot.onEvent router catchAll rpcId event
      let later := onEvents router catchAll rpcId first.1 rest
      (later.1, first.2 ++ later.2)

end Slot

namespace Slot

variable {H : Type u}

theorem mem_invoke {slot : Slot H} {events : List RpcStreamEvent} {action : Action H}
    (member : action ∈ slot.invoke events) :
    ∃ handler, slot.handler = some handler ∧ ∃ event ∈ events, action = .invoked handler event := by
  unfold invoke at member
  split at member
  · rename_i handler stored
    rcases List.mem_map.mp member with ⟨event, eventMem, rfl⟩
    exact ⟨handler, stored, event, eventMem, rfl⟩
  · contradiction

theorem mem_route {router : Option (StreamMethodRouter H)} {rpcId : UInt32} {slot : Slot H}
    {event : RpcStreamEvent} {action : Action H}
    (member : action ∈ (slot.route router rpcId event).2) :
    ∃ rpcMethodId handler, action = .routed rpcMethodId rpcId handler := by
  unfold route at member
  split at member
  · split at member
    · exact ⟨_, _, List.mem_singleton.mp member⟩
    · contradiction
  · contradiction

/-- Delivery calls the stored handler, with the event itself or a joined payload
of the same request, or the catch-all, with the event itself. -/
theorem mem_settle {catchAll : Bool} {rpcId : UInt32} {slot : Slot H} {event : RpcStreamEvent}
    (named : event.requestId = some rpcId) {action : Action H}
    (member : action ∈ (slot.settle catchAll rpcId event).2) :
    (∃ handler delivered, slot.handler = some handler ∧ action = .invoked handler delivered ∧
      delivered.requestId = some rpcId ∧ (delivered = event ∨ delivered.isError = false)) ∨
      action = .caught event := by
  have ofInvoke : ∀ {events : List RpcStreamEvent},
      (∀ delivered ∈ events, delivered.requestId = some rpcId ∧
        (delivered = event ∨ delivered.isError = false)) → action ∈ slot.invoke events →
        ∃ handler delivered, slot.handler = some handler ∧ action = .invoked handler delivered ∧
          delivered.requestId = some rpcId ∧ (delivered = event ∨ delivered.isError = false) := by
    intro events own invoked
    rcases mem_invoke invoked with ⟨handler, stored, delivered, deliveredMem, rfl⟩
    exact ⟨handler, delivered, stored, rfl, own delivered deliveredMem⟩
  have ofCaught : action ∈ (if catchAll then [.caught event] else []) → action = .caught event := by
    intro caught
    split at caught
    · exact List.mem_singleton.mp caught
    · contradiction
  unfold settle at member
  simp only at member
  split at member
  · split at member
    · rcases List.mem_append.mp member with invoked | caught
      · exact Or.inl (ofInvoke (by simpa using named) invoked)
      · exact Or.inr (ofCaught caught)
    · exact Or.inr (ofCaught member)
    · rcases List.mem_append.mp member with invoked | caught
      · exact Or.inl (ofInvoke
          (by simpa [RpcStreamEvent.requestId, RpcStreamEvent.isError] using named) invoked)
      · exact Or.inr (ofCaught caught)
    · exact Or.inr (ofCaught member)
  · rcases List.mem_append.mp member with invoked | caught
    · exact Or.inl (ofInvoke (by simpa using named) invoked)
    · split at caught
      · contradiction
      · exact Or.inr (ofCaught caught)

end Slot

/-! ## What an event does to the slot of its request -/

/-- The payload bytes of an event. -/
def RpcStreamEvent.chunkBytes : RpcStreamEvent → List UInt8
  | payloadChunk _ _ _ bytes => bytes
  | _ => []

attribute [ext] Slot

namespace Slot

variable {H : Type u} (router : Option (StreamMethodRouter H)) (catchAll : Bool) (rpcId : UInt32)
  (slot : Slot H)

theorem onEvents_append (first second : List RpcStreamEvent) :
    slot.onEvents router catchAll rpcId (first ++ second) =
      (((slot.onEvents router catchAll rpcId first).1.onEvents router catchAll rpcId second).1,
        (slot.onEvents router catchAll rpcId first).2 ++
          ((slot.onEvents router catchAll rpcId first).1.onEvents router catchAll rpcId
            second).2) := by
  induction first generalizing slot with
  | nil => rfl
  | cons event rest ih => simp [onEvents, ih, List.append_assoc]

theorem route_tables (event : RpcStreamEvent) :
    (slot.route router rpcId event).1.prebuffering = slot.prebuffering ∧
      (slot.route router rpcId event).1.buffered = slot.buffered := by
  unfold route
  split
  · split
    · exact ⟨rfl, rfl⟩
    · exact ⟨rfl, rfl⟩
  · exact ⟨rfl, rfl⟩

theorem prebuffering_iff :
    slot.prebuffering.getD false = true ↔ slot.prebuffering = some true := by
  cases slot.prebuffering with
  | none => simp
  | some value => simp

/-- A terminal event removes everything; any other event leaves the flag and the handler, and
extends the buffer of a request that prebuffers. -/
theorem settle_tables (event : RpcStreamEvent) :
    (slot.settle catchAll rpcId event).1 =
      if event.isEnd || event.isError then empty
      else ⟨slot.handler, if slot.prebuffering = some true then
        some (slot.buffered.getD [] ++ event.chunkBytes) else slot.buffered,
        slot.prebuffering⟩ := by
  unfold settle
  by_cases prebuffers : slot.prebuffering = some true
  · simp only [slot.prebuffering_iff.mpr prebuffers, if_true, if_pos prebuffers]
    cases event with
    | header =>
        simp [RpcStreamEvent.isEnd, RpcStreamEvent.isError, RpcStreamEvent.chunkBytes]
    | payloadChunk =>
        simp [RpcStreamEvent.isEnd, RpcStreamEvent.isError, RpcStreamEvent.chunkBytes]
    | «end» => rfl
    | error => rfl
  · simp only [if_neg (mt slot.prebuffering_iff.mp prebuffers), if_neg prebuffers]

theorem onEvent_tables (event : RpcStreamEvent) :
    (slot.onEvent router catchAll rpcId event).1 =
      if event.isEnd || event.isError then empty
      else ⟨(slot.route router rpcId event).1.handler, if slot.prebuffering = some true then
        some (slot.buffered.getD [] ++ event.chunkBytes) else slot.buffered,
        slot.prebuffering⟩ := by
  obtain ⟨flagEq, bufferEq⟩ := slot.route_tables router rpcId event
  rw [onEvent, settle_tables, flagEq, bufferEq]

theorem onEvents_prebuffering (events : List RpcStreamEvent) :
    (slot.onEvents router catchAll rpcId events).1.prebuffering =
      if events.any fun event => event.isEnd || event.isError then none
      else slot.prebuffering := by
  induction events generalizing slot with
  | nil => rfl
  | cons event rest ih =>
      rw [onEvents, List.any_cons]
      dsimp only
      rw [ih, onEvent_tables]
      cases event.isEnd || event.isError with
      | true => simp [empty]
      | false => simp

theorem onEvents_buffered (events : List RpcStreamEvent) :
    (slot.onEvents router catchAll rpcId events).1.buffered =
      if events.any fun event => event.isEnd || event.isError then none
      else if slot.prebuffering = some true ∧ events ≠ [] then
        some (slot.buffered.getD [] ++ events.flatMap RpcStreamEvent.chunkBytes)
      else slot.buffered := by
  induction events generalizing slot with
  | nil => simp [onEvents]
  | cons event rest ih =>
      rw [onEvents, List.any_cons]
      dsimp only
      rw [ih, onEvent_tables]
      cases event.isEnd || event.isError with
      | true => simp [empty]
      | false =>
          by_cases prebuffers : slot.prebuffering = some true
          · by_cases last : rest = []
            · simp [prebuffers, last]
            · simp [prebuffers, last, List.append_assoc]
          · simp [prebuffers]

/-- Without a router only an end changes the handler. -/
theorem onEvents_handler (events : List RpcStreamEvent) :
    (slot.onEvents none catchAll rpcId events).1.handler =
      if events.any fun event => event.isEnd || event.isError then none
      else slot.handler := by
  induction events generalizing slot with
  | nil => rfl
  | cons event rest ih =>
      have unrouted : slot.route none rpcId event = (slot, []) := by
        cases event <;> rfl
      rw [onEvents, List.any_cons]
      dsimp only
      rw [ih, onEvent_tables, unrouted]
      cases event.isEnd || event.isError with
      | true => simp [empty]
      | false => simp

/-- Nothing is stored for a request that was not opened. -/
theorem onEvents_empty (events : List RpcStreamEvent) :
    ((empty : Slot H).onEvents none catchAll rpcId events).1 = empty := by
  apply Slot.ext
  · simp [onEvents_handler, empty]
  · simp [onEvents_buffered, empty]
  · simp [onEvents_prebuffering, empty]

end Slot

/-! ## The tables as slots -/

namespace Routing

variable {H : Type u}

/-- The part of the tables that belongs to one request. -/
def slot (routing : Routing H) (rpcId : UInt32) : Slot H where
  handler := routing.responseHandlers[rpcId]?
  buffered := routing.prebufferedResponses[rpcId]?
  prebuffering := routing.prebufferingFlags[rpcId]?

@[simp]
theorem slot_new (rpcId : UInt32) : (new : Routing H).slot rpcId = Slot.empty := by
  simp [slot, new, Slot.empty]

theorem slot_forget (routing : Routing H) (rpcId other : UInt32) :
    (routing.forget rpcId).slot other =
      if rpcId = other then Slot.empty else routing.slot other := by
  by_cases same : rpcId = other
  · simp [slot, forget, same, Slot.empty]
  · simp [slot, forget, same, ExtTreeMap.getElem?_erase]

section Step

variable (router : Option (StreamMethodRouter H)) (catchAll : Bool) (routing : Routing H)

theorem route_slot {event : RpcStreamEvent} {rpcId : UInt32}
    (named : event.requestId = some rpcId) :
    (routing.route router event).1.slot rpcId = ((routing.slot rpcId).route router rpcId event).1 ∧
      (routing.route router event).2 = ((routing.slot rpcId).route router rpcId event).2 := by
  cases event with
  | header requestId methodId rpcHeader =>
      rw [show requestId = rpcId from Option.some.inj named]
      cases routed : router.bind fun routerFn => routerFn methodId rpcId with
      | none => simp [route, Slot.route, routed]
      | some handler => simp [route, Slot.route, routed, slot]
  | payloadChunk => exact ⟨rfl, rfl⟩
  | «end» => exact ⟨rfl, rfl⟩
  | error => exact ⟨rfl, rfl⟩

theorem settle_slot (rpcId : UInt32) (event : RpcStreamEvent) :
    (routing.settle catchAll rpcId event).1.slot rpcId =
        ((routing.slot rpcId).settle catchAll rpcId event).1 ∧
      (routing.settle catchAll rpcId event).2 =
        ((routing.slot rpcId).settle catchAll rpcId event).2 := by
  have stored : routing.responseHandlers.contains rpcId = (routing.slot rpcId).handler.isSome :=
    ExtTreeMap.contains_eq_isSome_getElem?
  have flag : routing.isPrebuffering rpcId = (routing.slot rpcId).prebuffering.getD false := rfl
  unfold settle deliver Slot.settle
  rw [flag, stored]
  cases (routing.slot rpcId).prebuffering.getD false with
  | true =>
      cases event with
      | header => simp [prebuffer, slot, invoke, Slot.invoke, RpcStreamEvent.isEnd,
          RpcStreamEvent.isError]
      | payloadChunk => simp [prebuffer, slot, RpcStreamEvent.isEnd, RpcStreamEvent.isError]
      | «end» =>
          by_cases held : rpcId ∈ routing.responseHandlers
          · simp [prebuffer, forget, held, invoke, Slot.invoke, Slot.empty, slot,
              RpcStreamEvent.isEnd]
          · simp [prebuffer, forget, held, invoke, Slot.invoke, Slot.empty, slot,
              RpcStreamEvent.isEnd]
      | error => simp [prebuffer, forget, Slot.empty, slot, RpcStreamEvent.isError]
  | false =>
      have invoked : routing.invoke rpcId [event] = (routing.slot rpcId).invoke [event] := rfl
      simp only [Bool.false_eq_true, if_false, invoked]
      constructor
      · by_cases terminal : event.isEnd || event.isError
        · rw [if_pos terminal, if_pos terminal, slot_forget, if_pos rfl]
        · rw [if_neg terminal, if_neg terminal]
      · cases (routing.slot rpcId).handler with
        | none => simp
        | some handler => simp

/-- An event acts on the slot of the request it names as the slot's own step. -/
theorem onEvent_slot {event : RpcStreamEvent} {rpcId : UInt32}
    (named : event.requestId = some rpcId) :
    (routing.onEvent router catchAll event).1.slot rpcId =
        ((routing.slot rpcId).onEvent router catchAll rpcId event).1 ∧
      (routing.onEvent router catchAll event).2 =
        ((routing.slot rpcId).onEvent router catchAll rpcId event).2 := by
  rcases routing.route_slot router named with ⟨routedSlot, routedActions⟩
  rcases (routing.route router event).1.settle_slot catchAll rpcId event with
    ⟨settledSlot, settledActions⟩
  rw [routedSlot] at settledSlot settledActions
  simp only [onEvent, Slot.onEvent, named, settledSlot, settledActions, routedActions, and_self]

theorem settle_slot_other {rpcId other : UInt32} (different : rpcId ≠ other)
    (event : RpcStreamEvent) :
    (routing.settle catchAll rpcId event).1.slot other = routing.slot other := by
  have delivered : (routing.deliver rpcId event).1.slot other = routing.slot other := by
    unfold deliver
    split
    · cases event with
      | header => simp [prebuffer, slot, ExtTreeMap.getElem?_insert, different]
      | payloadChunk => simp [prebuffer, slot, ExtTreeMap.getElem?_insert, different]
      | «end» =>
          by_cases held : rpcId ∈ routing.responseHandlers
          · simp [prebuffer, slot, held, ExtTreeMap.getElem?_insert, ExtTreeMap.getElem?_erase,
              different]
          · simp [prebuffer, slot, held, ExtTreeMap.getElem?_insert, different]
      | error => simp [prebuffer, slot, ExtTreeMap.getElem?_insert, different]
    · rfl
  unfold settle
  simp only
  split
  · rw [slot_forget, if_neg different, delivered]
  · exact delivered

/-- An event leaves the slots of all other requests alone. -/
theorem onEvent_slot_other {event : RpcStreamEvent} {other : UInt32}
    (unnamed : event.requestId ≠ some other) :
    (routing.onEvent router catchAll event).1.slot other = routing.slot other := by
  have routed : (routing.route router event).1.slot other = routing.slot other := by
    cases event with
    | header requestId methodId rpcHeader =>
        have different : requestId ≠ other := by
          rintro rfl
          exact unnamed rfl
        unfold route
        simp only
        split
        · simp [slot, ExtTreeMap.getElem?_insert, different]
        · rfl
    | payloadChunk => rfl
    | «end» => rfl
    | error => rfl
  unfold onEvent
  cases named : event.requestId with
  | none => exact routed
  | some rpcId =>
      have different : rpcId ≠ other := by
        rintro rfl
        exact unnamed named
      simp only
      rw [settle_slot_other _ _ different, routed]

/-- An event that names no request goes to the catch-all. -/
theorem onEvent_unnamed {event : RpcStreamEvent} (unnamed : event.requestId = none) :
    routing.onEvent router catchAll event =
      (routing, if catchAll then [.caught event] else []) := by
  cases event with
  | error rpcHeader rpcRequestId rpcMethodId error => simp only [onEvent, unnamed, route,
      List.nil_append]
  | _ => contradiction

/-- Every action is about the request that the event names. -/
theorem onEvent_requestId {event : RpcStreamEvent} {action : Action H}
    (member : action ∈ (routing.onEvent router catchAll event).2) :
    action.requestId = event.requestId := by
  cases named : event.requestId with
  | none =>
      simp only [routing.onEvent_unnamed router catchAll named] at member
      split at member
      · rw [List.mem_singleton.mp member]
        exact named
      · contradiction
  | some rpcId =>
      rw [(routing.onEvent_slot router catchAll named).2] at member
      rcases List.mem_append.mp member with early | late
      · rcases Slot.mem_route early with ⟨rpcMethodId, handler, rfl⟩
        rfl
      · rcases Slot.mem_settle named late with ⟨handler, delivered, -, rfl, deliveredId, -⟩ | rfl
        · exact deliveredId
        · exact named

/-- The events that name a request determine what happens to it. -/
theorem onEvents_slot (events : List RpcStreamEvent) (rpcId : UInt32) :
    (routing.onEvents router catchAll events).1.slot rpcId =
        ((routing.slot rpcId).onEvents router catchAll rpcId
          (events.filter fun event => event.requestId = some rpcId)).1 ∧
      ((routing.onEvents router catchAll events).2.filter fun action =>
          action.requestId = some rpcId) =
        ((routing.slot rpcId).onEvents router catchAll rpcId
          (events.filter fun event => event.requestId = some rpcId)).2 := by
  induction events generalizing routing with
  | nil => exact ⟨rfl, rfl⟩
  | cons event rest ih =>
      rcases ih (routing.onEvent router catchAll event).1 with ⟨restSlot, restActions⟩
      simp only [onEvents, List.filter_append]
      rw [restSlot, restActions]
      by_cases named : event.requestId = some rpcId
      · have all : ((routing.onEvent router catchAll event).2.filter fun action =>
            action.requestId = some rpcId) = (routing.onEvent router catchAll event).2 := by
          apply List.filter_eq_self.mpr
          intro action member
          simp [onEvent_requestId router catchAll routing member, named]
        rcases routing.onEvent_slot router catchAll named with ⟨slotEq, actionsEq⟩
        rw [all, List.filter_cons_of_pos (by simpa using named), slotEq, actionsEq]
        exact ⟨rfl, rfl⟩
      · have nothing : ((routing.onEvent router catchAll event).2.filter fun action =>
            action.requestId = some rpcId) = [] := by
          apply List.filter_eq_nil_iff.mpr
          intro action member
          simp [onEvent_requestId router catchAll routing member, named]
        rw [nothing, List.filter_cons_of_neg (by simpa using named),
          routing.onEvent_slot_other router catchAll named]
        exact ⟨rfl, rfl⟩

/-- Events that all name one request lead to nothing else. -/
theorem onEvents_slot_only {events : List RpcStreamEvent} {rpcId : UInt32}
    (named : ∀ event ∈ events, event.requestId = some rpcId) :
    (routing.onEvents router catchAll events).2 =
      ((routing.slot rpcId).onEvents router catchAll rpcId events).2 := by
  induction events generalizing routing with
  | nil => rfl
  | cons event rest ih =>
      have later := ih (routing.onEvent router catchAll event).1
        fun other member => named other (List.mem_cons_of_mem _ member)
      rcases routing.onEvent_slot router catchAll (named event List.mem_cons_self) with
        ⟨slotEq, actionsEq⟩
      rw [slotEq] at later
      simp only [onEvents, Slot.onEvents, actionsEq, later]

end Step

end Routing

end Muxio.Rpc
