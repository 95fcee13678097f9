import Muxio.Rpc.Gathering
import Muxio.Rpc.Lifetime

/-!
# One terminal event per handler

A response handler hears the events of its own request until the first end or
error, and nothing after it.  Any bytes may arrive, several streams may claim
one request id, and pending requests may be failed at any point; what is needed
is that no stream method router replaces handlers and that no request id is
drawn twice.
-/

namespace Muxio.Rpc

open Std
open Muxio.Framing

universe u

/-- The events after which a handler is dropped. -/
def RpcStreamEvent.isTerminal (event : RpcStreamEvent) : Bool := event.isEnd || event.isError

section Heard

variable {H : Type u} [DecidableEq H]

def Action.heardBy (handler : H) : Action H → Option RpcStreamEvent
  | invoked other event => if other = handler then some event else none
  | _ => none

/-- The events a handler has been called with. -/
def heard (handler : H) (log : List (Action H)) : List RpcStreamEvent :=
  log.filterMap (Action.heardBy handler)

theorem heard_append (handler : H) (first second : List (Action H)) :
    heard handler (first ++ second) = heard handler first ++ heard handler second :=
  List.filterMap_append

@[simp]
theorem heard_caught (handler : H) (event : RpcStreamEvent) : heard handler [.caught event] = [] :=
  rfl

theorem heard_invoked (handler : H) (events : List RpcStreamEvent) :
    heard handler (events.map (.invoked handler)) = events := by
  induction events with
  | nil => rfl
  | cons event rest ih =>
      have first : Action.heardBy handler (.invoked handler event) = some event := if_pos rfl
      rw [List.map_cons, heard, List.filterMap_cons_some first]
      exact congrArg (event :: ·) ih

theorem heard_eq_nil {handler : H} {log : List (Action H)}
    (others : ∀ event, .invoked handler event ∉ log) : heard handler log = [] := by
  rw [heard, List.filterMap_eq_nil_iff]
  intro action member
  cases action with
  | invoked other event =>
      by_cases same : other = handler
      · exact absurd (same ▸ member) (others event)
      · exact if_neg same
  | routed | caught => rfl

end Heard

/-- Events of one request in the order a handler may hear them; `true` once the
last one was terminal. -/
inductive Hears (rpcId : UInt32) : Bool → List RpcStreamEvent → Prop
  | start : Hears rpcId false []
  | more {events : List RpcStreamEvent} (before : Hears rpcId false events) {event : RpcStreamEvent}
      (named : event.requestId = some rpcId) (goesOn : event.isTerminal = false) :
      Hears rpcId false (events ++ [event])
  | last {events : List RpcStreamEvent} (before : Hears rpcId false events) {event : RpcStreamEvent}
      (named : event.requestId = some rpcId) (terminal : event.isTerminal = true) :
      Hears rpcId true (events ++ [event])

namespace Hears

variable {rpcId : UInt32} {closed : Bool} {events : List RpcStreamEvent}

theorem named (hears : Hears rpcId closed events) :
    ∀ event ∈ events, event.requestId = some rpcId := by
  induction hears with
  | start => nofun
  | more before own goesOn ih | last before own terminal ih =>
      intro event member
      rcases List.mem_append.mp member with earlier | new
      · exact ih event earlier
      · rw [List.mem_singleton.mp new]
        exact own

theorem unfinished (hears : Hears rpcId false events) :
    ∀ event ∈ events, event.isTerminal = false := by
  generalize isClosed : false = closed at hears
  induction hears with
  | start => nofun
  | more before own goesOn ih =>
      intro event member
      rcases List.mem_append.mp member with earlier | new
      · exact ih isClosed event earlier
      · rw [List.mem_singleton.mp new]
        exact goesOn
  | last => contradiction

theorem finished (hears : Hears rpcId true events) :
    ∃ front last, events = front ++ [last] ∧ last.isTerminal = true ∧
      ∀ event ∈ front, event.isTerminal = false := by
  cases hears with
  | last before own terminal => exact ⟨_, _, rfl, terminal, before.unfinished⟩

theorem nothing_after (hears : Hears rpcId closed events) {before after : List RpcStreamEvent}
    {event : RpcStreamEvent} (split : events = before ++ event :: after)
    (terminal : event.isTerminal = true) : after = [] := by
  cases closed with
  | false =>
      have member : event ∈ events := split ▸ List.mem_append_right before List.mem_cons_self
      exact absurd terminal (by rw [hears.unfinished event member]; exact Bool.false_ne_true)
  | true =>
      obtain ⟨front, last, ends, -, unfinished⟩ := hears.finished
      rcases List.eq_nil_or_concat after with none | ⟨init, final, rfl⟩
      · exact none
      · rw [List.concat_eq_append, ends, ← List.cons_append, ← List.append_assoc] at split
        have member : event ∈ front := by
          rw [(List.append_inj' split rfl).1]
          exact List.mem_append_right before List.mem_cons_self
        exact absurd terminal (by rw [unfinished event member]; exact Bool.false_ne_true)

end Hears

/-! ## One event -/

namespace Slot

theorem onEvent_unrouted {H : Type u} (catchAll : Bool) (rpcId : UInt32) (slot : Slot H)
    (event : RpcStreamEvent) :
    slot.onEvent none catchAll rpcId event = slot.settle catchAll rpcId event := by
  cases event <;> rfl

variable {H : Type u} [DecidableEq H] {slot : Slot H} {handler : H} {rpcId : UInt32}
  {event : RpcStreamEvent}

theorem heard_invoke (stored : slot.handler = some handler) (events : List RpcStreamEvent) :
    heard handler (slot.invoke events) = events := by
  rw [invoke, stored]
  exact heard_invoked handler events

/-- The stored handler hears the event, with the buffered payload before an end,
and is dropped with the end. -/
theorem onEvent_hears (catchAll : Bool) (stored : slot.handler = some handler)
    (named : event.requestId = some rpcId) (noError : event.isError = false)
    {events : List RpcStreamEvent} (hears : Hears rpcId false events) :
    ∃ closed, Hears rpcId closed
        (events ++ heard handler (slot.onEvent none catchAll rpcId event).2) ∧
      (slot.onEvent none catchAll rpcId event).1.handler =
        if closed then none else some handler := by
  have caughtUnheard : heard handler (if catchAll then [.caught event] else []) = [] := by
    cases catchAll <;> rfl
  rw [onEvent_unrouted]
  unfold settle
  by_cases prebuffering : slot.prebuffering.getD false = true
  · rw [if_pos prebuffering]
    cases event with
    | header rpcRequestId rpcMethodId rpcHeader =>
        refine ⟨false, ?_, stored⟩
        rw [heard_append, heard_invoke stored, caughtUnheard, List.append_nil]
        exact hears.more named rfl
    | payloadChunk rpcHeader rpcRequestId rpcMethodId bytes =>
        refine ⟨false, ?_, stored⟩
        rw [caughtUnheard, List.append_nil]
        exact hears
    | «end» rpcHeader rpcRequestId rpcMethodId =>
        refine ⟨true, ?_, rfl⟩
        rw [heard_append, heard_invoke stored, caughtUnheard, List.append_nil]
        have buffered : RpcStreamEvent.requestId (.payloadChunk rpcHeader rpcId rpcMethodId
            (slot.buffered.getD [])) = some rpcId := rfl
        have first := hears.more buffered rfl
        have second := first.last named rfl
        rwa [List.append_assoc] at second
    | error => contradiction
  · rw [if_neg prebuffering, noError, Bool.or_false, stored]
    have plain : heard handler (slot.invoke [event] ++
        if (some handler).isSome then [] else if catchAll then [.caught event] else []) =
          [event] := by
      rw [heard_append, heard_invoke stored]
      rfl
    rw [plain]
    cases isEnd : event.isEnd with
    | true => exact ⟨true, hears.last named (by simp [RpcStreamEvent.isTerminal, isEnd]), rfl⟩
    | false =>
        exact ⟨false, hears.more named (by simp [RpcStreamEvent.isTerminal, isEnd, noError]),
          stored⟩

/-- Nobody else hears it. -/
theorem onEvent_unheard (catchAll : Bool) (named : event.requestId = some rpcId)
    (other : slot.handler ≠ some handler) :
    heard handler (slot.onEvent none catchAll rpcId event).2 = [] := by
  apply heard_eq_nil
  intro delivered member
  rw [onEvent_unrouted] at member
  rcases mem_settle named member with ⟨stored, _, isStored, same, -⟩ | caught
  · injection same with sameHandler
    exact other (sameHandler ▸ isStored)
  · contradiction

end Slot

/-! ## The handlers of a dispatcher -/

section Registered

variable {H : Type u} [DecidableEq H]

/-- Every handler in the table belongs to a call made with its request id, and
every handler of a call has heard what it may hear, being in the table as long
as nothing terminal was among it. -/
structure Registered (routing : Routing H) (calls : List (MadeCall H)) (log : List (Action H)) :
    Prop where
  owned : ∀ rpcId handler, routing.responseHandlers[rpcId]? = some handler →
    ∃ call ∈ calls, call.rpcRequestId = rpcId ∧ call.onResponse = some handler
  single : ∀ first ∈ calls, ∀ second ∈ calls, ∀ handler, first.onResponse = some handler →
    second.onResponse = some handler → first.rpcRequestId = second.rpcRequestId
  told : ∀ call ∈ calls, ∀ handler, call.onResponse = some handler →
    ∃ closed, Hears call.rpcRequestId closed (heard handler log) ∧
      routing.responseHandlers[call.rpcRequestId]? = if closed then none else some handler
  untold : ∀ handler, (∀ call ∈ calls, call.onResponse ≠ some handler) → heard handler log = []

namespace Registered

variable {routing : Routing H} {calls : List (MadeCall H)} {log : List (Action H)}

theorem new : Registered (Routing.new : Routing H) [] [] where
  owned := by
    intro rpcId handler stored
    simp [Routing.new] at stored
  single := nofun
  told := nofun
  untold _ _ := rfl

/-- A handler stored under one id is not the handler of a call with another. -/
theorem stored_ne (registered : Registered routing calls log) {call : MadeCall H}
    (member : call ∈ calls) {handler : H} (own : call.onResponse = some handler) {rpcId : UInt32}
    (different : call.rpcRequestId ≠ rpcId) : routing.responseHandlers[rpcId]? ≠ some handler := by
  intro stored
  obtain ⟨owner, owns, sameId, sameHandler⟩ := registered.owned rpcId handler stored
  exact different ((registered.single call member owner owns handler own sameHandler).trans sameId)

/-- One event of a read. -/
theorem onEvent (registered : Registered routing calls log) {event : RpcStreamEvent}
    (noError : event.isError = true → event.requestId = none) (catchAll : Bool) :
    Registered (routing.onEvent none catchAll event).1 calls
      (log ++ (routing.onEvent none catchAll event).2) := by
  cases named : event.requestId with
  | none =>
      rw [Routing.onEvent_unnamed none catchAll routing named]
      have silent : ∀ handler : H, heard handler (log ++ if catchAll then [.caught event] else []) =
          heard handler log := by
        intro handler
        cases catchAll <;> simp [heard_append]
      exact ⟨registered.owned, registered.single,
        fun call member handler own => by
          rw [silent]
          exact registered.told call member handler own,
        fun handler none => by
          rw [silent]
          exact registered.untold handler none⟩
  | some rpcId =>
      have plain : event.isError = false := by
        cases isError : event.isError with
        | true => rw [noError isError] at named; contradiction
        | false => rfl
      obtain ⟨slotEq, actionsEq⟩ := Routing.onEvent_slot none catchAll routing named
      have here : (routing.onEvent none catchAll event).1.responseHandlers[rpcId]? =
          ((routing.slot rpcId).onEvent none catchAll rpcId event).1.handler :=
        congrArg Slot.handler slotEq
      have elsewhere : ∀ other, rpcId ≠ other →
          (routing.onEvent none catchAll event).1.responseHandlers[other]? =
            routing.responseHandlers[other]? := fun other different =>
        congrArg Slot.handler (Routing.onEvent_slot_other none catchAll routing
          (by rw [named]; exact fun same => different (Option.some.inj same)))
      rw [actionsEq]
      constructor
      · intro other handler stored
        by_cases same : rpcId = other
        · rw [← same, here, Slot.onEvent_unrouted] at stored
          exact same ▸ registered.owned rpcId handler (Slot.settle_handler stored)
        · exact registered.owned other handler (elsewhere other same ▸ stored)
      · exact registered.single
      · intro call member handler own
        obtain ⟨closed, hears, stands⟩ := registered.told call member handler own
        rw [heard_append]
        by_cases same : rpcId = call.rpcRequestId
        · rw [← same] at hears stands ⊢
          rw [here]
          cases closed with
          | false => exact Slot.onEvent_hears catchAll stands named plain hears
          | true =>
              have absent : (routing.slot rpcId).handler = none := stands
              rw [Slot.onEvent_unheard catchAll named (by rw [absent]; nofun), List.append_nil]
              refine ⟨true, hears, ?_⟩
              rw [Slot.onEvent_unrouted]
              by_contra kept
              obtain ⟨other, isOther⟩ := Option.ne_none_iff_exists'.mp kept
              exact absurd (Slot.settle_handler isOther) (by rw [absent]; nofun)
        · rw [elsewhere _ same, Slot.onEvent_unheard catchAll named
            (registered.stored_ne member own (Ne.symm same)), List.append_nil]
          exact ⟨closed, hears, stands⟩
      · intro handler none
        have unowned : (routing.slot rpcId).handler ≠ some handler := by
          intro stored
          obtain ⟨owner, owns, -, sameHandler⟩ := registered.owned rpcId handler stored
          exact none owner owns sameHandler
        rw [heard_append, Slot.onEvent_unheard catchAll named unowned,
          registered.untold handler none]
        rfl

/-- A whole read. -/
theorem onEvents (registered : Registered routing calls log) {events : List RpcStreamEvent}
    (noError : ∀ event ∈ events, event.isError = true → event.requestId = none) (catchAll : Bool) :
    Registered (routing.onEvents none catchAll events).1 calls
      (log ++ (routing.onEvents none catchAll events).2) := by
  induction events generalizing routing log with
  | nil => simpa [Routing.onEvents] using registered
  | cons event rest ih =>
      have first := registered.onEvent (noError event List.mem_cons_self) catchAll
      have later := ih first fun other member => noError other (List.mem_cons_of_mem event member)
      rw [List.append_assoc] at later
      exact later

/-- A new call with a fresh request id and, if it has one, a fresh handler. -/
theorem call (registered : Registered routing calls log) {made : MadeCall H}
    (freshId : ∀ call ∈ calls, call.rpcRequestId ≠ made.rpcRequestId)
    (freshHandler : ∀ handler, made.onResponse = some handler →
      ∀ call ∈ calls, call.onResponse ≠ some handler)
    {next : Routing H}
    (stored : ∀ rpcId, next.responseHandlers[rpcId]? =
      if made.rpcRequestId = rpcId ∧ made.onResponse.isSome then made.onResponse
      else routing.responseHandlers[rpcId]?) :
    Registered next (calls ++ [made]) log := by
  constructor
  · intro rpcId handler found
    rw [stored] at found
    split at found
    · rename_i new
      exact ⟨made, List.mem_append_right calls List.mem_cons_self, new.1, found⟩
    · obtain ⟨call, member, owns⟩ := registered.owned rpcId handler found
      exact ⟨call, List.mem_append_left [made] member, owns⟩
  · intro first firstMem second secondMem handler ownFirst ownSecond
    rcases List.mem_append.mp firstMem with oldFirst | newFirst
    · rcases List.mem_append.mp secondMem with oldSecond | newSecond
      · exact registered.single first oldFirst second oldSecond handler ownFirst ownSecond
      · rw [List.mem_singleton.mp newSecond] at ownSecond
        exact absurd ownFirst (freshHandler handler ownSecond first oldFirst)
    · rw [List.mem_singleton.mp newFirst] at ownFirst ⊢
      rcases List.mem_append.mp secondMem with oldSecond | newSecond
      · exact absurd ownSecond (freshHandler handler ownFirst second oldSecond)
      · rw [List.mem_singleton.mp newSecond]
  · intro call member handler own
    rcases List.mem_append.mp member with old | new
    · rw [stored, if_neg fun same => freshId call old same.1.symm]
      exact registered.told call old handler own
    · rw [List.mem_singleton.mp new] at own ⊢
      rw [registered.untold handler (freshHandler handler own), stored, own]
      exact ⟨false, .start, if_pos ⟨rfl, rfl⟩⟩
  · intro handler none
    exact registered.untold handler fun call member =>
      none call (List.mem_append_left [made] member)

/-- What `fail_all_pending_requests` tells a stored handler. -/
def failure (error : FrameDecodeError) (entry : UInt32 × H) : Action H :=
  .invoked entry.2 (.error none (some entry.1) none error)

/-- A handler in the table is told once, and the others are not told. -/
theorem heard_failures (registered : Registered routing calls log) {call : MadeCall H}
    (member : call ∈ calls) {handler : H} (own : call.onResponse = some handler)
    (error : FrameDecodeError) :
    heard handler (routing.responseHandlers.toList.map (failure error)) =
      if routing.responseHandlers[call.rpcRequestId]? = some handler then
        [.error none (some call.rpcRequestId) none error] else [] := by
  have silent : ∀ part : List (UInt32 × H), part ⊆ routing.responseHandlers.toList →
      (call.rpcRequestId, handler) ∉ part → heard handler (part.map (failure error)) = [] := by
    intro part inTable absent
    apply heard_eq_nil
    intro event told
    obtain ⟨⟨rpcId, stored⟩, present, same⟩ := List.mem_map.mp told
    injection same with sameHandler
    change stored = handler at sameHandler
    subst sameHandler
    have found := ExtTreeMap.mem_toList_iff_getElem?_eq_some.mp (inTable present)
    by_cases sameId : call.rpcRequestId = rpcId
    · exact absent (sameId ▸ present)
    · exact registered.stored_ne member own sameId found
  split
  · rename_i stored
    obtain ⟨before, after, split⟩ :=
      List.append_of_mem (ExtTreeMap.mem_toList_iff_getElem?_eq_some.mpr stored)
    have nodup : routing.responseHandlers.toList.Nodup :=
      routing.handlers_distinct.imp fun different same => different (congrArg Prod.fst same)
    rw [split, List.nodup_append] at nodup
    rw [split] at silent ⊢
    rw [List.map_append, List.map_cons, heard_append,
      silent before (List.subset_append_left before _)
        fun present => nodup.2.2 _ present _ List.mem_cons_self rfl]
    have first : Action.heardBy handler (failure error (call.rpcRequestId, handler)) =
        some (.error none (some call.rpcRequestId) none error) := if_pos rfl
    rw [List.nil_append, heard, List.filterMap_cons_some first]
    exact congrArg (_ :: ·) (silent after
      (fun entry later => List.mem_append_right before (List.mem_cons_of_mem _ later))
      (List.nodup_cons.mp nodup.2.1).1)
  · rename_i absent
    exact silent _ (List.Subset.refl _) fun present =>
      absent (ExtTreeMap.mem_toList_iff_getElem?_eq_some.mp present)

/-- After a failure every handler has heard its last event: the one it had
heard already, or the error. -/
theorem heard_failed (registered : Registered routing calls log) (error : FrameDecodeError)
    {call : MadeCall H} (member : call ∈ calls) {handler : H}
    (own : call.onResponse = some handler) :
    let log' := log ++ routing.responseHandlers.toList.map (failure error)
    Hears call.rpcRequestId true (heard handler log') ∧
      (heard handler log' = heard handler log ∨
        (∀ event ∈ heard handler log, event.isTerminal = false) ∧
          heard handler log' =
            heard handler log ++ [.error none (some call.rpcRequestId) none error]) := by
  intro log'
  obtain ⟨closed, hears, stands⟩ := registered.told call member handler own
  rw [heard_append, registered.heard_failures member own]
  cases closed with
  | true =>
      rw [stands, if_neg (by simp), List.append_nil]
      exact ⟨hears, .inl rfl⟩
  | false =>
      rw [stands, if_pos (by simp)]
      exact ⟨hears.last rfl rfl, .inr ⟨hears.unfinished, rfl⟩⟩

theorem failed (registered : Registered routing calls log) (error : FrameDecodeError) :
    Registered (Routing.new : Routing H) calls
      (log ++ routing.responseHandlers.toList.map (failure error)) := by
  constructor
  · intro rpcId handler stored
    simp [Routing.new] at stored
  · exact registered.single
  · intro call member handler own
    exact ⟨true, (registered.heard_failed error member own).1, by simp [Routing.new]⟩
  · intro handler none
    rw [heard_append, registered.untold handler none]
    apply heard_eq_nil
    intro event told
    obtain ⟨⟨rpcId, stored⟩, present, same⟩ := List.mem_map.mp told
    injection same with sameHandler
    obtain ⟨call, member, -, own⟩ := registered.owned rpcId stored
      (ExtTreeMap.mem_toList_iff_getElem?_eq_some.mp present)
    exact none call member (sameHandler ▸ own)

end Registered

end Registered

/-! ## Whole lifetimes -/

section Lifetimes

variable {H : Type u}

/-- The handler a step registers. -/
def DispatcherStep.handler : DispatcherStep H → Option H
  | call _ _ onResponse _ => onResponse
  | _ => none

/-- The step does not install a stream method router. -/
def DispatcherStep.leavesRouter : DispatcherStep H → Bool
  | setStreamMethodRouter _ => false
  | _ => true

theorem Lifetime.step_handlers (life : Lifetime H) (handedOut : Nat) (step : DispatcherStep H) :
    (life.step handedOut step).1.calls.filterMap MadeCall.onResponse =
      life.calls.filterMap MadeCall.onResponse ++ step.handler.toList := by
  cases step with
  | call rpcRequest maxChunkSize onResponse prebufferResponse =>
      rw [Lifetime.step, List.filterMap_append]
      cases onResponse <;> rfl
  | _ => exact (List.append_nil _).symm

theorem RpcDispatcher.call_handlers (dispatcher : RpcDispatcher H) (rpcRequest : RpcRequest)
    (maxChunkSize : Nat) (onResponse : Option H) (prebufferResponse : Bool) (handedOut : Nat)
    (rpcId : UInt32) :
    (dispatcher.call rpcRequest maxChunkSize onResponse prebufferResponse
        handedOut).dispatcher.routing.responseHandlers[rpcId]? =
      if dispatcher.callId = rpcId ∧ onResponse.isSome then onResponse
      else dispatcher.routing.responseHandlers[rpcId]? := by
  cases onResponse with
  | none => simp [call, RpcRespondableSession.initRespondableRequest, routing]
  | some handler =>
      change (dispatcher.routing.responseHandlers.insert dispatcher.callId handler)[rpcId]? = _
      simp only [ExtTreeMap.getElem?_insert, Std.compare_eq_iff_eq, Option.isSome_some, and_true]

theorem RpcDispatcher.call_flags (dispatcher : RpcDispatcher H) (rpcRequest : RpcRequest)
    (maxChunkSize : Nat) (onResponse : Option H) (prebufferResponse : Bool) (handedOut : Nat)
    (rpcId : UInt32) :
    (dispatcher.call rpcRequest maxChunkSize onResponse prebufferResponse
        handedOut).dispatcher.routing.prebufferingFlags[rpcId]? =
      if dispatcher.callId = rpcId then some prebufferResponse
      else dispatcher.routing.prebufferingFlags[rpcId]? := by
  have inserted : (dispatcher.call rpcRequest maxChunkSize onResponse prebufferResponse
      handedOut).dispatcher.routing.prebufferingFlags =
        dispatcher.routing.prebufferingFlags.insert dispatcher.callId prebufferResponse := by
    cases onResponse <;> rfl
  rw [inserted]
  simp only [ExtTreeMap.getElem?_insert, Std.compare_eq_iff_eq]

variable [DecidableEq H]

/-- A lifetime without router in which the handlers have heard what they may. -/
structure Lifetime.Told (life : Lifetime H) : Prop where
  setup : life.dispatcher.rpcRespondableSession.streamMethodRouter = none
  registered : Registered life.dispatcher.routing life.calls life.log

namespace Lifetime.Told

variable {life : Lifetime H} {idSpace : IdSpace} {handedOut : Nat}

theorem step (told : life.Told) (numbered : life.Numbered idSpace handedOut)
    (few : handedOut ≤ 2 ^ 31) {step : DispatcherStep H} (unrouted : step.leavesRouter = true)
    (fresh : ∀ handler, step.handler = some handler →
      ∀ call ∈ life.calls, call.onResponse ≠ some handler) :
    (life.step handedOut step).1.Told := by
  cases step with
  | call rpcRequest maxChunkSize onResponse prebufferResponse =>
      refine ⟨told.setup, told.registered.call ?_ fresh
        (life.dispatcher.call_handlers rpcRequest maxChunkSize onResponse prebufferResponse
          handedOut)⟩
      intro call member same
      exact (List.nodup_cons.mp (numbered.ids_nodup few)).1
        (List.mem_map.mpr ⟨call, member, same⟩)
  | readBytes bytes =>
      have read := life.dispatcher.readBytes_eq bytes
      have noError : ∀ event ∈ (life.dispatcher.session.decodeBytes bytes).1,
          event.isError = true → event.requestId = none := fun event member isError =>
        RpcSession.decodeItems_error member isError
      have after := told.registered.onEvents noError
        life.dispatcher.rpcRespondableSession.catchAllResponseHandler
      rw [← told.setup] at after
      constructor
      · rw [Lifetime.step, read]
        exact told.setup
      · rw [Lifetime.step, read]
        exact after
  | failAllPendingRequests error => exact ⟨told.setup, told.registered.failed error⟩
  | setStreamMethodRouter router => contradiction
  | respond | createResponseWriter | deleteRpcRequest | draw => exact ⟨told.setup, told.registered⟩

theorem run (told : life.Told) (numbered : life.Numbered idSpace handedOut)
    {steps : List (DispatcherStep H)} (few : (life.run handedOut steps).2 ≤ 2 ^ 31)
    (unrouted : ∀ step ∈ steps, step.leavesRouter = true)
    (distinct : (life.calls.filterMap MadeCall.onResponse ++
      steps.filterMap DispatcherStep.handler).Nodup) :
    (life.run handedOut steps).1.Told := by
  induction steps generalizing life handedOut with
  | nil => exact told
  | cons first rest ih =>
      have early : handedOut ≤ 2 ^ 31 := (life.run_handedOut handedOut _).trans few
      have fresh : ∀ handler, first.handler = some handler →
          ∀ call ∈ life.calls, call.onResponse ≠ some handler := by
        intro handler registers call member own
        exact (List.nodup_append.mp distinct).2.2 handler
          (List.mem_filterMap.mpr ⟨call, member, own⟩) handler
          (List.mem_filterMap.mpr ⟨first, List.mem_cons_self, registers⟩) rfl
      apply ih (told.step numbered early (unrouted first List.mem_cons_self) fresh)
        (numbered.step first) few fun step member => unrouted step (List.mem_cons_of_mem _ member)
      rw [step_handlers, List.append_assoc]
      cases registers : first.handler with
      | none => rwa [List.filterMap_cons_none registers] at distinct
      | some handler => rwa [List.filterMap_cons_some registers] at distinct

end Lifetime.Told

/-- Each handler hears only its own request, at most one terminal event and
nothing after it; failing the pending requests brings every handler to its
terminal event and leaves nothing stored. -/
theorem one_terminal_event (idSpace : IdSpace) (start : Nat) (steps : List (DispatcherStep H))
    (unrouted : ∀ step ∈ steps, step.leavesRouter = true)
    (distinct : (steps.filterMap DispatcherStep.handler).Nodup)
    (few : ((Lifetime.new idSpace start).run (start + 2) steps).2 < 2 ^ 31) :
    let run := (Lifetime.new idSpace start : Lifetime H).run (start + 2) steps
    (∀ call ∈ run.1.calls, ∀ handler, call.onResponse = some handler →
      (∀ event ∈ heard handler run.1.log, event.requestId = some call.rpcRequestId) ∧
      ∀ before event after, heard handler run.1.log = before ++ event :: after →
        event.isTerminal = true → after = []) ∧
    ∀ error,
      let failed := (run.1.step run.2 (.failAllPendingRequests error)).1
      (∀ call ∈ run.1.calls, ∀ handler, call.onResponse = some handler →
        (∃ front last, heard handler failed.log = front ++ [last] ∧ last.isTerminal = true ∧
          ∀ event ∈ front, event.isTerminal = false) ∧
        (heard handler failed.log = heard handler run.1.log ∨
          (∀ event ∈ heard handler run.1.log, event.isTerminal = false) ∧
            heard handler failed.log = heard handler run.1.log ++
              [.error none (some call.rpcRequestId) none error])) ∧
      failed.dispatcher.routing.responseHandlers = ∅ ∧
      failed.dispatcher.routing.prebufferingFlags = ∅ ∧
      failed.dispatcher.routing.prebufferedResponses = ∅ ∧
      failed.dispatcher.rpcRequestQueue = [] := by
  intro run
  have created : (Lifetime.new idSpace start : Lifetime H).Told := ⟨rfl, Registered.new⟩
  have told := created.run (Lifetime.new_numbered idSpace (Nat.le_refl _)) few.le unrouted distinct
  constructor
  · intro call member handler own
    obtain ⟨closed, hears, -⟩ := told.registered.told call member handler own
    exact ⟨hears.named, fun before event after => hears.nothing_after⟩
  · intro error failed
    refine ⟨?_, rfl, rfl, rfl, rfl⟩
    intro call member handler own
    obtain ⟨hears, heardBefore⟩ := told.registered.heard_failed error member own
    exact ⟨hears.finished, heardBefore⟩

/-- A call answered in full and a prebuffered one that is still waiting. -/
theorem one_terminal_event_answered :
    let steps : List (DispatcherStep Bool) :=
      [.call ⟨5, none, none, true⟩ 64 (some true) false, .readBytes RpcDispatcher.answerToOne,
        .call ⟨5, none, none, true⟩ 64 (some false) true]
    let run := (Lifetime.new .client 0).run 2 steps
    let failed := (run.1.step run.2 (.failAllPendingRequests .readAfterEnd)).1
    heard true run.1.log = RpcHeader.streamEvents ⟨.response, 1, 5, [0]⟩ [[9]] ∧
      (heard false failed.log = heard false run.1.log ∨
        heard false failed.log = heard false run.1.log ++
          [.error none (some 2) none .readAfterEnd]) ∧
      failed.dispatcher.routing.responseHandlers = ∅ := by
  intro steps run failed
  have settled := one_terminal_event .client 0 steps (by decide) (by decide) (by decide)
  have waiting : ⟨2, 2, some false⟩ ∈ run.1.calls := List.mem_cons_of_mem _ List.mem_cons_self
  refine ⟨by decide, ?_, (settled.2 .readAfterEnd).2.1⟩
  rcases ((settled.2 .readAfterEnd).1 _ waiting false rfl).2 with same | ⟨-, told⟩
  · exact .inl same
  · exact .inr told

end Lifetimes

end Muxio.Rpc
