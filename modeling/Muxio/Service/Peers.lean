import Muxio.Service.CallResults
import Muxio.Service.PeerMessages

/-!
# Two peers that call each other

Both ends of a connection call methods of the other while they serve its calls.  Frames
of all streams are put on the wire in any interleaving, both ends read in pieces of any
size, and the handlers run in any order.  Every such run keeps both ends consistent with
what they have received.  As long as the two ends draw their request ids from different
halves of the id space, or only one of them makes calls, the calls of either end return
what the handlers of the other make of them.
-/

namespace Muxio.Service

open Std
open Muxio.Framing
open Muxio.Rpc
open Muxio.Transition

universe u

/-! ## The invariant of a conversation -/

/-- A call must be of a method that neither end streams, and the server may make calls only
if the two ends draw their ids from different spaces. -/
def PeerStep.Allowed (endpoint : Side → RpcServiceEndpoint) (idSpace : Side → IdSpace) :
    PeerStep → Prop
  | .call side methodId _ =>
      (∀ other, (endpoint other).streamHandlers.contains methodId = false) ∧
        (idSpace .client ≠ idSpace .server ∨ side = .client)
  | _ => True

namespace PrebufferedService

variable {service : PrebufferedService} {endpoint : Side → RpcServiceEndpoint}
  {idSpace : Side → IdSpace}

/-- Both ends have heard a part of what the other sends. -/
structure Conversing (service : PrebufferedService) (endpoint : Side → RpcServiceEndpoint)
    (idSpace : Side → IdSpace) : Prop where
  endpoints : ∀ side, (service.node side).endpoint = endpoint side
  valid : service.Valid idSpace
  hears : ∀ side, ∃ messages arrived,
    Hears (service.node side) (service.node side.peer) messages arrived
  unstreamed : ∀ side, ∀ call ∈ (service.node side).made,
    ∀ other, (endpoint other).streamHandlers.contains call.methodId = false
  separate : idSpace .client ≠ idSpace .server ∨ service.server.made = []

/-- The ids of the messages of an end are distinct if those of its calls and those of its
responses are. -/
theorem messages_nodup {messages : List PeerMessage}
    (calls : ((messages.filterMap PeerMessage.asCall).map PrebufferedCall.rpcRequestId).Nodup)
    (responses : ((messages.filterMap PeerMessage.asResponse).map Prod.fst).Nodup)
    (apart : ∀ call ∈ messages.filterMap PeerMessage.asCall,
      ∀ entry ∈ messages.filterMap PeerMessage.asResponse, call.rpcRequestId ≠ entry.1) :
    (messages.map PeerMessage.rpcRequestId).Nodup := by
  induction messages with
  | nil => exact List.nodup_nil
  | cons message rest ih =>
      have memRest : ∀ rpcRequestId ∈ rest.map PeerMessage.rpcRequestId,
          (∃ call ∈ rest.filterMap PeerMessage.asCall, call.rpcRequestId = rpcRequestId) ∨
            ∃ entry ∈ rest.filterMap PeerMessage.asResponse, entry.1 = rpcRequestId := by
        intro rpcRequestId member
        rcases List.mem_map.mp member with ⟨other, otherMem, rfl⟩
        cases other with
        | call made => exact .inl ⟨made, List.mem_filterMap.mpr ⟨_, otherMem, rfl⟩, rfl⟩
        | response served => exact .inr ⟨served, List.mem_filterMap.mpr ⟨_, otherMem, rfl⟩, rfl⟩
      cases message with
      | call made =>
          have callsEq : (PeerMessage.call made :: rest).filterMap PeerMessage.asCall =
              made :: rest.filterMap PeerMessage.asCall := rfl
          have responsesEq : (PeerMessage.call made :: rest).filterMap PeerMessage.asResponse =
              rest.filterMap PeerMessage.asResponse := rfl
          rw [callsEq] at calls apart
          rw [responsesEq] at responses apart
          rw [List.map_cons, List.nodup_cons] at calls
          rw [List.map_cons, List.nodup_cons]
          refine ⟨?_, ih calls.2 responses fun call member =>
            apart call (List.mem_cons_of_mem _ member)⟩
          intro used
          rcases memRest _ used with ⟨call, callMem, same⟩ | ⟨entry, entryMem, same⟩
          · exact calls.1 (List.mem_map.mpr ⟨call, callMem, same⟩)
          · exact apart made List.mem_cons_self entry entryMem same.symm
      | response served =>
          have callsEq : (PeerMessage.response served :: rest).filterMap PeerMessage.asCall =
              rest.filterMap PeerMessage.asCall := rfl
          have responsesEq : (PeerMessage.response served :: rest).filterMap
              PeerMessage.asResponse = served :: rest.filterMap PeerMessage.asResponse := rfl
          rw [callsEq] at calls apart
          rw [responsesEq] at responses apart
          rw [List.map_cons, List.nodup_cons] at responses
          rw [List.map_cons, List.nodup_cons]
          refine ⟨?_, ih calls responses.2 fun call callMem entry member =>
            apart call callMem entry (List.mem_cons_of_mem _ member)⟩
          intro used
          rcases memRest _ used with ⟨call, callMem, same⟩ | ⟨entry, entryMem, same⟩
          · exact apart call callMem served List.mem_cons_self same
          · exact responses.1 (List.mem_map.mpr ⟨entry, entryMem, same⟩)

namespace Conversing

/-- The other direction, seen from this end. -/
theorem hearsPeer (conversing : service.Conversing endpoint idSpace) (side : Side) :
    ∃ messages arrived, Hears (service.node side.peer) (service.node side) messages arrived := by
  have hears := conversing.hears side.peer
  rw [side.peer_peer] at hears
  exact hears

/-- What the peer has collected are calls of this end. -/
theorem collected (conversing : service.Conversing endpoint idSpace) (side : Side) :
    ∀ entry ∈ (service.node side.peer).waiting ++ (service.node side.peer).served,
      ∃ call ∈ (service.node side).made, entry = (call.rpcRequestId, call.received) := by
  rcases conversing.hearsPeer side with ⟨_, _, hears⟩
  exact hears.asked

theorem collected_nodup (conversing : service.Conversing endpoint idSpace) (side : Side) :
    (((service.node side.peer).waiting ++ (service.node side.peer).served).map
      Prod.fst).Nodup := by
  rcases conversing.hearsPeer side with ⟨_, _, hears⟩
  exact hears.once

theorem served_nodup (conversing : service.Conversing endpoint idSpace) (side : Side) :
    ((service.node side.peer).served.map Prod.fst).Nodup :=
  (conversing.collected_nodup side).sublist ((List.sublist_append_right _ _).map Prod.fst)

theorem served_known (conversing : service.Conversing endpoint idSpace) (side : Side) :
    ∀ entry ∈ (service.node side.peer).served,
      entry.1 ∈ (service.node side).made.map PrebufferedCall.rpcRequestId := by
  intro entry member
  rcases conversing.collected side entry (List.mem_append_right _ member) with ⟨call, callMem, rfl⟩
  exact List.mem_map_of_mem callMem

section Ids

variable (conversing : service.Conversing endpoint idSpace)
  (few : ∀ side, service.handedOut side ≤ 2 ^ 31)

include conversing few

theorem sound (side : Side) : (service.node side).link.Sound :=
  (conversing.valid.ends side).sound (few side)

omit few in
theorem numbered (side : Side) : (service.node side).calls.map CallRecord.rpcRequestId =
    (service.node side).made.map PrebufferedCall.rpcRequestId := by
  rcases conversing.hearsPeer side with ⟨_, _, hears⟩
  exact hears.numbered

/-- All request ids of an end are distinct, the one for the next call included. -/
theorem requestIds_nodup (side : Side) :
    ((service.node side).state.dispatcher.callId ::
      (service.node side).made.map PrebufferedCall.rpcRequestId).Nodup := by
  have valid := conversing.valid.ends side
  rw [← conversing.numbered side]
  exact valid.request_ids ▸ valid.requests.ids_nodup (few side) (idSpace side)

theorem fresh (side : Side) : (service.node side).state.dispatcher.callId ∉
    (service.node side).made.map PrebufferedCall.rpcRequestId :=
  (List.nodup_cons.mp (conversing.requestIds_nodup few side)).1

theorem made_nodup (side : Side) :
    ((service.node side).made.map PrebufferedCall.rpcRequestId).Nodup :=
  (List.nodup_cons.mp (conversing.requestIds_nodup few side)).2

/-- Request ids of an end are early draws of its space. -/
theorem exists_draw (side : Side) {rpcRequestId : UInt32}
    (member : rpcRequestId ∈ (service.node side).state.dispatcher.callId ::
      (service.node side).made.map PrebufferedCall.rpcRequestId) :
    ∃ draw, draw < 2 ^ 31 ∧ rpcRequestId = (idSpace side).draw draw := by
  have valid := conversing.valid.ends side
  rw [← conversing.numbered side] at member
  have drawn : rpcRequestId ∈ ((service.node side).nextDraw ::
      (service.node side).calls.map CallRecord.draw).map (idSpace side).draw :=
    valid.request_ids ▸ member
  rcases List.mem_map.mp drawn with ⟨draw, drawMem, rfl⟩
  exact ⟨draw, Nat.lt_of_lt_of_le (valid.requests.early draw drawMem) (few side), rfl⟩

/-- Ends with different id spaces never use the same request id. -/
theorem requestIds_apart (apart : idSpace .client ≠ idSpace .server) (side : Side)
    {rpcRequestId : UInt32}
    (own : rpcRequestId ∈ (service.node side).state.dispatcher.callId ::
      (service.node side).made.map PrebufferedCall.rpcRequestId) :
    rpcRequestId ∉ (service.node side.peer).made.map PrebufferedCall.rpcRequestId := by
  intro other
  rcases conversing.exists_draw few side own with ⟨draw, early, rfl⟩
  rcases conversing.exists_draw few side.peer (List.mem_cons_of_mem _ other) with
    ⟨draw', early', same⟩
  have sameSpace := (IdSpace.draw_inj early early' same).1
  cases side with
  | client => exact apart sameSpace
  | server => exact apart sameSpace.symm

/-- No id is used for calls of both ends. -/
theorem made_apart (side : Side) {rpcRequestId : UInt32}
    (own : rpcRequestId ∈ (service.node side).made.map PrebufferedCall.rpcRequestId) :
    rpcRequestId ∉ (service.node side.peer).made.map PrebufferedCall.rpcRequestId := by
  rcases conversing.separate with apart | uncalled
  · exact conversing.requestIds_apart few apart side (List.mem_cons_of_mem _ own)
  · cases side with
    | client =>
        rw [show service.node Side.client.peer = service.server from rfl, uncalled]
        exact List.not_mem_nil
    | server =>
        rw [show service.node .server = service.server from rfl, uncalled] at own
        contradiction

/-- The id for the next call is not one of a call of the peer. -/
theorem callId_apart {side : Side} (mayCall : idSpace .client ≠ idSpace .server ∨ side = .client) :
    (service.node side).state.dispatcher.callId ∉
      (service.node side.peer).made.map PrebufferedCall.rpcRequestId := by
  rcases conversing.separate with apart | uncalled
  · exact conversing.requestIds_apart few apart side List.mem_cons_self
  · rcases mayCall with apart | rfl
    · exact conversing.requestIds_apart few apart side List.mem_cons_self
    · rw [show service.node Side.client.peer = service.server from rfl, uncalled]
      exact List.not_mem_nil

theorem ids {side : Side} {messages : List PeerMessage} {arrived : List RpcStreamEvent}
    (hears : Hears (service.node side) (service.node side.peer) messages arrived) :
    PeerIds (service.node side) (service.node side.peer) messages where
  made := conversing.made_nodup few side
  apart call member own := conversing.made_apart few side own (List.mem_map_of_mem member)
  sent := by
    apply messages_nodup
    · rw [hears.calls]
      exact conversing.made_nodup few side.peer
    · rw [hears.responses]
      exact conversing.served_nodup side
    · rw [hears.calls, hears.responses]
      intro call callMem entry entryMem same
      exact conversing.made_apart few side (conversing.served_known side entry entryMem)
        (same ▸ List.mem_map_of_mem callMem)
  answers := conversing.served_known side

end Ids

/-! ## Steps -/

/-- One end has changed on its own. -/
theorem change (conversing : service.Conversing endpoint idSpace) {side : Side}
    {changed : ServiceNode × Nat} (sameEndpoint : changed.1.endpoint = endpoint side)
    (changedValid : changed.1.toEnd.Valid (idSpace side) changed.2)
    (grows : service.handedOut side ≤ changed.2)
    (receives : ∃ messages arrived,
      Hears changed.1 (service.node side.peer) messages arrived)
    (sends : ∃ messages arrived, Hears (service.node side.peer) changed.1 messages arrived)
    (unstreamed : ∀ call ∈ changed.1.made,
      ∀ other, (endpoint other).streamHandlers.contains call.methodId = false)
    (separate : idSpace .client ≠ idSpace .server ∨
      (service.change side changed).server.made = []) :
    (service.change side changed).Conversing endpoint idSpace where
  endpoints other := by
    by_cases same : other = side
    · subst same
      rw [change_node]
      exact sameEndpoint
    · rw [Side.eq_peer_of_ne same, change_node_peer]
      exact conversing.endpoints side.peer
  valid := conversing.valid.change changedValid grows
  hears other := by
    by_cases same : other = side
    · subst same
      rw [change_node, change_node_peer]
      exact receives
    · rw [Side.eq_peer_of_ne same, side.peer_peer, change_node, change_node_peer]
      exact sends
  unstreamed other := by
    by_cases same : other = side
    · subst same
      rw [change_node]
      exact unstreamed
    · rw [Side.eq_peer_of_ne same, change_node_peer]
      exact conversing.unstreamed side.peer
  separate := separate

/-- One end has changed and has made no call. -/
theorem change_uncalled (conversing : service.Conversing endpoint idSpace) {side : Side}
    {changed : ServiceNode × Nat} (sameMade : changed.1.made = (service.node side).made)
    (sameEndpoint : changed.1.endpoint = (service.node side).endpoint)
    (changedValid : changed.1.toEnd.Valid (idSpace side) changed.2)
    (grows : service.handedOut side ≤ changed.2)
    (receives : ∃ messages arrived,
      Hears changed.1 (service.node side.peer) messages arrived)
    (sends : ∃ messages arrived, Hears (service.node side.peer) changed.1 messages arrived) :
    (service.change side changed).Conversing endpoint idSpace := by
  apply conversing.change (sameEndpoint.trans (conversing.endpoints side)) changedValid grows
    receives sends
  · rw [sameMade]
    exact conversing.unstreamed side
  · refine conversing.separate.imp_right fun uncalled => ?_
    cases side with
    | client => exact uncalled
    | server => exact sameMade.trans uncalled

section Steps

variable (conversing : service.Conversing endpoint idSpace)
  (few : ∀ side, service.handedOut side ≤ 2 ^ 31)

include conversing few

theorem send (side : Side) (streamId : UInt32) :
    (service.peerStep (.send side streamId)).Conversing endpoint idSpace := by
  rcases conversing.hears side with ⟨messages, arrived, hears⟩
  rcases conversing.hearsPeer side with ⟨sent, known, hearsPeer⟩
  apply conversing.change_uncalled
  case sameMade => rfl
  case sameEndpoint => rfl
  case changedValid => exact (conversing.valid.ends side).act (.send streamId)
  case grows => exact ConnectionEnd.act_handedOut _ _ _
  case receives =>
    exact ⟨messages, arrived, hears.of_receiver rfl rfl rfl rfl hears.sorting rfl rfl (.refl _)⟩
  case sends =>
    exact ⟨sent, known, hearsPeer.of_sender (conversing.sound few side) rfl
      (Link.send_streams _ streamId) rfl rfl rfl (Link.send_wire _ streamId)
      (Link.send_delivered _ streamId)⟩

theorem draw (side : Side) :
    (service.peerStep (.draw side)).Conversing endpoint idSpace := by
  rcases conversing.hears side with ⟨messages, arrived, hears⟩
  rcases conversing.hearsPeer side with ⟨sent, known, hearsPeer⟩
  apply conversing.change_uncalled
  case sameMade => rfl
  case sameEndpoint => rfl
  case changedValid => exact (conversing.valid.ends side).act .draw
  case grows => exact ConnectionEnd.act_handedOut _ _ _
  case receives =>
    exact ⟨messages, arrived, hears.of_receiver rfl rfl rfl rfl hears.sorting rfl rfl (.refl _)⟩
  case sends =>
    exact ⟨sent, known, hearsPeer.of_sender (conversing.sound few side) rfl rfl rfl rfl rfl
      ⟨[], (List.append_nil _).symm⟩ rfl⟩

theorem serve (side : Side) (index : Nat) :
    (service.peerStep (.serve side index)).Conversing endpoint idSpace := by
  rcases conversing.hears side with ⟨messages, arrived, hears⟩
  rcases conversing.hearsPeer side with ⟨sent, known, hearsPeer⟩
  rcases (service.node side).serve_keeps index (service.handedOut side) with
    ⟨sameEndpoint, sameMade, -⟩
  apply conversing.change_uncalled sameMade sameEndpoint
    (ServiceNode.serve_valid (conversing.valid.ends side) index) (ServiceNode.le_serve _ _ _)
  · exact ⟨messages, arrived, hears.serve index (service.handedOut side)⟩
  · cases found : (service.node side).waiting[index]? with
    | none =>
        rw [ServiceNode.serve_none found]
        exact ⟨sent, known, hearsPeer⟩
    | some entry =>
        have unstreamed : (service.node side.peer).endpoint.streamHandlers.contains
            entry.2.rpcMethodId = false := by
          rcases hears.asked entry (List.mem_append_left _ (List.mem_of_getElem? found)) with
            ⟨call, callMem, rfl⟩
          rw [conversing.endpoints]
          exact conversing.unstreamed side.peer call callMem side.peer
        exact ⟨_, known, hearsPeer.served (conversing.sound few side) found unstreamed _⟩

theorem call {side : Side} {methodId : UInt64}
    (unstreamed : ∀ other, (endpoint other).streamHandlers.contains methodId = false)
    (mayCall : idSpace .client ≠ idSpace .server ∨ side = .client) (encodedArgs : List UInt8) :
    (service.peerStep (.call side methodId encodedArgs)).Conversing endpoint idSpace := by
  rcases conversing.hears side with ⟨messages, arrived, hears⟩
  rcases conversing.hearsPeer side with ⟨sent, known, hearsPeer⟩
  apply conversing.change (conversing.endpoints side)
    (ServiceNode.call_valid (conversing.valid.ends side) methodId encodedArgs)
    (ConnectionEnd.act_handedOut _ _ _)
  · exact ⟨messages, arrived, hears.call (conversing.ids few hears)
      (conversing.sound few side.peer) (conversing.fresh few side)
      (conversing.callId_apart few mayCall) methodId encodedArgs (service.handedOut side)⟩
  · refine ⟨_, known, hearsPeer.called (conversing.sound few side) ?_ encodedArgs _⟩
    rw [conversing.endpoints]
    exact unstreamed side.peer
  · intro call member
    rcases List.mem_append.mp member with early | late
    · exact conversing.unstreamed side call early
    · rw [List.mem_singleton.mp late]
      exact unstreamed
  · rcases mayCall with apart | rfl
    · exact .inl apart
    · exact conversing.separate

/-- A read changes neither the link of the reader nor its counter. -/
theorem read_eq (side : Side) (count : Nat) :
    ∃ state log waiting, (service.node side).read ((service.node side.peer).link.chunk count)
        (service.handedOut side) =
      ({ service.node side with state := state, log := log, waiting := waiting },
        service.handedOut side) := by
  rcases conversing.hears side with ⟨messages, arrived, hears⟩
  rcases hears.read (conversing.ids few hears) (conversing.sound few side.peer) count
    (service.handedOut side) with ⟨state, log, waiting, _, readEq, _, _⟩
  exact ⟨state, log, waiting, readEq⟩

theorem read (side : Side) (count : Nat) :
    (service.peerStep (.read side count)).Conversing endpoint idSpace := by
  rcases conversing.hears side with ⟨messages, arrived, hears⟩
  rcases conversing.hearsPeer side with ⟨sent, known, hearsPeer⟩
  have delivered := conversing.valid.deliver side.peer count
  rcases hears.read (conversing.ids few hears) (conversing.sound few side.peer) count
    (service.handedOut side) with ⟨state, log, waiting, queue, readEq, dispatcherEq, next⟩
  let after : ServiceNode :=
    { service.node side with state := state, log := log, waiting := waiting }
  let sender : ServiceNode :=
    { service.node side.peer with link := (service.node side.peer).link.deliver count }
  have stepped : service.peerStep (.read side count) =
      (service.setNode sender side.peer).change side (after, service.handedOut side) :=
    congrArg (PrebufferedService.change (service.setNode sender side.peer) side) readEq
  have nodeEq : (service.peerStep (.read side count)).node side = after := by
    rw [stepped, change_node]
  have peerEq : (service.peerStep (.read side count)).node side.peer = sender := by
    rw [stepped, change_node_peer]
    cases side <;> rfl
  have kept : Hears (service.node side.peer) after sent known :=
    hearsPeer.of_sender (conversing.sound few side) rfl rfl rfl rfl rfl
      ⟨[], (List.append_nil _).symm⟩ rfl
  have other : Hears sender after sent known :=
    kept.of_receiver rfl rfl rfl rfl kept.sorting rfl rfl (.refl _)
  constructor
  case endpoints =>
    intro reader
    rw [peerStep_endpoint]
    exact conversing.endpoints reader
  case valid =>
    rw [stepped]
    refine delivered.change ?_ ?_
    · exact ServiceNode.valid_of_read (conversing.valid.ends side) dispatcherEq
    · cases side <;> exact Nat.le_refl _
  case hears =>
    intro reader
    by_cases same : reader = side
    · subst same
      rw [nodeEq, peerEq]
      exact ⟨messages, _, next⟩
    · rw [Side.eq_peer_of_ne same, side.peer_peer, nodeEq, peerEq]
      exact ⟨sent, known, other⟩
  case unstreamed =>
    intro reader
    by_cases same : reader = side
    · subst same
      rw [nodeEq]
      exact conversing.unstreamed reader
    · rw [Side.eq_peer_of_ne same, peerEq]
      exact conversing.unstreamed side.peer
  case separate =>
    refine conversing.separate.imp_right fun uncalled => ?_
    cases side <;> exact uncalled

end Steps

/-- One step of the peers. -/
theorem step (conversing : service.Conversing endpoint idSpace) {step : PeerStep}
    (allowed : step.Allowed endpoint idSpace)
    (fewAfter : ∀ side, (service.peerStep step).handedOut side ≤ 2 ^ 31) :
    (service.peerStep step).Conversing endpoint idSpace := by
  have few : ∀ side, service.handedOut side ≤ 2 ^ 31 :=
    fun side => (le_peerStep conversing.valid.oneCounter step side).trans (fewAfter side)
  cases step with
  | call side methodId encodedArgs => exact conversing.call few allowed.1 allowed.2 encodedArgs
  | send side streamId => exact conversing.send few side streamId
  | read side count => exact conversing.read few side count
  | serve side index => exact conversing.serve few side index
  | draw side => exact conversing.draw few side

/-- Every run is a conversation. -/
theorem run (conversing : service.Conversing endpoint idSpace) {steps : List PeerStep}
    (allowed : ∀ step ∈ steps, step.Allowed endpoint idSpace)
    (few : ∀ side, (service.peerRun steps).handedOut side ≤ 2 ^ 31) :
    (service.peerRun steps).Conversing endpoint idSpace := by
  induction steps generalizing service with
  | nil => exact conversing
  | cons first rest ih =>
      have next := conversing.step (allowed first List.mem_cons_self) fun side =>
        (le_peerRun (peerStep_oneCounter service first) rest side).trans (few side)
      exact ih next (fun step member => allowed step (List.mem_cons_of_mem _ member)) few

end Conversing

theorem new_conversing (endpoint : Side → RpcServiceEndpoint) (creation : Creation) :
    (new endpoint creation).Conversing endpoint creation.idSpace where
  endpoints side := by
    cases side <;> rfl
  valid := by
    refine ⟨creation.oneCounter, ?_⟩
    rintro (_ | _)
    · exact ConnectionEnd.new_valid _ (creation.created .client)
    · exact ConnectionEnd.new_valid _ (creation.created .server)
  hears side := by
    have router : ∀ event : RpcStreamEvent,
        offered (none : Option (StreamMethodRouter (EndpointHandler Nat))) event = none := by
      intro event
      cases event <;> rfl
    have sorting : Sorting [] Routing.new [] [] :=
      ⟨⟨fun _ _ isMade => (by cases isMade), fun _ _ isMade => (by cases isMade),
        fun _ _ => rfl⟩, fun rpcRequestId _ => Routing.slot_new rpcRequestId⟩
    refine ⟨[], [], ?_⟩
    cases side <;> exact
      { carried := .nil
        calls := rfl
        responses := rfl
        numbered := rfl
        received := Link.Received.new _ _
        unstreamed := fun _ member => by cases member
        router := fun event _ => router event
        sorting := sorting
        queue := rfl
        taken := .nil
        asked := fun _ member => by cases member
        once := List.nodup_nil }
  unstreamed side := by
    cases side <;> exact fun _ member => by cases member
  separate := .inr rfl

/-! ## Results -/

/-- Everything that was sent has arrived, and all handlers have run. -/
structure Quiescent (service : PrebufferedService) : Prop where
  sent : ∀ side, ∀ outgoing ∈ (service.node side).link.streams,
    (service.node side).link.sentOn outgoing.streamId = outgoing.frames
  drained : ∀ side, (service.node side).link.inFlight = []
  handled : ∀ side, (service.node side).waiting = []

namespace Conversing

section Served

variable (conversing : service.Conversing endpoint idSpace) (side : Side)

include conversing

/-- A call is collected at most once, and only as it was made. -/
theorem collected_subperm :
    ((service.node side.peer).waiting ++ (service.node side.peer).served).Subperm
      ((service.node side).made.map fun call => (call.rpcRequestId, call.received)) := by
  apply List.subperm_of_subset (conversing.collected_nodup side).of_map
  intro entry member
  rcases conversing.collected side entry member with ⟨call, callMem, rfl⟩
  exact List.mem_map_of_mem callMem

theorem served_subperm : (service.node side.peer).served.Subperm
    ((service.node side).made.map fun call => (call.rpcRequestId, call.received)) :=
  (List.sublist_append_right _ _).subperm.trans (conversing.collected_subperm side)

/-- In the end every call has been served. -/
theorem served_perm (few : ∀ side, service.handedOut side ≤ 2 ^ 31)
    (quiescent : service.Quiescent) : (service.node side.peer).served.Perm
    ((service.node side).made.map fun call => (call.rpcRequestId, call.received)) := by
  rcases conversing.hears side.peer with ⟨messages, arrived, hears⟩
  have ids := conversing.ids few hears
  rw [side.peer_peer] at hears ids
  have calls : ((service.node side).made.map fun call =>
      (call.rpcRequestId, call.received)).Nodup := by
    apply List.Nodup.of_map Prod.fst
    rw [List.map_map]
    exact conversing.made_nodup few side
  apply (List.perm_ext_iff_of_nodup (conversing.served_nodup side).of_map calls).mpr
  intro entry
  constructor
  · exact fun member => (conversing.served_subperm side).subset member
  · intro member
    rcases List.mem_map.mp member with ⟨call, callMem, rfl⟩
    rcases exists_of_mem_left hears.carried.flip ((hears.mem_made_iff call).mp callMem) with
      ⟨outgoing, outgoingMem, carries⟩
    rcases Outgoing.Carries.events carries with ⟨chunks, eventsEq, flattens, nonempty⟩
    have whole := hears.received.whole (conversing.sound few side)
      (hears.requestIds ▸ ids.sent) outgoingMem
      (quiescent.sent side outgoing outgoingMem) (quiescent.drained side)
    rw [eventsEq, carries.isHeader] at whole
    have complete := hears.taken
    rw [quiescent.handled side.peer, List.nil_append] at complete
    apply complete.symm.subset
    have asked : ((requestsOf (service.node side.peer).made arrived).filter
        fun event => event.requestId = some call.header.rpcRequestId) =
          call.header.streamEvents chunks :=
      (requestsOf_filter (ids.apart call callMem) arrived).trans whole
    refine (InMessages.mem_finalized_iff nonempty (asked ▸ List.prefix_refl _) _).mpr ⟨asked, ?_⟩
    rw [flattens]
    rfl

end Served

section Heard

variable (conversing : service.Conversing endpoint idSpace)
  (few : ∀ side, service.handedOut side ≤ 2 ^ 31) (side : Side) {index : Nat}
  {call : PrebufferedCall} (isMade : (service.node side).made[index]? = some call)

include conversing few isMade

/-- A request that was served under the id of a call is that call. -/
theorem received_mem_served
    (isServed : call.rpcRequestId ∈ (service.node side.peer).served.map Prod.fst) :
    (call.rpcRequestId, call.received) ∈ (service.node side.peer).served := by
  rcases List.mem_map.mp isServed with ⟨entry, entryMem, sameId⟩
  rcases conversing.collected side entry (List.mem_append_right _ entryMem) with
    ⟨other, otherMem, rfl⟩
  have sameCall := List.inj_on_of_nodup_map (conversing.made_nodup few side) otherMem
    (List.mem_of_getElem? isMade) sameId
  exact sameCall ▸ entryMem

/-- The response handler of a call that has not been served has heard nothing. -/
theorem unserved_unheard
    (unserved : call.rpcRequestId ∉ (service.node side.peer).served.map Prod.fst) :
    heard (.response index) (service.node side).log = [] := by
  rcases conversing.hears side with ⟨messages, arrived, hears⟩
  rw [hears.sorting.answering.told index call isMade]
  apply hears.received.absent (conversing.sound few side.peer)
  rw [hears.requestIds]
  intro used
  rcases List.mem_map.mp used with ⟨message, messageMem, sameId⟩
  cases message with
  | call made =>
      have sameMade : made.rpcRequestId = call.rpcRequestId := sameId
      apply (conversing.ids few hears).apart made ((hears.mem_made_iff made).mpr messageMem)
      rw [sameMade]
      exact List.mem_map_of_mem (List.mem_of_getElem? isMade)
  | response served =>
      exact unserved (sameId ▸ List.mem_map_of_mem ((hears.mem_served_iff served).mpr messageMem))

/-- What the response handler of a call that has been served has heard. -/
theorem heard_response
    (isServed : call.rpcRequestId ∈ (service.node side.peer).served.map Prod.fst) :
    let response := (service.node side.peer).response (call.rpcRequestId, call.received)
    ∃ chunks : List (List UInt8),
      heard (.response index) (service.node side).log <+:
          (RpcDispatcher.responseHeader response).streamEvents chunks ∧
        chunks.flatten = response.rpcPrebufferedPayloadBytes.getD [] ∧
        (service.Quiescent → heard (.response index) (service.node side).log =
          (RpcDispatcher.responseHeader response).streamEvents chunks) := by
  intro response
  have member := conversing.received_mem_served few side isMade isServed
  rcases conversing.hears side with ⟨messages, arrived, hears⟩
  have ids := conversing.ids few hears
  rcases exists_of_mem_left hears.carried.flip ((hears.mem_served_iff _).mp member) with
    ⟨outgoing, outgoingMem, carries⟩
  rcases Outgoing.Carries.events carries with ⟨chunks, eventsEq, flattens, -⟩
  have ownId : outgoing.header.rpcRequestId = call.rpcRequestId :=
    (congrArg RpcHeader.rpcRequestId carries.isHeader).trans
      (PeerMessage.header_requestId _ (.response (call.rpcRequestId, call.received)))
  have sound := conversing.sound few side.peer
  rw [hears.sorting.answering.told index call isMade]
  refine ⟨chunks, ?_, flattens, ?_⟩
  · have part := hears.received.part sound (hears.requestIds ▸ ids.sent) outgoingMem
    rw [ownId, eventsEq] at part
    exact part
  · intro quiescent
    have whole := hears.received.whole sound (hears.requestIds ▸ ids.sent) outgoingMem
      (quiescent.sent side.peer outgoing outgoingMem) (quiescent.drained side.peer)
    rw [ownId, eventsEq] at whole
    exact whole

/-- Only a call that has been served returns. -/
theorem served_of_ended
    (ended : (heard (.response index) (service.node side).log).any RpcStreamEvent.isEnd = true) :
    call.rpcRequestId ∈ (service.node side.peer).served.map Prod.fst := by
  by_contra unserved
  rw [conversing.unserved_unheard few side isMade unserved] at ended
  contradiction

theorem goesOn
    (unended : ¬ (heard (.response index) (service.node side).log).any RpcStreamEvent.isEnd =
      true) :
    ∀ event ∈ heard (.response index) (service.node side).log,
      event.isEnd = false ∧ event.isError = false := by
  intro event member
  have goesOn := List.any_eq_false.mp (Bool.eq_false_of_not_eq_true unended) event member
  refine ⟨Bool.eq_false_of_not_eq_true goesOn, ?_⟩
  by_cases isServed : call.rpcRequestId ∈ (service.node side.peer).served.map Prod.fst
  · rcases conversing.heard_response few side isMade isServed with ⟨chunks, part, -, -⟩
    exact (RpcHeader.mem_streamEvents (part.subset member)).2
  · rw [conversing.unserved_unheard few side isMade isServed] at member
    contradiction

variable {T : Type u} (decodeResponse : UInt64 → List UInt8 → Except IoError T)

/-- A call has returned its outcome once its response handler has heard the end of the
response, and nothing before. -/
theorem result_eq :
    (service.node side).result (decodeResponse call.methodId) index =
      if (heard (.response index) (service.node side).log).any RpcStreamEvent.isEnd then
        some ((endpoint side.peer).outcome decodeResponse call.methodId call.encodedArgs)
      else none := by
  by_cases ended :
      (heard (.response index) (service.node side).log).any RpcStreamEvent.isEnd = true
  · rw [if_pos ended]
    have isServed := conversing.served_of_ended few side isMade ended
    rcases conversing.heard_response few side isMade isServed with ⟨chunks, part, flattens, -⟩
    rw [ServiceNode.result, RpcHeader.eq_of_part_of_end part ended, callResult_response, flattens,
      responseResult_outcome, conversing.endpoints]
  · rw [if_neg ended, ServiceNode.result]
    exact callResult_unended _ (conversing.goesOn few side isMade ended)

/-- In the end every call has returned. -/
theorem result_of_quiescent (quiescent : service.Quiescent) :
    (service.node side).result (decodeResponse call.methodId) index =
      some ((endpoint side.peer).outcome decodeResponse call.methodId call.encodedArgs) := by
  have isServed : call.rpcRequestId ∈ (service.node side.peer).served.map Prod.fst :=
    List.mem_map_of_mem (f := Prod.fst)
      ((conversing.served_perm side few quiescent).symm.subset
        (List.mem_map.mpr ⟨call, List.mem_of_getElem? isMade, rfl⟩))
  rcases conversing.heard_response few side isMade isServed with ⟨chunks, -, flattens, whole⟩
  rw [ServiceNode.result, whole quiescent, callResult_response, flattens, responseResult_outcome,
    conversing.endpoints]

end Heard

end Conversing

/-! ## Whole runs -/

/-- Peers that draw their ids from different spaces answer each other. -/
theorem peers_answer_each_other {T : Type u}
    (decodeResponse : UInt64 → List UInt8 → Except IoError T)
    (endpoint : Side → RpcServiceEndpoint) (creation : Creation)
    (apart : creation.idSpace .client ≠ creation.idSpace .server) (steps : List PeerStep)
    (unstreamed : ∀ side methodId encodedArgs, .call side methodId encodedArgs ∈ steps →
      ∀ other, (endpoint other).streamHandlers.contains methodId = false)
    (few : ∀ side, ((new endpoint creation).peerRun steps).handedOut side ≤ 2 ^ 31) :
    let final : PrebufferedService := (new endpoint creation).peerRun steps
    ∀ side,
      ((final.node side).made.map fun call => (call.methodId, call.encodedArgs)) =
          steps.filterMap (PeerStep.called side) ∧
        (final.node side.peer).served.Subperm
          ((final.node side).made.map fun call => (call.rpcRequestId, call.received)) ∧
        (∀ index call result, (final.node side).made[index]? = some call →
          (final.node side).result (decodeResponse call.methodId) index = some result →
          result = (endpoint side.peer).outcome decodeResponse call.methodId
            call.encodedArgs) ∧
        (final.Quiescent →
          (final.node side.peer).served.Perm
            ((final.node side).made.map fun call => (call.rpcRequestId, call.received)) ∧
          ∀ index call, (final.node side).made[index]? = some call →
            (final.node side).result (decodeResponse call.methodId) index =
              some ((endpoint side.peer).outcome decodeResponse call.methodId
                call.encodedArgs)) := by
  intro final side
  have conversing : final.Conversing endpoint creation.idSpace := by
    apply (new_conversing endpoint creation).run _ few
    intro step member
    cases step with
    | call caller methodId encodedArgs =>
        exact ⟨unstreamed caller methodId encodedArgs member, .inl apart⟩
    | _ => trivial
  refine ⟨?_, conversing.served_subperm side, ?_, ?_⟩
  · rw [made_peerRun]
    cases side <;> rfl
  · intro index call result isMade returned
    rw [conversing.result_eq few side isMade decodeResponse] at returned
    split at returned
    · exact (Option.some.inj returned).symm
    · contradiction
  · intro quiescent
    refine ⟨conversing.served_perm side few quiescent, ?_⟩
    intro index call isMade
    exact conversing.result_of_quiescent few side isMade decodeResponse quiescent

/-- Two ends with a method each: the client doubles its arguments, the server reverses them. -/
def servingBoth : Side → RpcServiceEndpoint
  | .client => ⟨(∅ : ExtTreeMap UInt64 PrebufferedHandler compare).insert 7 fun args =>
      .ok (args ++ args), ∅, fun _ => []⟩
  | .server => ⟨(∅ : ExtTreeMap UInt64 PrebufferedHandler compare).insert 5 fun args =>
      .ok args.reverse, ∅, fun _ => []⟩

/-- Two calls that cross on the wire. -/
def crossingCalls : List PeerStep :=
  [.call .client 5 [1, 2, 3], .call .server 7 [9], .send .client 0, .send .server 2147483648,
    .send .client 0, .send .server 2147483648, .read .server 40, .read .client 60,
    .read .server 60, .read .client 60, .serve .client 0, .serve .server 0, .send .client 3,
    .send .server 2147483651, .send .client 3, .send .server 2147483651, .read .server 60,
    .read .client 60, .read .server 60, .read .client 60]

theorem peers_answer_each_other_crossing :
    let final : PrebufferedService := (new servingBoth separateProcesses).peerRun crossingCalls
    final.Quiescent ∧
      (final.node .client).result Except.ok 0 = some (.ok [3, 2, 1]) ∧
      (final.node .server).result Except.ok 0 = some (.ok [9, 9]) := by
  intro final
  have quiescent : final.Quiescent :=
    { sent := fun side => by cases side <;> decide +kernel
      drained := fun side => by cases side <;> decide +kernel
      handled := fun side => by cases side <;> decide +kernel }
  have unstreamed : ∀ side methodId encodedArgs,
      .call side methodId encodedArgs ∈ crossingCalls →
        ∀ other, (servingBoth other).streamHandlers.contains methodId = false := by
    intro side methodId encodedArgs _ other
    cases other <;> exact ExtTreeMap.contains_empty
  have answered := peers_answer_each_other (fun _ => Except.ok) servingBoth
    separateProcesses (by decide) crossingCalls unstreamed
    (fun side => by cases side <;> decide +kernel)
  have byClient : final.client.made = [⟨1, 5, [1, 2, 3]⟩] := by decide +kernel
  have byServer : final.server.made = [⟨2147483649, 7, [9]⟩] := by decide +kernel
  have toClient := ((answered .client).2.2.2 quiescent).2 0 _ (congrArg (·[0]?) byClient)
  have toServer := ((answered .server).2.2.2 quiescent).2 0 _ (congrArg (·[0]?) byServer)
  refine ⟨quiescent, toClient.trans ?_, toServer.trans ?_⟩
  · simp only [Side.peer, RpcServiceEndpoint.outcome, servingBoth,
      ExtTreeMap.getElem?_insert_self]
    rfl
  · simp only [Side.peer, RpcServiceEndpoint.outcome, servingBoth,
      ExtTreeMap.getElem?_insert_self]
    rfl

end PrebufferedService

end Muxio.Service
