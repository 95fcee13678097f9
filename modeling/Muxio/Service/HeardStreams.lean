import Muxio.Service.FlushedMessages
import Muxio.Service.Traffic

/-!
# What handlers hear of a stream

Whatever has been written to a stream, what has arrived of it decodes to its header,
chunks, and possibly the end, in this order and each of header and end at most once.  If
the method of the stream has a streaming handler, that handler is called with exactly
these events.
-/

namespace Muxio.Rpc

open Muxio.Framing
open Muxio.Transition

/-! ## Parts of messages -/

namespace RpcHeader

theorem openEvents_part (header : RpcHeader) (payloads : List (List UInt8)) :
    ∃ chunks, header.openEvents payloads <+: header.streamEvents chunks := by
  unfold openEvents
  split
  · exact ⟨[], List.nil_prefix⟩
  · rename_i kept _
    exact ⟨kept, List.prefix_append _ _⟩

theorem emittedEvents_part (header : RpcHeader) (emitted : Emitted) :
    ∃ chunks, header.emittedEvents emitted <+: header.streamEvents chunks := by
  unfold emittedEvents
  split
  · exact header.openEvents_part _
  · unfold closedEvents
    split
    · exact header.openEvents_part _
    · rename_i kept cut
      rw [openEvents, cut]
      exact ⟨kept, List.prefix_refl _⟩

end RpcHeader

/-- What has been emitted of a stream decodes to a part of a message. -/
theorem Outgoing.events_part (outgoing : Outgoing) :
    ∃ chunks, eventsOfFrames outgoing.frames <+: outgoing.header.onWire.streamEvents chunks := by
  rcases outgoing.exists_emitted with ⟨emitted, later, data, framesEq, agrees, allSent, -⟩
  rw [eventsOfFrames, framesEq,
    RpcHeader.runEntry_emitted outgoing.header.onWire_fits agrees allSent]
  exact outgoing.header.onWire.emittedEvents_part emitted

/-- The header that a stream announces names its method. -/
theorem Outgoing.method_of_header {outgoing : Outgoing} {rpcRequestId : UInt32}
    {rpcMethodId : UInt64} {rpcHeader : RpcHeader}
    (member : .header rpcRequestId rpcMethodId rpcHeader ∈ eventsOfFrames outgoing.frames) :
    rpcMethodId = outgoing.header.rpcMethodId := by
  rcases outgoing.events_part with ⟨chunks, part⟩
  rcases List.mem_append.mp (part.subset member) with front | ending
  · rcases List.mem_cons.mp front with first | chunk
    · cases first
      rfl
    · rcases List.mem_map.mp chunk with ⟨piece, -, differs⟩
      cases differs
  · cases List.mem_singleton.mp ending

end Muxio.Rpc

namespace Muxio.Service

open Std
open Muxio.Framing
open Muxio.Rpc

universe u

/-! ## Calls of a handler -/

theorem heard_filter {H : Type u} [DecidableEq H] {handler : H} {log : List (Action H)}
    {keep : Action H → Bool}
    (own : ∀ action ∈ log, (Action.heardBy handler action).isSome → keep action = true) :
    heard handler log = heard handler (log.filter keep) := by
  induction log with
  | nil => rfl
  | cons action rest ih =>
      have later := ih fun other member => own other (List.mem_cons_of_mem _ member)
      simp only [heard] at later ⊢
      cases hears : Action.heardBy handler action with
      | none =>
          rw [List.filterMap_cons_none hears, later, List.filter_cons]
          split
          · rw [List.filterMap_cons_none hears]
          · rfl
      | some event =>
          have kept := own action List.mem_cons_self (by rw [hears]; rfl)
          rw [List.filter_cons, if_pos kept, List.filterMap_cons_some hears,
            List.filterMap_cons_some hears, later]

/-- A stored handler without prebuffering is called with a part of a message that the
router leaves alone. -/
theorem onEvents_part {H : Type u} {router : Option (StreamMethodRouter H)} {catchAll : Bool}
    {rpcId : UInt32} {slot : Slot H} {handler : H} (stored : slot.handler = some handler)
    (plain : slot.prebuffering ≠ some true) {header : RpcHeader} {chunks : List (List UInt8)}
    (front : List RpcStreamEvent) {part : List RpcStreamEvent}
    (isPart : part <+: front ++ (chunks.map header.chunkEvent ++ [header.endEvent]))
    (unrouted : ∀ event ∈ front, slot.route router rpcId event = (slot, []))
    (goesOn : ∀ event ∈ front, (event.isEnd || event.isError) = false) :
    (slot.onEvents router catchAll rpcId part).2 = part.map (.invoked handler) := by
  have unroutedHere : ∀ event ∈ part, slot.route router rpcId event = (slot, []) := by
    intro event member
    rcases List.mem_append.mp (isPart.subset member) with early | late
    · exact unrouted event early
    · rcases List.mem_append.mp late with chunk | ending
      · rcases List.mem_map.mp chunk with ⟨piece, -, rfl⟩
        rfl
      · rw [List.mem_singleton.mp ending]
        rfl
  have body : ∀ event ∈ front ++ chunks.map header.chunkEvent,
      (event.isEnd || event.isError) = false := by
    intro event member
    rcases List.mem_append.mp member with early | chunk
    · exact goesOn event early
    · rcases List.mem_map.mp chunk with ⟨piece, -, rfl⟩
      rfl
  rw [← List.append_assoc] at isPart
  rcases List.prefix_concat_iff.mp isPart with rfl | inBody
  · exact Slot.onEvents_plain router catchAll rpcId stored plain unroutedHere body
      (Nat.le_refl 1)
  · have whole : (slot.onEvents router catchAll rpcId (part ++ [])).2 =
        (part ++ []).map (.invoked handler) := by
      apply Slot.onEvents_plain router catchAll rpcId stored plain
      · simpa using unroutedHere
      · exact fun event member => body event (inBody.subset member)
      · exact Nat.zero_le 1
    simpa using whole

/-- The slot of a request that has been routed to a streaming method. -/
def streamSlot (methodId : UInt64) : Slot (EndpointHandler Nat) :=
  ⟨some (.stream methodId), none, none⟩

section Heard

variable {endpoint : RpcServiceEndpoint} {header : RpcHeader} {pieces : List (List UInt8)}

/-- What arrives of a stream is routed to the handler of its method and heard by it, and
nothing else happens. -/
theorem slotRun_part (registered : endpoint.streamHandlers.contains header.rpcMethodId = true)
    {part : List RpcStreamEvent} (isPart : part <+: header.streamEvents pieces) :
    (Slot.empty.onEvents (some (endpoint.router (R := Nat))) true header.rpcRequestId part).2 =
      (if part = [] then [] else
        [.routed header.rpcMethodId header.rpcRequestId (.stream header.rpcMethodId)]) ++
      part.map (.invoked (.stream header.rpcMethodId)) := by
  cases part with
  | nil => rfl
  | cons first rest =>
      rcases List.cons_prefix_cons.mp isPart with ⟨rfl, restPart⟩
      have offers : endpoint.router (R := Nat) header.rpcMethodId header.rpcRequestId =
          some (.stream header.rpcMethodId) := if_pos registered
      have announced : Slot.empty.onEvent (some endpoint.router) true header.rpcRequestId
          header.headerEvent = (streamSlot header.rpcMethodId,
            [.routed header.rpcMethodId header.rpcRequestId (.stream header.rpcMethodId),
              .invoked (.stream header.rpcMethodId) header.headerEvent]) := by
        simp only [Slot.onEvent, Slot.route, RpcHeader.headerEvent, Option.bind_some, offers]
        rfl
      have later : ((streamSlot header.rpcMethodId).onEvents (some endpoint.router) true
          header.rpcRequestId rest).2 = rest.map (.invoked (.stream header.rpcMethodId)) := by
        have plain : (streamSlot header.rpcMethodId).prebuffering ≠ some true := by
          intro flagged
          contradiction
        exact onEvents_part rfl plain [] restPart (fun _ member => absurd member List.not_mem_nil)
          fun _ member => absurd member List.not_mem_nil
      rw [Slot.onEvents, announced]
      simp only
      rw [later, if_neg (List.cons_ne_nil _ _)]
      rfl

/-- The streaming handler of a method hears what has arrived of a stream. -/
theorem heard_part (registered : endpoint.streamHandlers.contains header.rpcMethodId = true)
    {part : List RpcStreamEvent} (isPart : part <+: header.streamEvents pieces) :
    heard (.stream header.rpcMethodId) (Slot.empty.onEvents
      (some (endpoint.router (R := Nat))) true header.rpcRequestId part).2 = part := by
  rw [slotRun_part registered isPart, heard_append, heard_invoked]
  split <;> rfl

end Heard

end Muxio.Service
