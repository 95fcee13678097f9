import Muxio.Rpc.Gathering
import Muxio.Rpc.Link

/-!
# Whole messages over a link

A message that was complete when its stream was opened arrives as its header, its
payload in chunks, and its end.  At any time the receiver has been given a first
part of these events.  What a request queue and a response handler make of them
therefore depends on one question only: whether the end has arrived.
-/

namespace Muxio.Rpc

open Std
open Muxio.Framing
open Muxio.Transition

universe u

/-! ## Parts of a message -/

namespace RpcHeader

variable {header : RpcHeader} {chunks : List (List UInt8)}

/-- A message ends with its last event. -/
theorem isEnd_of_part {first rest : List RpcStreamEvent} {next : RpcStreamEvent}
    (part : first ++ next :: rest <+: header.streamEvents chunks) :
    ∀ event ∈ first, event.isEnd = false := by
  have proper : first <+: header.headerEvent :: chunks.map header.chunkEvent := by
    have front := (List.prefix_append first (next :: rest)).trans part
    rw [streamEvents, List.prefix_concat_iff] at front
    rcases front with whole | body
    · have lengths := part.length_le
      rw [streamEvents, ← whole, List.length_append, List.length_cons] at lengths
      omega
    · exact body
  intro event member
  rcases List.mem_cons.mp (proper.subset member) with rfl | chunk
  · rfl
  · rcases List.mem_map.mp chunk with ⟨bytes, -, rfl⟩
    rfl

/-- A part of a message announces at most one request. -/
theorem headers_of_part {events : List RpcStreamEvent}
    (part : events <+: header.streamEvents chunks) :
    (events.filter RpcStreamEvent.isHeader).length ≤ 1 := by
  have single : (header.streamEvents chunks).filter RpcStreamEvent.isHeader =
      [header.headerEvent] := by
    have noChunk : (chunks.map header.chunkEvent).filter RpcStreamEvent.isHeader = [] := by
      simp [chunkEvent, RpcStreamEvent.isHeader]
    rw [streamEvents, List.cons_append, List.filter_cons_of_pos rfl, List.filter_append, noChunk]
    rfl
  have fewer := (part.sublist.filter RpcStreamEvent.isHeader).length_le
  rw [single] at fewer
  exact fewer

/-- A part of a message that has an end is all of it. -/
theorem eq_of_part_of_end {events : List RpcStreamEvent}
    (part : events <+: header.streamEvents chunks) (ends : events.any RpcStreamEvent.isEnd = true) :
    events = header.streamEvents chunks := by
  obtain ⟨rest, whole⟩ := part
  cases rest with
  | nil => rwa [List.append_nil] at whole
  | cons next others =>
      obtain ⟨event, member, isEnd⟩ := List.any_eq_true.mp ends
      have goesOn := isEnd_of_part ⟨[], (List.append_nil _).trans whole⟩ event member
      rw [goesOn] at isEnd
      contradiction

/-- The request that a queue gathers from a message. -/
def gathered (header : RpcHeader) (payload : List UInt8) : RpcRequest where
  rpcMethodId := header.rpcMethodId
  rpcParamBytes := if header.rpcMetadataBytes.isEmpty then none else some header.rpcMetadataBytes
  rpcPrebufferedPayloadBytes := if payload.isEmpty then none else some payload
  isFinalized := true

end RpcHeader

/-! ## Requests gathered from messages -/

namespace RequestQueue

theorem length_update (id : UInt32) (change : RpcRequest → RpcRequest) (queue : RequestQueue) :
    (update id change queue).length = queue.length := by
  induction queue with
  | nil => rfl
  | cons entry rest ih =>
      rw [update]
      split
      · rfl
      · rw [List.length_cons, List.length_cons, ih]

theorem length_foldl_onEvent (queue : RequestQueue) (events : List RpcStreamEvent) :
    (events.foldl onEvent queue).length =
      queue.length + (events.filter RpcStreamEvent.isHeader).length := by
  induction events generalizing queue with
  | nil => rfl
  | cons event rest ih =>
      rw [List.foldl_cons, ih]
      cases event with
      | header rpcRequestId rpcMethodId rpcHeader =>
          rw [List.filter_cons_of_pos rfl]
          simp only [onEvent, List.length_append, List.length_cons, List.length_nil]
          omega
      | payloadChunk rpcHeader rpcRequestId rpcMethodId bytes =>
          rw [List.filter_cons_of_neg (by simp [RpcStreamEvent.isHeader]), onEvent, length_update]
      | «end» rpcHeader rpcRequestId rpcMethodId =>
          rw [List.filter_cons_of_neg (by simp [RpcStreamEvent.isHeader]), onEvent, length_update]
      | error rpcHeader rpcRequestId rpcMethodId frameDecodeError =>
          rw [List.filter_cons_of_neg (by simp [RpcStreamEvent.isHeader]), onEvent]

theorem mem_update {id : UInt32} {change : RpcRequest → RpcRequest} {queue : RequestQueue}
    {entry : UInt32 × RpcRequest} (member : entry ∈ update id change queue) :
    entry ∈ queue ∨ ∃ request, (id, request) ∈ queue ∧ entry = (id, change request) := by
  induction queue with
  | nil => contradiction
  | cons first rest ih =>
      rw [update] at member
      split at member
      · rename_i same
        rcases List.mem_cons.mp member with rfl | later
        · exact .inr ⟨first.2, by rw [← same]; exact List.mem_cons_self, by rw [same]⟩
        · exact .inl (List.mem_cons_of_mem _ later)
      · rcases List.mem_cons.mp member with rfl | later
        · exact .inl List.mem_cons_self
        · rcases ih later with kept | ⟨request, found, changed⟩
          · exact .inl (List.mem_cons_of_mem _ kept)
          · exact .inr ⟨request, List.mem_cons_of_mem _ found, changed⟩

/-- Without an end no request is completed. -/
theorem foldl_unfinalized {queue : RequestQueue} {events : List RpcStreamEvent}
    (unended : ∀ event ∈ events, event.isEnd = false)
    (started : ∀ entry ∈ queue, entry.2.isFinalized = false) :
    ∀ entry ∈ events.foldl onEvent queue, entry.2.isFinalized = false := by
  induction events generalizing queue with
  | nil => exact started
  | cons event rest ih =>
      apply ih fun other member => unended other (List.mem_cons_of_mem _ member)
      intro entry member
      cases event with
      | header rpcRequestId rpcMethodId rpcHeader =>
          rcases List.mem_append.mp member with early | late
          · exact started entry early
          · rw [List.mem_singleton.mp late]
      | payloadChunk rpcHeader rpcRequestId rpcMethodId bytes =>
          rcases mem_update member with kept | ⟨request, found, rfl⟩
          · exact started entry kept
          · exact started (rpcRequestId, request) found
      | «end» rpcHeader rpcRequestId rpcMethodId =>
          exact absurd (unended _ List.mem_cons_self) (by simp [RpcStreamEvent.isEnd])
      | error rpcHeader rpcRequestId rpcMethodId frameDecodeError => exact started entry member

/-- The requests that are complete. -/
def finalized (queue : RequestQueue) : RequestQueue := queue.filter fun entry => entry.2.isFinalized

/-- The requests that are still to be completed. -/
def unfinalized (queue : RequestQueue) : RequestQueue :=
  queue.filter fun entry => !entry.2.isFinalized

theorem mem_ofRequest {queue : RequestQueue} {rpcRequestId : UInt32} {request : RpcRequest} :
    (rpcRequestId, request) ∈ queue.ofRequest rpcRequestId ↔ (rpcRequestId, request) ∈ queue := by
  simp [ofRequest]

end RequestQueue

/-- Events that belong to messages of distinct requests. -/
structure InMessages (events : List RpcStreamEvent) : Prop where
  named : ∀ event ∈ events, event.requestId ≠ none
  parts : ∀ rpcRequestId, ∃ header : RpcHeader, ∃ chunks,
    (events.filter fun event => event.requestId = some rpcRequestId) <+:
      header.streamEvents chunks

namespace InMessages

open RequestQueue

variable {events earlier more : List RpcStreamEvent}

theorem front (inMessages : InMessages (earlier ++ more)) : InMessages earlier where
  named event member := inMessages.named event (List.mem_append_left _ member)
  parts rpcRequestId := by
    obtain ⟨header, chunks, part⟩ := inMessages.parts rpcRequestId
    rw [List.filter_append] at part
    exact ⟨header, chunks, (List.prefix_append _ _).trans part⟩

/-- An event of a message comes before its end. -/
theorem unended {rest : List RpcStreamEvent} {event : RpcStreamEvent}
    {rpcRequestId : UInt32} (inMessages : InMessages (events ++ event :: rest))
    (named : event.requestId = some rpcRequestId) :
    (events.filter fun event => event.requestId = some rpcRequestId).any RpcStreamEvent.isEnd =
      false := by
  rcases inMessages.parts rpcRequestId with ⟨header, chunks, part⟩
  rw [List.filter_append, List.filter_cons_of_pos (by simp [named])] at part
  rw [List.any_eq_false]
  intro other otherMem
  rw [RpcHeader.isEnd_of_part part other otherMem]
  exact Bool.false_ne_true

/-- No request is gathered twice. -/
theorem ids_nodup (inMessages : InMessages events) :
    ((events.foldl onEvent []).map Prod.fst).Nodup := by
  rw [List.nodup_iff_count_le_one]
  intro rpcRequestId
  obtain ⟨header, chunks, part⟩ := inMessages.parts rpcRequestId
  have single := header.headers_of_part part
  have counted := length_foldl_onEvent []
    (events.filter fun event => event.requestId = some rpcRequestId)
  rw [← ofRequest_nil rpcRequestId, ← foldl_onEvent_ofRequest, ofRequest_nil, List.length_nil,
    Nat.zero_add] at counted
  rw [← counted] at single
  rw [List.count_eq_countP, List.countP_map, List.countP_eq_length_filter]
  exact single

/-- A request that is complete has received its whole message. -/
theorem ended_of_finalized {entry : UInt32 × RpcRequest}
    (member : entry ∈ finalized (events.foldl onEvent [])) :
    (events.filter fun event => event.requestId = some entry.1).any RpcStreamEvent.isEnd =
      true := by
  obtain ⟨queued, complete⟩ := List.mem_filter.mp member
  by_contra unended
  have ofEntry : entry ∈ (events.filter fun event => event.requestId = some entry.1).foldl onEvent
      [] := by
    rw [← ofRequest_nil entry.1, ← foldl_onEvent_ofRequest]
    exact mem_ofRequest.mpr queued
  have goesOn : entry.2.isFinalized = false := by
    apply foldl_unfinalized _ (fun entry member => absurd member List.not_mem_nil) entry ofEntry
    intro event eventMem
    have notEnd := List.any_eq_false.mp (Bool.eq_false_of_not_eq_true unended) event eventMem
    exact Bool.eq_false_of_not_eq_true notEnd
  rw [goesOn] at complete
  contradiction

/-- Nothing more arrives for a request that is complete. -/
theorem silent_of_finalized (inMessages : InMessages (earlier ++ more)) {rpcRequestId : UInt32}
    (done : rpcRequestId ∈ (finalized (earlier.foldl onEvent [])).map Prod.fst) :
    ∀ event ∈ more, event.requestId ≠ some rpcRequestId := by
  obtain ⟨entry, member, rfl⟩ := List.mem_map.mp done
  obtain ⟨header, chunks, part⟩ := inMessages.parts entry.1
  rw [List.filter_append] at part
  intro event eventMem named
  cases rest : more.filter fun event => event.requestId = some entry.1 with
  | nil => exact List.filter_eq_nil_iff.mp rest event eventMem (decide_eq_true named)
  | cons next others =>
      rw [rest] at part
      obtain ⟨last, lastMem, isEnd⟩ := List.any_eq_true.mp (ended_of_finalized member)
      rw [header.isEnd_of_part part last lastMem] at isEnd
      contradiction

/-- The ids of the requests that are not complete. -/
def stillOpen (events : List RpcStreamEvent) (rpcRequestId : UInt32) : Bool :=
  rpcRequestId ∉ (finalized (events.foldl onEvent [])).map Prod.fst

theorem stillOpen_entry (inMessages : InMessages events) {entry : UInt32 × RpcRequest}
    (member : entry ∈ events.foldl onEvent []) :
    stillOpen events entry.1 = !entry.2.isFinalized := by
  rw [stillOpen]
  cases complete : entry.2.isFinalized with
  | true =>
      rw [Bool.not_true, decide_eq_false_iff_not, not_not]
      exact List.mem_map_of_mem (List.mem_filter.mpr ⟨member, complete⟩)
  | false =>
      rw [Bool.not_false, decide_eq_true_iff]
      intro isDone
      obtain ⟨other, otherMem, sameId⟩ := List.mem_map.mp isDone
      obtain ⟨queued, otherComplete⟩ := List.mem_filter.mp otherMem
      rw [List.inj_on_of_nodup_map inMessages.ids_nodup queued member sameId, complete]
        at otherComplete
      contradiction

theorem stillOpen_event (inMessages : InMessages (earlier ++ more)) {event : RpcStreamEvent}
    (member : event ∈ more) : event.requestId.any (stillOpen earlier) = true := by
  obtain ⟨rpcRequestId, isNamed⟩ := Option.ne_none_iff_exists'.mp
    (inMessages.named event (List.mem_append_right _ member))
  rw [isNamed, Option.any_some, stillOpen, decide_eq_true_iff]
  intro isDone
  exact inMessages.silent_of_finalized isDone event member isNamed

/-- Later events go to the requests that are not complete. -/
theorem withIds_stillOpen (inMessages : InMessages (earlier ++ more)) :
    withIds (stillOpen earlier) ((earlier ++ more).foldl onEvent []) =
      more.foldl onEvent (unfinalized (earlier.foldl onEvent [])) := by
  have allKept : more.filter (fun event => event.requestId.any (stillOpen earlier)) = more := by
    apply List.filter_eq_self.mpr
    intro event member
    exact inMessages.stillOpen_event member
  rw [List.foldl_append, foldl_withIds, allKept]
  congr 1
  apply List.filter_congr
  intro entry member
  exact inMessages.front.stillOpen_entry member

/-- Later events leave the complete requests as they are. -/
theorem withIds_done (inMessages : InMessages (earlier ++ more)) :
    withIds (fun rpcRequestId => !stillOpen earlier rpcRequestId)
        ((earlier ++ more).foldl onEvent []) =
      finalized (earlier.foldl onEvent []) := by
  have noneKept : (more.filter fun event =>
      event.requestId.any fun rpcRequestId => !stillOpen earlier rpcRequestId) = [] := by
    rw [List.filter_eq_nil_iff]
    intro event member isDone
    have isOpen := inMessages.stillOpen_event member
    cases named : event.requestId with
    | none => simp [named] at isDone
    | some rpcRequestId => simp_all
  rw [List.foldl_append, foldl_withIds, noneKept, List.foldl_nil]
  apply List.filter_congr
  intro entry member
  simp only [inMessages.front.stillOpen_entry member, Bool.not_not]

/-- Complete requests may be taken out of the queue at any time.  Later events find
the same requests to be completed, and complete the others. -/
theorem gather (inMessages : InMessages (earlier ++ more)) :
    let queue := more.foldl onEvent (unfinalized (earlier.foldl onEvent []))
    unfinalized queue = unfinalized ((earlier ++ more).foldl onEvent []) ∧
      (finalized (earlier.foldl onEvent []) ++ finalized queue).Perm
        (finalized ((earlier ++ more).foldl onEvent [])) ∧
      (queue.map Prod.fst).Nodup := by
  intro queue
  have isOpen : withIds (stillOpen earlier) ((earlier ++ more).foldl onEvent []) = queue :=
    inMessages.withIds_stillOpen
  refine ⟨?_, ?_, ?_⟩
  · rw [← isOpen]
    simp only [unfinalized, withIds, List.filter_filter]
    apply List.filter_congr
    intro entry member
    cases complete : entry.2.isFinalized with
    | true => rfl
    | false =>
        have entryOpen : stillOpen earlier entry.1 = true := by
          by_contra isDone
          have taken : entry ∈ finalized (earlier.foldl onEvent []) := by
            rw [← inMessages.withIds_done]
            exact List.mem_filter.mpr ⟨member, by simpa using isDone⟩
          rw [(List.mem_filter.mp taken).2] at complete
          contradiction
        rw [entryOpen]
        rfl
  · have parted := (List.filter_append_perm (fun entry => stillOpen earlier entry.1)
      ((earlier ++ more).foldl onEvent [])).filter fun entry => entry.2.isFinalized
    have taken : finalized (finalized (earlier.foldl onEvent [])) =
        finalized (earlier.foldl onEvent []) := by
      simp [finalized]
    rw [List.filter_append] at parted
    rw [← isOpen, ← taken, ← inMessages.withIds_done]
    exact List.perm_append_comm.trans parted
  · rw [← isOpen]
    exact inMessages.ids_nodup.sublist (List.filter_sublist.map Prod.fst)

/-- What is gathered from a message, once all of it has arrived. -/
theorem mem_finalized_iff {header : RpcHeader} {chunks : List (List UInt8)}
    (nonempty : ∀ chunk ∈ chunks, chunk ≠ [])
    (part : (events.filter fun event => event.requestId = some header.rpcRequestId) <+:
      header.streamEvents chunks) (request : RpcRequest) :
    (header.rpcRequestId, request) ∈ finalized (events.foldl onEvent []) ↔
      (events.filter fun event => event.requestId = some header.rpcRequestId) =
          header.streamEvents chunks ∧
        request = header.gathered chunks.flatten := by
  have queued : (header.rpcRequestId, request) ∈ events.foldl onEvent [] ↔
      (header.rpcRequestId, request) ∈ (events.filter fun event =>
        event.requestId = some header.rpcRequestId).foldl onEvent [] := by
    rw [← mem_ofRequest, foldl_onEvent_ofRequest, ofRequest_nil]
  constructor
  · intro member
    have whole := RpcHeader.eq_of_part_of_end part (ended_of_finalized member)
    have found := queued.mp (List.mem_filter.mp member).1
    rw [whole, foldl_message header nonempty, List.mem_singleton, Prod.mk.injEq] at found
    exact ⟨whole, found.2⟩
  · rintro ⟨whole, rfl⟩
    apply List.mem_filter.mpr
    rw [queued, whole, foldl_message header nonempty]
    exact ⟨List.mem_singleton_self _, rfl⟩

end InMessages

/-! ## Messages on a link -/

/-- A stream that was opened with a whole message: its header, its payload and its
end. -/
structure Outgoing.Carries (outgoing : Outgoing) (header : RpcHeader)
    (payload : Option (List UInt8)) : Prop where
  isHeader : outgoing.header = header
  whole : outgoing.frames = WriteOp.emitStream outgoing.streamId outgoing.chunkSize.bytes
    (messageOps header payload true)
  fits : header.Fits

/-- A stream that was opened with a finalized request or response. -/
theorem Outgoing.carries_of_sendPayload {outgoing : Outgoing} {header : RpcHeader}
    {payload : Option (List UInt8)} (isHeader : outgoing.header = header) (fits : header.Fits)
    (emitted : outgoing.frames = (RpcStreamEncoder.sendPayload
      (openedStream outgoing.streamId outgoing.chunkSize.bytes header) payload true).frames) :
    outgoing.Carries header payload :=
  ⟨isHeader, emitted.trans (sendPayload_finalized _ outgoing.chunkSize.positive header payload),
    fits⟩

/-- The events of the first frames of a stream. -/
def eventsOfFrames (frames : List Frame) : List RpcStreamEvent :=
  (runEntry RpcSession.decodeEntry none (frames.map fun frame => ⟨frame, none⟩)).1

theorem eventsOfFrames_mono {first second : List Frame} (part : first <+: second) :
    eventsOfFrames first <+: eventsOfFrames second := by
  obtain ⟨rest, rfl⟩ := part
  rw [eventsOfFrames, eventsOfFrames, List.map_append, runEntry_append]
  exact List.prefix_append _ _

/-- A whole message is decoded into its header, chunks of its payload, and its end. -/
theorem eventsOfFrames_message (streamId : UInt32) {maxChunkSize : Nat}
    (positive : 0 < maxChunkSize) {header : RpcHeader} (fits : header.Fits)
    (payload : Option (List UInt8)) :
    ∃ chunks : List (List UInt8),
      eventsOfFrames (WriteOp.emitStream streamId maxChunkSize (messageOps header payload true)) =
          header.streamEvents chunks ∧
        chunks.flatten = payload.getD [] ∧ ∀ chunk ∈ chunks, chunk ≠ [] := by
  obtain ⟨payloads, last, framesEq, writtenEq, lastLength, bounds⟩ :=
    WriteOp.emitStream_eq streamId positive (messageOps header payload true)
  have flushed : last = [] := by
    rw [← List.length_eq_zero_iff, lastLength]
    exact (congrArg (· % maxChunkSize) (payloadOps_flushed _ payload)).trans (Nat.zero_mod _)
  subst flushed
  have written : header.toBytes ++ payload.getD [] = payloads.flatten := by
    rw [← payloadOps_written payload true, ← List.append_nil payloads.flatten, ← writtenEq]
    rfl
  obtain ⟨chunks, closes, flattens, nonempty⟩ := RpcHeader.closedEvents_flushed written
    fun payload member => (bounds payload member).1
  have decoded := RpcSession.runEntry_streamFrames streamId fits
    ((List.append_nil _).trans written.symm)
  refine ⟨chunks, ?_, flattens, nonempty⟩
  rw [eventsOfFrames, framesEq, decoded, closes]

theorem Outgoing.Carries.events {outgoing : Outgoing} {header : RpcHeader}
    {payload : Option (List UInt8)} (carries : outgoing.Carries header payload) :
    ∃ chunks : List (List UInt8), eventsOfFrames outgoing.frames = header.streamEvents chunks ∧
      chunks.flatten = payload.getD [] ∧ ∀ chunk ∈ chunks, chunk ≠ [] := by
  rw [carries.whole]
  exact eventsOfFrames_message outgoing.streamId outgoing.chunkSize.positive carries.fits payload

namespace Link

variable {link : Link} {session : RpcSession} {events : List RpcStreamEvent}

/-- The events that a session has delivered, when all it has read came over the link. -/
def Received (link : Link) (session : RpcSession) (events : List RpcStreamEvent) : Prop :=
  ∃ complete later unread, link.Arrived session complete later unread ∧
    events = (decodeFrames complete).1.map Prod.snd

namespace Received

theorem new (idSpace : IdSpace) (handedOut : Nat) :
    Received Link.new (RpcSession.new idSpace handedOut).1 [] :=
  ⟨[], [], [], arrived_new idSpace handedOut, rfl⟩

theorem more (received : link.Received session events) (sound : link.Sound) {after : Link}
    (longer : ∃ more, after.wire = link.wire ++ more) (same : after.delivered = link.delivered) :
    after.Received session events := by
  obtain ⟨complete, later, unread, arrived, eventsEq⟩ := received
  obtain ⟨more, wireEq⟩ := longer
  exact ⟨complete, later ++ more, unread, arrived.more sound wireEq same, eventsEq⟩

theorem of_decoders (received : link.Received session events) {other : RpcSession}
    (sameMux : other.frameMuxStreamDecoder = session.frameMuxStreamDecoder)
    (sameDecoders : other.rpcStreamDecoders = session.rpcStreamDecoders) :
    link.Received other events := by
  obtain ⟨complete, later, unread, arrived, eventsEq⟩ := received
  exact ⟨complete, later, unread, arrived.of_decoders sameMux sameDecoders, eventsEq⟩

/-- A read adds its events. -/
theorem deliver (received : link.Received session events) (sound : link.Sound) (count : Nat) :
    (link.deliver count).Received (session.decodeBytes (link.chunk count)).2.2
        (events ++ (session.decodeBytes (link.chunk count)).1) ∧
      (session.decodeBytes (link.chunk count)).2.1 = .ok () := by
  obtain ⟨complete, later, unread, arrived, rfl⟩ := received
  obtain ⟨more, later', unread', arrived', accepted, eventsEq⟩ := arrived.deliver sound count
  exact ⟨⟨complete ++ more, later', unread', arrived', eventsEq.symm⟩, accepted⟩

/-- Every event belongs to a stream of the link. -/
theorem of_mem (received : link.Received session events) (sound : link.Sound)
    {event : RpcStreamEvent} (member : event ∈ events) :
    ∃ outgoing ∈ link.streams, event.isError = false ∧
      event.requestId = some outgoing.header.rpcRequestId ∧
      event.rpcHeader = some outgoing.header.onWire := by
  obtain ⟨complete, later, unread, arrived, rfl⟩ := received
  obtain ⟨output, outputMem, rfl⟩ := List.mem_map.mp member
  obtain ⟨outgoing, outgoingMem, -, facts⟩ := sound.mem_decodeFrames arrived.wire outputMem
  exact ⟨outgoing, outgoingMem, facts⟩

/-- No event names a request that has no stream. -/
theorem absent (received : link.Received session events) (sound : link.Sound)
    {rpcRequestId : UInt32}
    (unknown : rpcRequestId ∉ link.streams.map fun outgoing => outgoing.header.rpcRequestId) :
    (events.filter fun event => event.requestId = some rpcRequestId) = [] := by
  rw [List.filter_eq_nil_iff]
  intro event member named
  obtain ⟨outgoing, outgoingMem, -, names, -⟩ := received.of_mem sound member
  have same : some outgoing.header.rpcRequestId = some rpcRequestId :=
    names.symm.trans (of_decide_eq_true named)
  exact unknown (Option.some.inj same ▸ List.mem_map_of_mem outgoingMem)

section Requests

variable (received : link.Received session events) (sound : link.Sound)
  (distinct : (link.streams.map fun outgoing => outgoing.header.rpcRequestId).Nodup)
  {outgoing : Outgoing} (member : outgoing ∈ link.streams)

include received sound distinct member

/-- The events of a request are those of the frames of its stream that have arrived. -/
theorem requestEvents :
    ∃ complete later unread, link.Arrived session complete later unread ∧
      (events.filter fun event => event.requestId = some outgoing.header.rpcRequestId) =
        eventsOfFrames (complete.filter fun frame => frame.streamId = outgoing.streamId) := by
  obtain ⟨complete, later, unread, arrived, rfl⟩ := received
  refine ⟨complete, later, unread, arrived, ?_⟩
  have sameOutputs : ((decodeFrames complete).1.filter fun output =>
      output.2.requestId = some outgoing.header.rpcRequestId) =
        (decodeFrames complete).1.filter fun output => output.1 = outgoing.streamId := by
    apply List.filter_congr
    intro output outputMem
    obtain ⟨source, sourceMem, onStream, -, names, -⟩ :=
      sound.mem_decodeFrames arrived.wire outputMem
    rw [names, ← onStream]
    apply decide_eq_decide.mpr
    constructor
    · intro same
      rw [List.inj_on_of_nodup_map distinct sourceMem member (Option.some.inj same)]
    · intro same
      rw [List.inj_on_of_nodup_map sound.distinct sourceMem member same]
  rw [List.filter_map, Function.comp_def, sameOutputs, decodeFrames_stream, List.map_map]
  exact List.map_id _

/-- A first part of the events of a message has been delivered. -/
theorem part :
    (events.filter fun event => event.requestId = some outgoing.header.rpcRequestId) <+:
      eventsOfFrames outgoing.frames := by
  obtain ⟨complete, later, unread, arrived, eventsEq⟩ :=
    received.requestEvents sound distinct member
  rw [eventsEq]
  exact eventsOfFrames_mono (sound.arrived_prefix arrived.wire member)

/-- Once a stream is on the wire and the wire is empty, all its events have been
delivered. -/
theorem whole (sent : link.sentOn outgoing.streamId = outgoing.frames)
    (drained : link.inFlight = []) :
    (events.filter fun event => event.requestId = some outgoing.header.rpcRequestId) =
      eventsOfFrames outgoing.frames := by
  obtain ⟨complete, later, unread, arrived, eventsEq⟩ :=
    received.requestEvents sound distinct member
  have nothingLater : later = [] := by
    have pending := arrived.pending
    rw [drained, List.append_nil] at pending
    cases later with
    | nil => rfl
    | cons frame others =>
        have fits := sound.fits frame (by rw [arrived.wire]; simp)
        have waiting := arrived.waiting
        rw [pending, frameBytes_cons] at waiting
        exact absurd waiting (FrameMuxStreamDecoder.complete_encode fits _)
  rw [eventsEq, ← sent, sentOn, arrived.wire, nothingLater, List.append_nil]

end Requests

/-- When every stream carries a message, the events belong to messages. -/
theorem inMessages (received : link.Received session events) (sound : link.Sound)
    (distinct : (link.streams.map fun outgoing => outgoing.header.rpcRequestId).Nodup)
    (carried : ∀ outgoing ∈ link.streams, ∃ header payload, outgoing.Carries header payload) :
    InMessages events where
  named event member := by
    obtain ⟨outgoing, -, -, named, -⟩ := received.of_mem sound member
    rw [named]
    exact Option.some_ne_none _
  parts rpcRequestId := by
    by_cases known : rpcRequestId ∈ link.streams.map fun outgoing => outgoing.header.rpcRequestId
    · obtain ⟨outgoing, member, rfl⟩ := List.mem_map.mp known
      obtain ⟨header, payload, carries⟩ := carried outgoing member
      obtain ⟨chunks, eventsEq, -, -⟩ := carries.events
      exact ⟨header, chunks, eventsEq ▸ received.part sound distinct member⟩
    · rw [received.absent sound known]
      exact ⟨⟨.call, rpcRequestId, 0, []⟩, [], List.nil_prefix⟩

end Received

end Link

end Muxio.Rpc
