import Muxio.Rpc.Connection

/-!
# When the ids of two ends collide

Both ends of a connection key their routing tables by request id, for the calls
they make as well as for the calls they receive.  A client and a server dispatcher
place their ids in different halves of the id space and never collide.

The two halves of the sync transport both use the client's half.  Their ids collide
exactly when the two processes have drawn them at the same count.
-/

namespace Muxio.Rpc

open Muxio.Framing

universe u

/-! ## Disjoint id spaces -/

/-- Ids drawn in different spaces are distinct. -/
theorem Drawn.append_nodup {first second : IdSpace} (different : first ≠ second)
    {m n firstNext secondNext : Nat} {firstUsed secondUsed : List Nat}
    (drawn : Drawn m firstNext firstUsed) (fewFirst : m ≤ 2 ^ 31)
    (alsoDrawn : Drawn n secondNext secondUsed) (fewSecond : n ≤ 2 ^ 31) :
    ((firstNext :: firstUsed).map first.draw ++
      (secondNext :: secondUsed).map second.draw).Nodup := by
  apply (drawn.ids_nodup fewFirst first).append (alsoDrawn.ids_nodup fewSecond second)
  intro id firstMem secondMem
  rcases List.mem_map.mp firstMem with ⟨i, iMem, rfl⟩
  rcases List.mem_map.mp secondMem with ⟨j, jMem, same⟩
  exact different (IdSpace.draw_inj ((drawn.early i iMem).trans_le fewFirst)
    ((alsoDrawn.early j jMem).trans_le fewSecond) same.symm).1

namespace Connection

variable {H : Type u} {connection : Connection H} {idSpace : Side → IdSpace}

theorem Valid.requestIds_nodup (valid : connection.Valid idSpace)
    (few : ∀ side, connection.handedOut side ≤ 2 ^ 31)
    (different : idSpace .client ≠ idSpace .server) :
    (connection.requestIds .client ++ connection.requestIds .server).Nodup := by
  rw [requestIds, requestIds, (valid.ends .client).request_ids, (valid.ends .server).request_ids]
  exact (valid.ends .client).requests.append_nodup different (few .client)
    (valid.ends .server).requests (few .server)

theorem Valid.streamIds_nodup (valid : connection.Valid idSpace)
    (few : ∀ side, connection.handedOut side ≤ 2 ^ 31)
    (different : idSpace .client ≠ idSpace .server) :
    (connection.streamIds .client ++ connection.streamIds .server).Nodup := by
  rcases (valid.ends .client).stream_ids with ⟨clientNext, clientUsed, clientDrawn, clientIds⟩
  rcases (valid.ends .server).stream_ids with ⟨serverNext, serverUsed, serverDrawn, serverIds⟩
  rw [streamIds, streamIds, clientIds, serverIds]
  exact clientDrawn.append_nodup different (few .client) serverDrawn (few .server)

/-- The two ends share no request id. -/
def Apart (connection : Connection H) : Prop :=
  ∀ id ∈ connection.requestIds .client, id ∉ connection.requestIds .server

theorem Apart.sides (apart : connection.Apart) (side : Side) :
    ∀ id ∈ connection.requestIds side, id ∉ connection.requestIds side.peer := by
  intro id here there
  cases side with
  | client => exact apart id here there
  | server => exact apart id there here

/-- Calls are spared on a connection whose ends share no request id. -/
theorem Apart.sparesCalls (apart : connection.Apart) (valid : connection.Valid idSpace)
    (few : ∀ side, connection.handedOut side ≤ 2 ^ 31) (side : Side) (count : Nat) :
    connection.SparesCalls side count := by
  apply valid.sparesCalls few
  intro call callMem other otherMem same
  apply apart.sides side call.rpcRequestId
  · exact List.mem_cons_of_mem _ (List.mem_map_of_mem callMem)
  · rw [same]
    exact List.mem_cons_of_mem _ (List.mem_map_of_mem otherMem)

end Connection

/-- On a connection between a client and a server dispatcher, all ids stay
distinct.  Every event that an end reads belongs to a stream its peer has opened;
those of the peer's calls leave alone what the end has stored for its own calls. -/
theorem disjoint_id_spaces_never_clobber {H : Type u} (creation : Creation)
    (client : creation.idSpace .client = .client) (server : creation.idSpace .server = .server)
    (steps : List (ConnectionStep H))
    (few : ∀ side, ((Connection.new creation).run steps).handedOut side < 2 ^ 31) :
    let connection : Connection H := (Connection.new creation).run steps
    (connection.requestIds .client ++ connection.requestIds .server).Nodup ∧
      (connection.streamIds .client ++ connection.streamIds .server).Nodup ∧
      ∀ side count, connection.SparesCalls side count ∧
        ∀ event ∈ connection.readEvents side count,
          ∃ outgoing ∈ (connection.incoming side).streams,
            event.rpcHeader = some outgoing.header.onWire := by
  have atMost := fun side => (few side).le
  have valid := (Connection.new_valid creation).run steps
  have different : creation.idSpace .client ≠ creation.idSpace .server := by
    rw [client, server]
    decide
  have distinct := valid.requestIds_nodup atMost different
  have apart : Connection.Apart _ := fun id here there =>
    (List.nodup_append.mp distinct).2.2 id here id there rfl
  refine ⟨distinct, valid.streamIds_nodup atMost different, fun side count => ⟨?_, ?_⟩⟩
  · exact apart.sparesCalls valid atMost side count
  · intro event member
    rcases valid.mem_readEvents atMost member with ⟨outgoing, outgoingMem, -, headed⟩
    exact ⟨outgoing, outgoingMem, headed⟩

/-- Both ends call method 5, the client routes the method to a streaming handler,
and the stream of the server's call, with the given stream id, is on the wire. -/
def callsBothWays (streamId : UInt32) : List (ConnectionStep Nat) :=
  [.act .client (.setStreamMethodRouter fun rpcMethodId _ =>
      if rpcMethodId = 5 then some 7 else none),
    .act .client (.call ⟨5, none, some [9], true⟩ ⟨64, by decide, by decide⟩ (some 1) false),
    .act .server (.call ⟨5, none, some [8], true⟩ ⟨64, by decide, by decide⟩ (some 2) false),
    .act .server (.send streamId), .act .server (.send streamId)]

/-- The stream of a server's call is routed without touching the client's call. -/
theorem disjoint_id_spaces_never_clobber_routed :
    let connection := (Connection.new separateProcesses).run (callsBothWays 0x80000000)
    (connection.requestIds .client ++ connection.requestIds .server).Nodup ∧
      (connection.readEvents .client 100).length = 3 ∧
      connection.SparesCalls .client 100 := by
  have spared := disjoint_id_spaces_never_clobber separateProcesses rfl rfl
    (callsBothWays 0x80000000) (fun side => by cases side <;> decide)
  exact ⟨spared.1, by decide, (spared.2.2 .client 100).1⟩

/-! ## One id space for both ends -/

/-- An `RpcSyncClient` and an `RpcSyncServer` in two processes.  Both create their
dispatcher with `RpcDispatcher::new`, which uses the client's id space. -/
def syncTransport (start handedOut : Side → Nat)
    (created : ∀ side, start side + 2 ≤ handedOut side) : Creation where
  idSpace _ := .client
  start := start
  handedOut := handedOut
  sharedCounter := false
  created := created
  oneCounter := nofun

/-- The calls of an end whose response has not ended. -/
def ConnectionEnd.openCalls {H : Type u} (node : ConnectionEnd H) : List CallRecord :=
  node.calls.filter fun call =>
    node.dispatcher.rpcRespondableSession.routing.prebufferingFlags.contains call.rpcRequestId

namespace Connection

variable {H : Type u} {connection : Connection H} {idSpace : Side → IdSpace}

/-- The counts at which an end has drawn its request ids. -/
def requestDraws (connection : Connection H) (side : Side) : List Nat :=
  (connection.ends side).nextDraw :: (connection.ends side).calls.map CallRecord.draw

theorem Valid.not_mem_requestIds_iff (valid : connection.Valid idSpace) (side : Side) (m : Nat) :
    (idSpace side).draw m ∉ connection.requestIds side ↔
      ∀ n ∈ connection.requestDraws side, m % 2 ^ 31 ≠ n % 2 ^ 31 := by
  rw [requestIds, (valid.ends side).request_ids, List.mem_map, not_exists]
  apply forall_congr'
  intro n
  rw [IdSpace.draw_eq_iff, not_and]
  exact imp_congr_right fun _ => not_congr eq_comm

/-- The next call of an end gets an id that no stream of the peer's calls uses. -/
def CallSparesStreams (connection : Connection H) (side : Side) : Prop :=
  ∀ outgoing ∈ (connection.incoming side).streams, outgoing.header.rpcMsgType = .call →
    outgoing.header.rpcRequestId ≠ (connection.ends side).dispatcher.callId

theorem Valid.callSparesStreams (valid : connection.Valid idSpace) {side : Side}
    (apart : ∀ other ∈ (connection.ends side.peer).calls,
      (connection.ends side).dispatcher.callId ≠ other.rpcRequestId) :
    connection.CallSparesStreams side := by
  intro outgoing member isCall same
  rcases List.mem_map.mp ((valid.ends side.peer).headers outgoing member isCall) with
    ⟨other, otherMem, otherId⟩
  exact apart other otherMem (same.symm.trans otherId.symm)

end Connection

open Connection in
/-- On the sync transport a request id of the server equals that of an open call of
the client exactly when both were drawn at the same count, modulo `2 ^ 31`.  While
the calls of the two ends were drawn at different counts, calls and streams of one
direction leave those of the other alone. -/
theorem sync_call_ids_distinct_iff {H : Type u} (start handedOut : Side → Nat)
    (created : ∀ side, start side + 2 ≤ handedOut side) (steps : List (ConnectionStep H)) :
    let connection : Connection H :=
      (Connection.new (syncTransport start handedOut created)).run steps
    let differ (m n : Nat) := m % 2 ^ 31 ≠ n % 2 ^ 31
    ((∀ call ∈ (connection.ends .client).openCalls,
        call.rpcRequestId ∉ connection.requestIds .server) ↔
      ∀ call ∈ (connection.ends .client).openCalls, ∀ draw ∈ connection.requestDraws .server,
        differ call.draw draw) ∧
    (∀ side, (∀ other ∈ (connection.ends side.peer).calls,
        differ (connection.ends side).nextDraw other.draw) → connection.CallSparesStreams side) ∧
    ((∀ side, connection.handedOut side < 2 ^ 31) → ∀ side,
      (∀ call ∈ (connection.ends side).calls, ∀ other ∈ (connection.ends side.peer).calls,
        differ call.draw other.draw) → ∀ count, connection.SparesCalls side count) := by
  intro connection differ
  have valid : connection.Valid fun _ => .client :=
    (new_valid (syncTransport start handedOut created)).run steps
  have idOf : ∀ {side : Side} {call : CallRecord}, call ∈ (connection.ends side).calls →
      call.rpcRequestId = IdSpace.client.draw call.draw :=
    fun {side} {call} member => (valid.ends side).requestIds call member
  refine ⟨?_, ?_, ?_⟩
  · apply forall₂_congr
    intro call member
    rw [idOf (List.mem_of_mem_filter member)]
    exact valid.not_mem_requestIds_iff .server call.draw
  · intro side different
    apply valid.callSparesStreams
    intro other otherMem
    rw [(List.cons.inj (valid.ends side).request_ids).1, idOf otherMem, Ne, IdSpace.draw_eq_iff]
    exact different other otherMem
  · intro few side different
    apply valid.sparesCalls fun side => (few side).le
    intro call callMem other otherMem
    rw [idOf callMem, idOf otherMem, Ne, IdSpace.draw_eq_iff]
    exact different call callMem other otherMem

/-- A server process that had drawn ten ids before does not collide with a fresh
client. -/
theorem sync_call_ids_distinct_late_server :
    let start : Side → Nat := fun
      | .client => 0
      | .server => 10
    let connection := (Connection.new (syncTransport start (fun side => start side + 2)
      fun _ => Nat.le_refl _)).run (callsBothWays 10)
    (connection.ends .client).openCalls = [⟨1, 1⟩] ∧
      (connection.ends .server).calls = [⟨11, 11⟩] ∧ connection.SparesCalls .client 100 := by
  intro start connection
  have law := sync_call_ids_distinct_iff start (fun side => start side + 2)
    (fun _ => Nat.le_refl _) (callsBothWays 10)
  refine ⟨by decide, by decide, law.2.2 (fun side => ?_) .client ?_ 100⟩
  · cases side <;> decide
  · decide

/-- Both processes draw their first request id at count 1.  The stream of the
server's call then takes the place of the client's response handler, and its end
removes it, while the client's call is open. -/
theorem sync_server_call_takes_client_handler :
    let connection := (Connection.new (syncTransport (fun _ => 0) (fun _ => 2)
      fun _ => Nat.le_refl 2)).run (callsBothWays 0)
    let handler (connection : Connection Nat) :=
      (connection.ends .client).dispatcher.rpcRespondableSession.routing.responseHandlers[
        (1 : UInt32)]?
    (connection.ends .client).openCalls = [⟨1, 1⟩] ∧
      (connection.ends .server).calls = [⟨1, 1⟩] ∧
      handler connection = some 1 ∧
      handler (connection.step (.read .client 29)) = some 7 ∧
      handler (connection.step (.read .client 100)) = none := by
  decide

end Muxio.Rpc
