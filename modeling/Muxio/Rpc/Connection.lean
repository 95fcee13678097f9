import Muxio.Rpc.Link

/-!
# Two dispatchers on one connection

Each end of a connection makes calls, answers, writes to the streams it has
opened and reads what the other end has put on the wire, in any interleaving.
Ids are drawn from the counter of the process an end lives in; the two ends may
live in one process or in two.

Distinct id spaces keep the ids of the two ends apart.  The streams that the
peer opens with its calls then never touch what a local call has stored under
its request id.
-/

namespace Muxio.Rpc

open Std
open Muxio.Framing
open Muxio.Transition

universe u

/-! ## One end -/

/-- A call as its end made it, with the count at which its request id was drawn. -/
structure CallRecord where
  rpcRequestId : UInt32
  draw : Nat
  deriving DecidableEq, Repr

/-- One end of a connection: its dispatcher, what it sends to its peer, the count
at which the request id of its next call was drawn, and the calls it has made. -/
structure ConnectionEnd (H : Type u) where
  dispatcher : RpcDispatcher H
  link : Link
  nextDraw : Nat
  calls : List CallRecord

/-- What an end does on its own.  Streams are named by their ids. -/
inductive EndStep (H : Type u) where
  | call (rpcRequest : RpcRequest) (maxChunkSize : ChunkSize) (onResponse : Option H)
      (prebufferResponse : Bool)
  | respond (rpcResponse : RpcResponse) (maxChunkSize : ChunkSize)
  | createResponseWriter (requestId : UInt32) (maxChunkSize : ChunkSize)
  /-- Write to, or flush, an open stream. -/
  | write (streamId : UInt32) (op : WriteOp)
  | endStream (streamId : UInt32)
  /-- Put the next frame of a stream on the wire. -/
  | send (streamId : UInt32)
  | setStreamMethodRouter (router : StreamMethodRouter H)
  | deleteRpcRequest (headerId : UInt32)
  /-- Something else in the process draws an id. -/
  | draw

namespace ConnectionEnd

variable {H : Type u}

/-- An end whose dispatcher was created when its process had handed out `start` ids. -/
def new (idSpace : IdSpace) (start : Nat) : ConnectionEnd H where
  dispatcher := (RpcDispatcher.newWithIdSpace idSpace start).1
  link := Link.new
  nextDraw := start + 1
  calls := []

/-- One step of an end, when `handedOut` ids have been handed out in its process. -/
def act (node : ConnectionEnd H) (handedOut : Nat) : EndStep H → ConnectionEnd H × Nat
  | .call rpcRequest maxChunkSize onResponse prebufferResponse =>
      let opened := node.dispatcher.call rpcRequest maxChunkSize.bytes onResponse
        prebufferResponse handedOut
      ({ dispatcher := opened.dispatcher
         link := node.link.opened
          { header := node.dispatcher.callHeader rpcRequest
            streamId := node.dispatcher.streamId
            chunkSize := maxChunkSize
            encoder := opened.outcome.encoder
            frames := opened.outcome.frames
            streamed := Streamed.sendPayload maxChunkSize.positive _ _ }
         nextDraw := handedOut
         calls := node.calls ++ [⟨node.dispatcher.callId, node.nextDraw⟩] },
        opened.handedOut)
  | .respond rpcResponse maxChunkSize =>
      let opened := node.dispatcher.respond rpcResponse maxChunkSize.bytes handedOut
      ({ node with
          dispatcher := opened.dispatcher
          link := node.link.opened
            { header := RpcDispatcher.responseHeader rpcResponse
              streamId := node.dispatcher.streamId
              chunkSize := maxChunkSize
              encoder := opened.outcome.encoder
              frames := opened.outcome.frames
              streamed := Streamed.sendPayload maxChunkSize.positive _ _ } },
        opened.handedOut)
  | .createResponseWriter requestId maxChunkSize =>
      let opened := node.dispatcher.createResponseWriter requestId maxChunkSize.bytes handedOut
      ({ node with
          dispatcher := opened.dispatcher
          link := node.link.opened
            { header := RpcDispatcher.writerHeader requestId
              streamId := node.dispatcher.streamId
              chunkSize := maxChunkSize
              encoder := opened.outcome.encoder
              frames := opened.outcome.frames
              streamed := Streamed.sendPayload maxChunkSize.positive none false } },
        opened.handedOut)
  | .write streamId op =>
      ({ node with link := node.link.change streamId fun outgoing => outgoing.apply op },
        handedOut)
  | .endStream streamId =>
      ({ node with link := node.link.change streamId Outgoing.endStream }, handedOut)
  | .send streamId => ({ node with link := node.link.send streamId }, handedOut)
  | .setStreamMethodRouter router =>
      ({ node with dispatcher := node.dispatcher.setStreamMethodRouter router }, handedOut)
  | .deleteRpcRequest headerId =>
      ({ node with dispatcher := (node.dispatcher.deleteRpcRequest headerId).2 }, handedOut)
  | .draw => (node, (incrementU32Id handedOut).2)

end ConnectionEnd

/-! ## Ids of one end -/

namespace ConnectionEnd

variable {H : Type u} {node : ConnectionEnd H} {idSpace : IdSpace} {handedOut : Nat}

/-- The ids of an end come from its counter, its wire carries its streams in
sequence as long as their ids are distinct, and its call streams are those of its
calls. -/
structure Valid (node : ConnectionEnd H) (idSpace : IdSpace) (handedOut : Nat) : Prop where
  space : node.dispatcher.idSpace = idSpace
  requests : Drawn handedOut node.nextDraw (node.calls.map CallRecord.draw)
  requestIds : ∀ call ∈ node.calls, call.rpcRequestId = idSpace.draw call.draw
  streams : ∃ streamDraw streamDraws, node.dispatcher.NextDraws node.nextDraw streamDraw ∧
    Drawn handedOut streamDraw streamDraws ∧
    node.link.streams.map Outgoing.streamId = streamDraws.map idSpace.draw
  sound : handedOut ≤ 2 ^ 31 → node.link.Sound
  headers : ∀ outgoing ∈ node.link.streams, outgoing.header.rpcMsgType = .call →
    outgoing.header.rpcRequestId ∈ node.calls.map CallRecord.rpcRequestId

theorem new_valid (idSpace : IdSpace) {start : Nat} (created : start + 2 ≤ handedOut) :
    (new idSpace start : ConnectionEnd H).Valid idSpace handedOut where
  space := rfl
  requests := ⟨List.nodup_singleton _, by simp [new]; omega⟩
  requestIds := nofun
  streams := ⟨start, [], RpcDispatcher.new_nextDraws idSpace start,
    ⟨List.nodup_singleton _, by simp; omega⟩, rfl⟩
  sound _ := Link.sound_new
  headers := nofun

namespace Valid

theorem grow (valid : node.Valid idSpace handedOut) {handedOut' : Nat}
    (grows : handedOut ≤ handedOut') : node.Valid idSpace handedOut' := by
  rcases valid.streams with ⟨streamDraw, streamDraws, draws, drawn, ids⟩
  exact ⟨valid.space, valid.requests.grow grows, valid.requestIds,
    ⟨streamDraw, streamDraws, draws, drawn.grow grows, ids⟩,
    fun few => valid.sound (grows.trans few), valid.headers⟩

/-- All request ids an end has drawn, the one for its next call included. -/
theorem request_ids (valid : node.Valid idSpace handedOut) :
    node.dispatcher.callId :: node.calls.map CallRecord.rpcRequestId =
      (node.nextDraw :: node.calls.map CallRecord.draw).map idSpace.draw := by
  rcases valid.streams with ⟨streamDraw, streamDraws, draws, -, -⟩
  rw [List.map_cons, draws.callId, valid.space, List.map_map]
  exact congrArg _ (List.map_congr_left valid.requestIds)

/-- All stream ids an end has drawn, the one for its next stream included. -/
theorem stream_ids (valid : node.Valid idSpace handedOut) :
    ∃ streamDraw streamDraws, Drawn handedOut streamDraw streamDraws ∧
      node.dispatcher.streamId :: node.link.streams.map Outgoing.streamId =
        (streamDraw :: streamDraws).map idSpace.draw := by
  rcases valid.streams with ⟨streamDraw, streamDraws, draws, drawn, ids⟩
  refine ⟨streamDraw, streamDraws, drawn, ?_⟩
  rw [List.map_cons, draws.streamId, valid.space, ids]

/-- The next stream gets an id that no stream of the end has. -/
theorem streamId_fresh (valid : node.Valid idSpace handedOut) (few : handedOut ≤ 2 ^ 31) :
    node.dispatcher.streamId ∉ node.link.streams.map Outgoing.streamId := by
  rcases valid.stream_ids with ⟨streamDraw, streamDraws, drawn, ids⟩
  have distinct := drawn.ids_nodup few idSpace
  rw [← ids] at distinct
  exact (List.nodup_cons.mp distinct).1

/-- Opening a stream. -/
theorem opened (valid : node.Valid idSpace handedOut)
    {after : ConnectionEnd H} {outgoing : Outgoing} {streamDraw handedOut' : Nat}
    (linkEq : after.link = node.link.opened outgoing)
    (ownId : outgoing.streamId = node.dispatcher.streamId)
    (sameSpace : after.dispatcher.idSpace = node.dispatcher.idSpace)
    (draws : after.dispatcher.NextDraws after.nextDraw streamDraw)
    (later : handedOut ≤ streamDraw) (grows : streamDraw < handedOut')
    (requests : Drawn handedOut' after.nextDraw (after.calls.map CallRecord.draw))
    (requestIds : ∀ call ∈ after.calls, call.rpcRequestId = idSpace.draw call.draw)
    (sameCalls : node.calls ⊆ after.calls)
    (header : outgoing.header.rpcMsgType = .call →
      outgoing.header.rpcRequestId ∈ after.calls.map CallRecord.rpcRequestId) :
    after.Valid idSpace handedOut' where
  space := sameSpace.trans valid.space
  requests := requests
  requestIds := requestIds
  streams := by
    rcases valid.streams with ⟨current, used, currentDraws, drawn, ids⟩
    refine ⟨streamDraw, used ++ [current], draws, drawn.use later grows, ?_⟩
    rw [linkEq, Link.opened, List.map_append, List.map_append, ids, List.map_singleton, ownId,
      currentDraws.streamId, valid.space]
    rfl
  sound few' := by
    have few : handedOut ≤ 2 ^ 31 := later.trans (grows.le.trans few')
    rw [linkEq]
    apply (valid.sound few).opened
    rw [ownId]
    exact valid.streamId_fresh few
  headers := by
    rw [linkEq]
    intro other member isCall
    rcases List.mem_append.mp member with early | late
    · exact List.map_subset _ sameCalls (valid.headers other early isCall)
    · rw [List.mem_singleton.mp late] at isCall ⊢
      exact header isCall

/-- Opening a stream with an answer. -/
theorem responded (valid : node.Valid idSpace handedOut) {dispatcher : RpcDispatcher H}
    {outgoing : Outgoing}
    (draws : dispatcher.NextDraws node.nextDraw handedOut)
    (sameSpace : dispatcher.idSpace = node.dispatcher.idSpace)
    (ownId : outgoing.streamId = node.dispatcher.streamId)
    (isResponse : outgoing.header.rpcMsgType = .response) :
    ({ node with dispatcher := dispatcher, link := node.link.opened outgoing } :
      ConnectionEnd H).Valid idSpace (handedOut + 1) := by
  apply valid.opened
  case linkEq => rfl
  case ownId => exact ownId
  case sameSpace => exact sameSpace
  case draws => exact draws
  case later => exact Nat.le_refl handedOut
  case grows => exact Nat.lt_succ_self handedOut
  case requests => exact valid.requests.grow (Nat.le_succ handedOut)
  case requestIds => exact valid.requestIds
  case sameCalls => exact List.Subset.refl _
  case header =>
    rw [isResponse]
    exact nofun

/-- Going on with a stream. -/
theorem change (valid : node.Valid idSpace handedOut) (streamId : UInt32)
    {continued : Outgoing → Outgoing}
    (sameId : ∀ outgoing, (continued outgoing).streamId = outgoing.streamId)
    (sameHeader : ∀ outgoing, (continued outgoing).header = outgoing.header)
    (longer : ∀ outgoing, outgoing.frames <+: (continued outgoing).frames) :
    ({ node with link := node.link.change streamId continued } : ConnectionEnd H).Valid idSpace
      handedOut where
  space := valid.space
  requests := valid.requests
  requestIds := valid.requestIds
  streams := by
    rcases valid.streams with ⟨streamDraw, streamDraws, draws, drawn, ids⟩
    exact ⟨streamDraw, streamDraws, draws, drawn, (node.link.change_ids streamId sameId).trans ids⟩
  sound few := (valid.sound few).change streamId sameId longer
  headers := by
    intro later member isCall
    rcases List.mem_map.mp member with ⟨outgoing, earlier, rfl⟩
    have known := valid.headers outgoing earlier
    by_cases selected : outgoing.streamId = streamId
    · rw [if_pos selected, sameHeader] at isCall ⊢
      exact known isCall
    · rw [if_neg selected] at isCall ⊢
      exact known isCall

/-- A new dispatcher with the same ids to draw from. -/
theorem of_dispatcher (valid : node.Valid idSpace handedOut) {dispatcher : RpcDispatcher H}
    (sameSpace : dispatcher.idSpace = node.dispatcher.idSpace)
    (sameDraws : ∀ {streamDraw}, node.dispatcher.NextDraws node.nextDraw streamDraw →
      dispatcher.NextDraws node.nextDraw streamDraw) :
    ({ node with dispatcher := dispatcher } : ConnectionEnd H).Valid idSpace handedOut where
  space := sameSpace.trans valid.space
  requests := valid.requests
  requestIds := valid.requestIds
  streams := by
    rcases valid.streams with ⟨streamDraw, streamDraws, draws, drawn, ids⟩
    exact ⟨streamDraw, streamDraws, sameDraws draws, drawn, ids⟩
  sound := valid.sound
  headers := valid.headers

/-- A step of an end keeps it valid. -/
theorem act (valid : node.Valid idSpace handedOut) (step : EndStep H) :
    (node.act handedOut step).1.Valid idSpace (node.act handedOut step).2 := by
  rcases valid.streams with ⟨streamDraw, streamDraws, draws, drawn, ids⟩
  cases step with
  | call rpcRequest maxChunkSize onResponse prebufferResponse =>
      have nextDraws := draws.call rpcRequest maxChunkSize.bytes onResponse prebufferResponse
        handedOut
      apply valid.opened
      case linkEq => rfl
      case draws => exact nextDraws
      case requests =>
        have used := valid.requests.use (Nat.le_refl handedOut)
          (show handedOut < handedOut + 2 by omega)
        rw [← @List.map_singleton _ _ CallRecord.draw ⟨node.dispatcher.callId, node.nextDraw⟩,
          ← List.map_append] at used
        exact used
      case requestIds =>
        intro call member
        rcases List.mem_append.mp member with early | late
        · exact valid.requestIds call early
        · rw [List.mem_singleton.mp late, ← valid.space]
          exact draws.callId
      case header =>
        intro _
        simp only [ConnectionEnd.act, List.map_append, List.mem_append]
        exact .inr (List.mem_singleton_self _)
      case ownId => rfl
      case sameSpace => rfl
      case later => exact Nat.le_add_right handedOut 1
      case grows => exact Nat.lt_succ_self (handedOut + 1)
      case sameCalls => exact List.subset_append_left _ _
  | respond rpcResponse maxChunkSize =>
      exact valid.responded (draws.respond rpcResponse maxChunkSize.bytes handedOut) rfl rfl
        rfl
  | createResponseWriter requestId maxChunkSize =>
      have nextDraws := draws.respond ⟨requestId, 0, some 0, none, false⟩ maxChunkSize.bytes
        handedOut
      exact valid.responded ⟨nextDraws.request, nextDraws.stream, nextDraws.space⟩ rfl rfl rfl
  | write streamId op =>
      exact valid.change streamId (fun _ => rfl) (fun _ => rfl)
        fun outgoing => List.prefix_append _ _
  | endStream streamId =>
      exact valid.change streamId (fun _ => rfl) (fun _ => rfl)
        fun outgoing => List.prefix_append _ _
  | send streamId =>
      refine ⟨valid.space, valid.requests, valid.requestIds,
        ⟨streamDraw, streamDraws, draws, drawn, ?_⟩, fun few => (valid.sound few).send streamId, ?_⟩
      · simpa [ConnectionEnd.act] using ids
      · simpa [ConnectionEnd.act] using valid.headers
  | setStreamMethodRouter router =>
      exact valid.of_dispatcher rfl fun draws => ⟨draws.request, draws.stream, draws.space⟩
  | deleteRpcRequest headerId =>
      exact valid.of_dispatcher rfl fun draws => ⟨draws.request, draws.stream, draws.space⟩
  | draw => exact valid.grow (Nat.le_succ handedOut)

end Valid

/-- A step leaves what the end has received alone. -/
theorem act_session (node : ConnectionEnd H) (handedOut : Nat) (step : EndStep H) :
    (node.act handedOut step).1.dispatcher.session.frameMuxStreamDecoder =
        node.dispatcher.session.frameMuxStreamDecoder ∧
      (node.act handedOut step).1.dispatcher.session.rpcStreamDecoders =
        node.dispatcher.session.rpcStreamDecoders := by
  cases step <;> exact ⟨rfl, rfl⟩

/-- A step can only add frames to the wire. -/
theorem act_link (node : ConnectionEnd H) (handedOut : Nat) (step : EndStep H) :
    ∃ more, (node.act handedOut step).1.link.wire = node.link.wire ++ more ∧
      (node.act handedOut step).1.link.delivered = node.link.delivered := by
  cases step with
  | send streamId =>
      rcases node.link.send_wire streamId with ⟨more, wireEq⟩
      exact ⟨more, wireEq, node.link.send_delivered streamId⟩
  | _ => exact ⟨[], (List.append_nil _).symm, rfl⟩

theorem act_handedOut (node : ConnectionEnd H) (handedOut : Nat) (step : EndStep H) :
    handedOut ≤ (node.act handedOut step).2 := by
  cases step with
  | call => exact Nat.le_add_right handedOut 2
  | respond | createResponseWriter | draw => exact Nat.le_succ handedOut
  | _ => exact Nat.le_refl handedOut

end ConnectionEnd

/-! ## The connection -/

/-- The two ends of a connection. -/
inductive Side where
  | client
  | server
  deriving DecidableEq, Repr

def Side.peer : Side → Side
  | client => server
  | server => client

@[simp]
theorem Side.peer_ne (side : Side) : side.peer ≠ side := by
  cases side <;> decide

@[simp]
theorem Side.peer_peer (side : Side) : side.peer.peer = side := by
  cases side <;> rfl

theorem Side.eq_peer_of_ne {side other : Side} (different : other ≠ side) :
    other = side.peer := by
  cases side <;> cases other <;> first | rfl | exact absurd rfl different

/-- How a connection comes about: the id space of each end, what its process had
handed out when its dispatcher was created and when the connection starts, and
whether the two ends share one process. -/
structure Creation where
  idSpace : Side → IdSpace
  start : Side → Nat
  handedOut : Side → Nat
  sharedCounter : Bool
  created : ∀ side, start side + 2 ≤ handedOut side
  oneCounter : sharedCounter = true → handedOut .client = handedOut .server

/-- A client and a server dispatcher in two fresh processes. -/
def separateProcesses : Creation where
  idSpace
    | .client => .client
    | .server => .server
  start _ := 0
  handedOut _ := 2
  sharedCounter := false
  created _ := Nat.le_refl 2
  oneCounter := nofun

structure Connection (H : Type u) where
  ends : Side → ConnectionEnd H
  /-- Ids handed out so far in the process of each end. -/
  handedOut : Side → Nat
  sharedCounter : Bool

inductive ConnectionStep (H : Type u) where
  /-- An end does something on its own. -/
  | act (side : Side) (step : EndStep H)
  /-- An end reads at most `count` bytes of what is on the wire from its peer. -/
  | read (side : Side) (count : Nat)

namespace Connection

variable {H : Type u}

def new (creation : Creation) : Connection H where
  ends side := ConnectionEnd.new (creation.idSpace side) (creation.start side)
  handedOut := creation.handedOut
  sharedCounter := creation.sharedCounter

/-- The counters after one of them has gone on. -/
def advance (connection : Connection H) (side : Side) (handedOut : Nat) : Side → Nat :=
  if connection.sharedCounter then fun _ => handedOut
  else Function.update connection.handedOut side handedOut

/-- What is on the wire to an end. -/
def incoming (connection : Connection H) (side : Side) : Link :=
  (connection.ends side.peer).link

def step (connection : Connection H) : ConnectionStep H → Connection H
  | .act side action =>
      let acted := (connection.ends side).act (connection.handedOut side) action
      { connection with
        ends := Function.update connection.ends side acted.1
        handedOut := connection.advance side acted.2 }
  | .read side count =>
      let reader := connection.ends side
      let sender := connection.ends side.peer
      let read := reader.dispatcher.readBytes (sender.link.chunk count)
      let ends := Function.update connection.ends side { reader with dispatcher := read.2.1 }
      { connection with
        ends := Function.update ends side.peer
          { sender with link := sender.link.deliver count } }

def run (connection : Connection H) (steps : List (ConnectionStep H)) : Connection H :=
  steps.foldl step connection

/-! ### Invariants of a connection -/

/-- Ends in one process see one counter. -/
def OneCounter (connection : Connection H) : Prop :=
  connection.sharedCounter = true → connection.handedOut .client = connection.handedOut .server

section Counters

variable {connection : Connection H}

theorem OneCounter.sides (oneCounter : connection.OneCounter)
    (shared : connection.sharedCounter = true) (side other : Side) :
    connection.handedOut side = connection.handedOut other := by
  cases side <;> cases other <;>
    first | rfl | exact oneCounter shared | exact (oneCounter shared).symm

theorem advance_self (connection : Connection H) (side : Side) (handedOut : Nat) :
    connection.advance side handedOut side = handedOut := by
  unfold advance
  split
  · rfl
  · exact Function.update_self ..

theorem OneCounter.le_advance (oneCounter : connection.OneCounter) {side : Side} {handedOut : Nat}
    (grows : connection.handedOut side ≤ handedOut) (other : Side) :
    connection.handedOut other ≤ connection.advance side handedOut other := by
  unfold advance
  split
  · rename_i shared
    rw [oneCounter.sides shared other side]
    exact grows
  · by_cases same : other = side
    · rw [same, Function.update_self]
      exact grows
    · rw [Function.update_of_ne same]

theorem OneCounter.step (oneCounter : connection.OneCounter) (step : ConnectionStep H) :
    (connection.step step).OneCounter := by
  cases step with
  | act side action =>
      intro shared
      simp only [Connection.step, advance] at shared ⊢
      rw [if_pos shared]
  | read side count => exact oneCounter

theorem OneCounter.le_step (oneCounter : connection.OneCounter) (step : ConnectionStep H)
    (side : Side) : connection.handedOut side ≤ (connection.step step).handedOut side := by
  cases step with
  | act actor action => exact oneCounter.le_advance (ConnectionEnd.act_handedOut _ _ _) side
  | read reader count => exact Nat.le_refl _

end Counters

/-- Both ends are valid, and, as long as ids are distinct, each has received a part
of what its peer sent. -/
structure Valid (connection : Connection H) (idSpace : Side → IdSpace) : Prop where
  oneCounter : connection.OneCounter
  ends : ∀ side, (connection.ends side).Valid (idSpace side) (connection.handedOut side)
  received : (∀ side, connection.handedOut side ≤ 2 ^ 31) → ∀ side, ∃ complete later unread,
    (connection.incoming side).Arrived (connection.ends side).dispatcher.session complete later
      unread

theorem new_valid (creation : Creation) :
    (new creation : Connection H).Valid creation.idSpace where
  oneCounter := creation.oneCounter
  ends side := ConnectionEnd.new_valid _ (creation.created side)
  received _ _ := ⟨[], [], [], Link.arrived_new _ _⟩

namespace Valid

variable {connection : Connection H} {idSpace : Side → IdSpace}

theorem act (valid : connection.Valid idSpace) (side : Side) (action : EndStep H) :
    (connection.step (.act side action)).Valid idSpace := by
  have grows := ConnectionEnd.act_handedOut (connection.ends side) (connection.handedOut side)
    action
  refine ⟨valid.oneCounter.step _, ?_, ?_⟩
  · intro other
    simp only [Connection.step]
    by_cases same : other = side
    · subst same
      rw [Function.update_self, advance_self]
      exact (valid.ends other).act action
    · rw [Function.update_of_ne same]
      exact (valid.ends other).grow (valid.oneCounter.le_advance grows other)
  · intro fewAfter receiver
    have few : ∀ other, connection.handedOut other ≤ 2 ^ 31 :=
      fun other => (valid.oneCounter.le_step _ other).trans (fewAfter other)
    rcases valid.received few receiver with ⟨complete, later, unread, arrived⟩
    simp only [Connection.step, incoming]
    by_cases same : receiver = side
    · subst same
      rw [Function.update_self, Function.update_of_ne (Side.peer_ne receiver)]
      have unchanged := ConnectionEnd.act_session (connection.ends receiver)
        (connection.handedOut receiver) action
      exact ⟨complete, later, unread, arrived.of_decoders unchanged.1 unchanged.2⟩
    · rw [Function.update_of_ne same]
      have sender : receiver.peer = side := by
        rw [Side.eq_peer_of_ne same, Side.peer_peer]
      rw [incoming, sender] at arrived
      rw [sender, Function.update_self]
      rcases ConnectionEnd.act_link (connection.ends side) (connection.handedOut side) action with
        ⟨more, wireEq, deliveredEq⟩
      exact ⟨complete, later ++ more, unread,
        arrived.more ((valid.ends side).sound (few side)) wireEq deliveredEq⟩

theorem read (valid : connection.Valid idSpace) (side : Side) (count : Nat) :
    (connection.step (.read side count)).Valid idSpace := by
  have others := Side.peer_ne side
  refine ⟨valid.oneCounter.step _, ?_, ?_⟩
  · intro other
    simp only [Connection.step]
    by_cases same : other = side
    · subst same
      rw [Function.update_of_ne others.symm, Function.update_self]
      exact (valid.ends other).of_dispatcher rfl fun draws => draws.readBytes _
    · rw [Side.eq_peer_of_ne same, Function.update_self]
      have sender := valid.ends side.peer
      exact ⟨sender.space, sender.requests, sender.requestIds, sender.streams,
        fun few => (sender.sound few).deliver count, sender.headers⟩
  · intro few receiver
    rcases valid.received few side with ⟨complete, later, unread, arrived⟩
    simp only [Connection.step, incoming]
    by_cases same : receiver = side
    · subst same
      rw [Function.update_self, Function.update_of_ne others.symm, Function.update_self]
      rcases arrived.deliver ((valid.ends _).sound (few _)) count with
        ⟨more, later', unread', arrived', -, -⟩
      refine ⟨complete ++ more, later', unread', ?_⟩
      simp only
      rw [RpcDispatcher.readBytes_eq]
      exact arrived'
    · rw [Side.eq_peer_of_ne same, Side.peer_peer, Function.update_of_ne others.symm,
        Function.update_self, Function.update_self]
      have reverse := valid.received few side.peer
      rw [incoming, Side.peer_peer] at reverse
      exact reverse

theorem step (valid : connection.Valid idSpace) (step : ConnectionStep H) :
    (connection.step step).Valid idSpace := by
  cases step with
  | act side action => exact valid.act side action
  | read side count => exact valid.read side count

/-- Every state that a connection reaches is valid. -/
theorem run (valid : connection.Valid idSpace) (steps : List (ConnectionStep H)) :
    (connection.run steps).Valid idSpace := by
  induction steps generalizing connection with
  | nil => exact valid
  | cons first rest ih => exact ih (valid.step first)

end Valid

/-! ### What a read delivers -/

/-- The events that a read of at most `count` bytes delivers to an end. -/
def readEvents (connection : Connection H) (side : Side) (count : Nat) : List RpcStreamEvent :=
  ((connection.ends side).dispatcher.session.decodeBytes
    ((connection.incoming side).chunk count)).1

/-- Every event of a read belongs to a stream that the peer has opened. -/
theorem Valid.mem_readEvents {connection : Connection H} {idSpace : Side → IdSpace}
    (valid : connection.Valid idSpace) (few : ∀ side, connection.handedOut side ≤ 2 ^ 31)
    {side : Side} {count : Nat} {event : RpcStreamEvent}
    (member : event ∈ connection.readEvents side count) :
    ∃ outgoing ∈ (connection.incoming side).streams,
      event.requestId = some outgoing.header.rpcRequestId ∧
      event.rpcHeader = some outgoing.header.onWire := by
  rcases valid.received few side with ⟨complete, later, unread, arrived⟩
  have sound := (valid.ends side.peer).sound (few side.peer)
  rcases arrived.deliver sound count with ⟨more, later', unread', arrived', -, eventsEq⟩
  have inHistory : event ∈ (Link.decodeFrames (complete ++ more)).1.map Prod.snd := by
    rw [eventsEq]
    exact List.mem_append_right _ member
  rcases List.mem_map.mp inHistory with ⟨output, outputMem, rfl⟩
  rcases (sound.deliver count).mem_decodeFrames arrived'.wire outputMem with
    ⟨outgoing, outgoingMem, -, -, named, headed⟩
  exact ⟨outgoing, outgoingMem, named, headed⟩

/-- Whether an event belongs to a stream opened with a call. -/
def OfCall (event : RpcStreamEvent) : Prop :=
  event.rpcHeader.map RpcHeader.rpcMsgType = some .call

instance (event : RpcStreamEvent) : Decidable (OfCall event) :=
  inferInstanceAs (Decidable (_ = _))

/-- Events of a peer's calls name a request of the peer. -/
theorem Valid.requestId_of_call {connection : Connection H} {idSpace : Side → IdSpace}
    (valid : connection.Valid idSpace) (few : ∀ side, connection.handedOut side ≤ 2 ^ 31)
    {side : Side} {count : Nat} {event : RpcStreamEvent}
    (member : event ∈ connection.readEvents side count) (ofCall : OfCall event) :
    ∃ call ∈ (connection.ends side.peer).calls, event.requestId = some call.rpcRequestId := by
  rcases valid.mem_readEvents few member with ⟨outgoing, outgoingMem, named, headed⟩
  have isCall : outgoing.header.rpcMsgType = .call := by
    rw [OfCall, headed] at ofCall
    exact Option.some.inj ofCall
  rcases List.mem_map.mp ((valid.ends side.peer).headers outgoing outgoingMem isCall) with
    ⟨call, callMem, same⟩
  exact ⟨call, callMem, named.trans (congrArg some same.symm)⟩

/-- In a read, no event of a stream that the peer opened with a call changes what
a local call has stored under its request id, or is reported for that id. -/
def SparesCalls (connection : Connection H) (side : Side) (count : Nat) : Prop :=
  let dispatcher := (connection.ends side).dispatcher
  ∀ before event after, connection.readEvents side count = before ++ event :: after →
    OfCall event → ∀ call ∈ (connection.ends side).calls,
      let routing := (dispatcher.actionsOf before).1
      let next := routing.onEvent dispatcher.rpcRespondableSession.streamMethodRouter
        dispatcher.rpcRespondableSession.catchAllResponseHandler event
      next.1.slot call.rpcRequestId = routing.slot call.rpcRequestId ∧
        ∀ action ∈ next.2, action.requestId ≠ some call.rpcRequestId

/-- Calls whose request ids the peer's calls do not use are spared. -/
theorem Valid.sparesCalls {connection : Connection H} {idSpace : Side → IdSpace}
    (valid : connection.Valid idSpace) (few : ∀ side, connection.handedOut side ≤ 2 ^ 31)
    {side : Side}
    (apart : ∀ call ∈ (connection.ends side).calls, ∀ other ∈ (connection.ends side.peer).calls,
      call.rpcRequestId ≠ other.rpcRequestId) (count : Nat) :
    connection.SparesCalls side count := by
  intro before event after eventsEq ofCall call callMem routing next
  have member : event ∈ connection.readEvents side count := by
    rw [eventsEq]
    exact List.mem_append_right _ List.mem_cons_self
  rcases valid.requestId_of_call few member ofCall with ⟨other, otherMem, named⟩
  have unnamed : event.requestId ≠ some call.rpcRequestId := by
    rw [named]
    intro same
    exact apart call callMem other otherMem (Option.some.inj same).symm
  constructor
  · exact Routing.onEvent_slot_other _ _ _ unnamed
  · intro action actionMem
    rw [Routing.onEvent_requestId _ _ _ actionMem]
    exact unnamed

/-- All request ids an end has drawn from its counter for calls. -/
def requestIds (connection : Connection H) (side : Side) : List UInt32 :=
  (connection.ends side).dispatcher.callId ::
    (connection.ends side).calls.map CallRecord.rpcRequestId

/-- All stream ids an end has drawn from its counter for streams. -/
def streamIds (connection : Connection H) (side : Side) : List UInt32 :=
  (connection.ends side).dispatcher.streamId ::
    (connection.ends side).link.streams.map Outgoing.streamId

end Connection

end Muxio.Rpc
