import Muxio.Rpc.Connection
import Muxio.Service.HeardStreams
import Muxio.Service.Prebuffered
import Muxio.Transition.Fifo
import Muxio.Transition.Refinement

/-!
# Channels from a client to a server

The channel adapter joins an in-process channel at a client to one at a server.
`open_channel` starts a call and spawns a task that forwards what is pushed into the
request channel and ends the stream when the sender is dropped.  At the server,
`register_channel_handler` passes the chunks of the streams of a method on to a sender
that it holds until a stream ends.

Here the client has any number of channels and other calls, whose frames are put on the
wire in any interleaving; the server reads in pieces of any size, and the receivers take
items out whenever they like.
-/

namespace Muxio.Service

open Std
open Muxio.Framing
open Muxio.Rpc
open Muxio.Transition

/-! ## The server's side -/

/-- The streaming handler that `register_channel_handler` registers never answers. -/
def channelHandler : StreamHandler := fun _ => []

/-- The channel behind such a handler, with its sender and its receiver. -/
structure ChannelSink where
  /-- `none` for an unbounded sender. -/
  capacity : Option Nat
  queue : List (List UInt8)
  /-- What the receiver has taken out. -/
  received : List (List UInt8)
  senderHeld : Bool
  deriving DecidableEq, Repr

namespace ChannelSink

def new (capacity : Option Nat) : ChannelSink := ⟨capacity, [], [], true⟩

/-- A full channel loses the bytes. -/
def trySendBytes (sink : ChannelSink) (bytes : List UInt8) : ChannelSink :=
  { sink with queue := Fifo.push sink.capacity sink.queue bytes }

/-- What the registered handler does with an event. -/
def onEvent (sink : ChannelSink) : RpcStreamEvent → ChannelSink
  | .payloadChunk _ _ _ bytes => if sink.senderHeld then sink.trySendBytes bytes else sink
  | .end .. => { sink with senderHeld := false }
  | .error .. => { sink with senderHeld := false }
  | .header .. => sink

/-- The receiver takes an item, if there is one. -/
def recv (sink : ChannelSink) : ChannelSink :=
  match sink.queue with
  | [] => sink
  | item :: rest => { sink with queue := rest, received := sink.received ++ [item] }

/-- All items, those taken out and those still waiting. -/
def items (sink : ChannelSink) : List (List UInt8) := sink.received ++ sink.queue

end ChannelSink

/-- The chunks of a list of events up to the first terminal one. -/
def chunksBeforeEnd : List RpcStreamEvent → List (List UInt8)
  | [] => []
  | .payloadChunk _ _ _ bytes :: rest => bytes :: chunksBeforeEnd rest
  | .header .. :: rest => chunksBeforeEnd rest
  | .end .. :: _ => []
  | .error .. :: _ => []

/-- What a terminal event makes of the chunks that come after it. -/
theorem chunksBeforeEnd_append (first second : List RpcStreamEvent) :
    chunksBeforeEnd (first ++ second) =
      chunksBeforeEnd first ++
        if first.any RpcStreamEvent.isTerminal then [] else chunksBeforeEnd second := by
  induction first with
  | nil => rfl
  | cons event rest ih =>
      cases event with
      | payloadChunk _ _ _ bytes => exact congrArg (bytes :: ·) ih
      | header => exact ih
      | «end» => rfl
      | error => rfl

/-- A sink after the events that its handler has heard. -/
structure ChannelSink.Holds (sink : ChannelSink) (events : List RpcStreamEvent) : Prop where
  inOrder : sink.items.Sublist (chunksBeforeEnd events)
  all : sink.capacity = none → sink.items = chunksBeforeEnd events
  held : sink.senderHeld = !events.any RpcStreamEvent.isTerminal

namespace ChannelSink.Holds

variable {sink : ChannelSink} {events : List RpcStreamEvent}

theorem new (capacity : Option Nat) : (ChannelSink.new capacity).Holds [] :=
  ⟨List.Sublist.refl _, fun _ => rfl, rfl⟩

/-- Nothing has been sent. -/
theorem of_same (holds : sink.Holds events) {after : ChannelSink}
    {eventsAfter : List RpcStreamEvent} (sameItems : after.items = sink.items)
    (sameCapacity : after.capacity = sink.capacity)
    (sameChunks : chunksBeforeEnd eventsAfter = chunksBeforeEnd events)
    (held : after.senderHeld = !eventsAfter.any RpcStreamEvent.isTerminal) :
    after.Holds eventsAfter where
  inOrder := by
    rw [sameItems, sameChunks]
    exact holds.inOrder
  all := by
    rw [sameItems, sameCapacity, sameChunks]
    exact holds.all
  held := held

theorem recv (holds : sink.Holds events) : sink.recv.Holds events := by
  unfold ChannelSink.recv
  split
  · exact holds
  · rename_i item rest queueEq
    exact holds.of_same (by simp [ChannelSink.items, queueEq]) rfl rfl holds.held

/-- A chunk before the end is sent. -/
theorem trySendBytes (holds : sink.Holds events) (isHeld : sink.senderHeld = true)
    {event : RpcStreamEvent} (bytes : List UInt8) (goesOn : event.isTerminal = false)
    (carries : chunksBeforeEnd [event] = [bytes]) :
    (sink.trySendBytes bytes).Holds (events ++ [event]) := by
  have before : events.any RpcStreamEvent.isTerminal = false := by
    simpa using isHeld.symm.trans holds.held
  have more : chunksBeforeEnd (events ++ [event]) = chunksBeforeEnd events ++ [bytes] := by
    rw [chunksBeforeEnd_append, before, carries]
    rfl
  constructor
  case inOrder =>
    rw [more, ChannelSink.items, ChannelSink.trySendBytes, Fifo.push]
    split
    · rw [← List.append_assoc]
      exact holds.inOrder.append (List.Sublist.refl _)
    · exact holds.inOrder.trans (List.sublist_append_left _ _)
  case all =>
    intro unbounded
    have noBound : sink.capacity = none := unbounded
    have sent : (sink.trySendBytes bytes).items = sink.items ++ [bytes] := by
      simp [ChannelSink.items, ChannelSink.trySendBytes, noBound, Fifo.push, Fifo.fits]
    rw [sent, more, holds.all noBound]
  case held =>
    rw [List.any_append, before, List.any_cons, goesOn]
    exact isHeld

/-- The events before the first terminal one send their chunks, the others nothing. -/
theorem onEvent (holds : sink.Holds events) (event : RpcStreamEvent) :
    (sink.onEvent event).Holds (events ++ [event]) := by
  have closes : event.isTerminal = true →
      false = !(events ++ [event]).any RpcStreamEvent.isTerminal := fun terminal => by
    simp [terminal]
  have goesOn : event.isTerminal = false → (events ++ [event]).any RpcStreamEvent.isTerminal =
      events.any RpcStreamEvent.isTerminal := fun unfinished => by simp [unfinished]
  have noChunk : chunksBeforeEnd [event] = [] →
      chunksBeforeEnd (events ++ [event]) = chunksBeforeEnd events := by
    intro nothing
    rw [chunksBeforeEnd_append, nothing, ite_self, List.append_nil]
  cases event with
  | header =>
      exact holds.of_same rfl rfl (noChunk rfl) (holds.held.trans (congrArg _ (goesOn rfl).symm))
  | «end» => exact holds.of_same rfl rfl (noChunk rfl) (closes rfl)
  | error => exact holds.of_same rfl rfl (noChunk rfl) (closes rfl)
  | payloadChunk header requestId methodId bytes =>
      rw [ChannelSink.onEvent]
      split
      · rename_i isHeld
        exact holds.trySendBytes isHeld bytes rfl rfl
      · rename_i dropped
        have after : events.any RpcStreamEvent.isTerminal = true := by
          simpa [holds.held] using dropped
        refine holds.of_same rfl rfl ?_ (holds.held.trans (congrArg _ (goesOn rfl).symm))
        rw [chunksBeforeEnd_append, if_pos after, List.append_nil]

theorem onEvents (holds : sink.Holds events) (more : List RpcStreamEvent) :
    (more.foldl ChannelSink.onEvent sink).Holds (events ++ more) := by
  induction more generalizing sink events with
  | nil => simpa using holds
  | cons event rest ih =>
      have later := ih (holds.onEvent event)
      rwa [List.append_assoc] at later

end ChannelSink.Holds

/-! ## The client's side -/

/-- A channel opened with `open_channel`, with the task that forwards its messages. -/
structure ChannelWriter where
  methodId : UInt64
  rpcRequestId : UInt32
  streamId : UInt32
  /-- Everything pushed into the request channel. -/
  pushed : List (List UInt8)
  /-- What the task has not taken yet. -/
  queue : List (List UInt8)
  senderDropped : Bool
  /-- The task has returned. -/
  finished : Bool
  deriving DecidableEq, Repr

namespace ChannelWriter

def new (methodId : UInt64) (rpcRequestId streamId : UInt32) : ChannelWriter :=
  ⟨methodId, rpcRequestId, streamId, [], [], false, false⟩

/-- A dropped sender cannot be used. -/
def push (message : List UInt8) (writer : ChannelWriter) : ChannelWriter :=
  if writer.senderDropped then writer
  else { writer with pushed := writer.pushed ++ [message], queue := writer.queue ++ [message] }

def dropSender (writer : ChannelWriter) : ChannelWriter := { writer with senderDropped := true }

/-- The header of the call that the channel is. -/
def header (writer : ChannelWriter) : RpcHeader := ⟨.call, writer.rpcRequestId, writer.methodId, []⟩

end ChannelWriter

/-- The request of `open_channel`. -/
def channelRequest (methodId : UInt64) : RpcRequest := ⟨methodId, none, none, false⟩

/-- One round of the task with a message: a failed write ends the stream. -/
def forwardOrEnd (message : List UInt8) (outgoing : Outgoing) : Outgoing :=
  let forwarded := forwardMessage outgoing message
  if forwarded.2 then forwarded.1 else forwarded.1.endStream

section Continued

variable (message : List UInt8) (outgoing : Outgoing)

theorem forwardMessage_same :
    (forwardMessage outgoing message).1.streamId = outgoing.streamId ∧
      (forwardMessage outgoing message).1.header = outgoing.header ∧
      (forwardMessage outgoing message).1.chunkSize = outgoing.chunkSize ∧
      outgoing.frames <+: (forwardMessage outgoing message).1.frames := by
  unfold forwardMessage
  simp only
  split
  · exact ⟨rfl, rfl, rfl, List.prefix_append _ _⟩
  · split <;>
      exact ⟨rfl, rfl, rfl, (List.prefix_append _ _).trans (List.prefix_append _ _)⟩

theorem forwardOrEnd_same :
    (forwardOrEnd message outgoing).streamId = outgoing.streamId ∧
      (forwardOrEnd message outgoing).header = outgoing.header ∧
      outgoing.frames <+: (forwardOrEnd message outgoing).frames := by
  rcases forwardMessage_same message outgoing with ⟨sameId, sameHeader, -, longer⟩
  unfold forwardOrEnd
  simp only
  split
  · exact ⟨sameId, sameHeader, longer⟩
  · exact ⟨sameId, sameHeader, longer.trans (List.prefix_append _ _)⟩

end Continued

/-! ## The system -/

structure ChannelPipes where
  client : ConnectionEnd (EndpointHandler Nat)
  /-- Ids handed out so far in the process of the client. -/
  handedOut : Nat
  writers : List ChannelWriter
  endpoint : RpcServiceEndpoint
  server : EndpointState Nat
  /-- What the event callback of the server has done. -/
  log : List (Action (EndpointHandler Nat))
  /-- The channels of the registered methods. -/
  sinks : UInt64 → ChannelSink

inductive PipeStep where
  | openChannel (methodId : UInt64)
  | push (index : Nat) (message : List UInt8)
  | dropSender (index : Nat)
  /-- The task of a channel makes its next round. -/
  | forward (index : Nat)
  /-- The client does something else. -/
  | act (step : EndStep (EndpointHandler Nat))
  /-- The client reads. -/
  | hear (bytes : List UInt8)
  /-- The server reads at most `count` bytes of what is on the wire; `handedOut` ids have
  been handed out in its process. -/
  | read (count handedOut : Nat)
  /-- The receiver of a method takes an item. -/
  | recv (methodId : UInt64)

namespace ChannelPipes

def new (endpoint : RpcServiceEndpoint) (creation : Creation) (capacity : UInt64 → Option Nat) :
    ChannelPipes where
  client := ConnectionEnd.new (creation.idSpace .client) (creation.start .client)
  handedOut := creation.handedOut .client
  writers := []
  endpoint := endpoint
  server := (EndpointState.new (creation.idSpace .server) (creation.start .server)).1
  log := []
  sinks methodId := ChannelSink.new (capacity methodId)

/-- `open_channel`: start the call and flush its header. -/
def openChannel (pipes : ChannelPipes) (methodId : UInt64) : ChannelPipes :=
  let called := pipes.client.act pipes.handedOut (.call (channelRequest methodId) serviceChunkSize
    (some (.response pipes.writers.length)) false)
  let flushed := called.1.act called.2 (.write pipes.client.dispatcher.streamId .flush)
  { pipes with
    client := flushed.1
    handedOut := flushed.2
    writers := pipes.writers ++ [ChannelWriter.new methodId pipes.client.dispatcher.callId
      pipes.client.dispatcher.streamId] }

/-- The encoder of a channel still accepts the message. -/
def accepts (pipes : ChannelPipes) (streamId : UInt32) (message : List UInt8) : Bool :=
  (pipes.client.link.streams.find? fun outgoing => outgoing.streamId = streamId).any
    fun outgoing => (forwardMessage outgoing message).2

/-- Change the stream of a channel. -/
def changeStream (pipes : ChannelPipes) (streamId : UInt32) (continued : Outgoing → Outgoing) :
    ChannelPipes :=
  { pipes with
    client := { pipes.client with link := pipes.client.link.change streamId continued } }

/-- A round of the task of a channel.  It waits while there is nothing to forward and the
sender is held. -/
def forward (pipes : ChannelPipes) (index : Nat) : ChannelPipes :=
  match pipes.writers[index]? with
  | none => pipes
  | some writer =>
      if writer.finished then
        pipes
      else
        match writer.queue with
        | message :: rest =>
            { pipes.changeStream writer.streamId (forwardOrEnd message) with
              writers := pipes.writers.set index
                { writer with
                  queue := rest
                  finished := !pipes.accepts writer.streamId message } }
        | [] =>
            if writer.senderDropped then
              { pipes.changeStream writer.streamId Outgoing.endStream with
                writers := pipes.writers.set index { writer with finished := true } }
            else
              pipes

/-- What an action of the server does to the channels. -/
def onAction (sinks : UInt64 → ChannelSink) :
    Action (EndpointHandler Nat) → UInt64 → ChannelSink
  | .invoked (.stream methodId) event =>
      Function.update sinks methodId ((sinks methodId).onEvent event)
  | _ => sinks

/-- The server reads what has arrived. -/
def read (pipes : ChannelPipes) (count handedOut : Nat) : ChannelPipes :=
  let read := pipes.endpoint.readBytes pipes.server (pipes.client.link.chunk count) handedOut
  { pipes with
    client := { pipes.client with link := pipes.client.link.deliver count }
    server := read.state
    log := pipes.log ++ read.actions
    sinks := read.actions.foldl onAction pipes.sinks }

def step (pipes : ChannelPipes) : PipeStep → ChannelPipes
  | .openChannel methodId => pipes.openChannel methodId
  | .push index message =>
      { pipes with writers := pipes.writers.modify index (ChannelWriter.push message) }
  | .dropSender index =>
      { pipes with writers := pipes.writers.modify index ChannelWriter.dropSender }
  | .forward index => pipes.forward index
  | .act step =>
      let acted := pipes.client.act pipes.handedOut step
      { pipes with client := acted.1, handedOut := acted.2 }
  | .hear bytes =>
      { pipes with
        client := { pipes.client with
          dispatcher := (pipes.client.dispatcher.readBytes bytes).2.1 } }
  | .read count handedOut => pipes.read count handedOut
  | .recv methodId =>
      { pipes with sinks := Function.update pipes.sinks methodId (pipes.sinks methodId).recv }

def run (pipes : ChannelPipes) (steps : List PipeStep) : ChannelPipes := steps.foldl step pipes

/-- The client leaves the streams of its channels to their tasks, and answers no calls. -/
def Apart (pipes : ChannelPipes) : PipeStep → Prop
  | .act (.write streamId _) => streamId ∉ pipes.writers.map ChannelWriter.streamId
  | .act (.endStream streamId) => streamId ∉ pipes.writers.map ChannelWriter.streamId
  | .act (.respond ..) => False
  | .act (.createResponseWriter ..) => False
  | _ => True

end ChannelPipes

/-! ## What a handler hears of a stream -/

theorem forwardedEvents_part (header : RpcHeader) (pieces : List (List UInt8)) (ended : Bool) :
    forwardedEvents header pieces ended <+: header.streamEvents pieces := by
  cases ended with
  | true => exact List.prefix_refl _
  | false =>
      rw [forwardedEvents, if_neg Bool.false_ne_true, List.append_nil]
      exact List.prefix_append _ _

theorem chunks_forwardedEvents (header : RpcHeader) (pieces : List (List UInt8)) (ended : Bool) :
    chunksBeforeEnd (forwardedEvents header pieces ended) = pieces ∧
      (forwardedEvents header pieces ended).any RpcStreamEvent.isTerminal = ended := by
  have ofPieces : chunksBeforeEnd (pieces.map header.chunkEvent) = pieces ∧
      (pieces.map header.chunkEvent).any RpcStreamEvent.isTerminal = false := by
    induction pieces with
    | nil => exact ⟨rfl, rfl⟩
    | cons piece rest ih => exact ⟨congrArg (piece :: ·) ih.1, ih.2⟩
  have announced : chunksBeforeEnd (header.headerEvent :: pieces.map header.chunkEvent) = pieces ∧
      (header.headerEvent :: pieces.map header.chunkEvent).any RpcStreamEvent.isTerminal = false :=
    ofPieces
  cases ended with
  | false => simpa [forwardedEvents] using announced
  | true =>
      rw [forwardedEvents, if_pos rfl, chunksBeforeEnd_append, announced.2, List.any_append,
        announced.2, announced.1]
      exact ⟨List.append_nil _, rfl⟩

/-- A part of a stream has a part of its pieces, and all of them once it has the end. -/
theorem chunks_of_part {header : RpcHeader} {pieces : List (List UInt8)} {ended : Bool}
    {part : List RpcStreamEvent} (isPart : part <+: forwardedEvents header pieces ended) :
    chunksBeforeEnd part <+: pieces ∧
      (part.any RpcStreamEvent.isTerminal = true →
        ended = true ∧ chunksBeforeEnd part = pieces) := by
  rcases chunks_forwardedEvents header pieces ended with ⟨chunksEq, endedEq⟩
  rcases isPart with ⟨rest, split⟩
  rw [← split, chunksBeforeEnd_append] at chunksEq
  constructor
  · exact ⟨_, chunksEq⟩
  · intro terminal
    rw [if_pos terminal, List.append_nil] at chunksEq
    rw [← split, List.any_append, terminal, Bool.true_or] at endedEq
    exact ⟨endedEq.symm, chunksEq⟩

/-! ## The invariant -/

namespace ChannelPipes

variable {pipes : ChannelPipes} {idSpace : IdSpace} {arrived : List RpcStreamEvent}

/-- A channel and its stream: the stream has carried the messages that the task has taken,
and the task has not left before it had taken them all. -/
structure Carried (writer : ChannelWriter) (outgoing : Outgoing) : Prop where
  streamId : outgoing.streamId = writer.streamId
  header : outgoing.header = writer.header
  chunkSize : outgoing.chunkSize = serviceChunkSize
  forwarded : ∃ taken, Forwarded outgoing taken writer.finished ∧
    writer.pushed = taken ++ writer.queue
  leaves : writer.finished = true → writer.queue = [] ∧ writer.senderDropped = true

/-- The client with its channels. -/
structure Writing (client : ConnectionEnd (EndpointHandler Nat)) (handedOut : Nat)
    (writers : List ChannelWriter) (idSpace : IdSpace) : Prop where
  valid : client.Valid idSpace handedOut
  numbered : (client.link.streams.map fun outgoing => outgoing.header.rpcRequestId) =
    client.calls.map CallRecord.rpcRequestId
  carried : ∀ writer ∈ writers, ∃ outgoing ∈ client.link.streams, Carried writer outgoing
  distinct : (writers.map ChannelWriter.streamId).Nodup

/-- The actions of a read reach the channels of their methods. -/
theorem foldl_onAction (actions : List (Action (EndpointHandler Nat)))
    (sinks : UInt64 → ChannelSink) (methodId : UInt64) :
    actions.foldl onAction sinks methodId =
      (heard (.stream methodId) actions).foldl ChannelSink.onEvent (sinks methodId) := by
  induction actions generalizing sinks with
  | nil => rfl
  | cons action rest ih =>
      rw [List.foldl_cons, ih]
      cases action with
      | routed | caught => rfl
      | invoked handler event =>
          cases handler with
          | response => rfl
          | stream other =>
              by_cases same : other = methodId
              · subst same
                have hears : Action.heardBy (.stream other)
                    (.invoked (EndpointHandler.stream (R := Nat) other) event) = some event :=
                  if_pos rfl
                simp only [heard]
                rw [List.filterMap_cons_some hears, List.foldl_cons, onAction,
                  Function.update_self]
              · have differs : EndpointHandler.stream (R := Nat) other ≠ .stream methodId :=
                  fun equal => same (EndpointHandler.stream.inj equal)
                have misses : Action.heardBy (.stream methodId)
                    (.invoked (EndpointHandler.stream (R := Nat) other) event) = none :=
                  if_neg differs
                simp only [heard]
                rw [List.filterMap_cons_none misses, onAction,
                  Function.update_of_ne fun equal => same equal.symm]

/-! ## Steps of the client -/

namespace Writing

variable {client : ConnectionEnd (EndpointHandler Nat)} {handedOut : Nat}
  {writers : List ChannelWriter}

theorem new (idSpace : IdSpace) {start handedOut : Nat} (created : start + 2 ≤ handedOut) :
    Writing (ConnectionEnd.new idSpace start) handedOut [] idSpace where
  valid := ConnectionEnd.new_valid idSpace created
  numbered := rfl
  carried _ member := absurd member List.not_mem_nil
  distinct := List.nodup_nil

/-- The client has gone on with streams that are not those of its channels. -/
theorem of_streams (writing : Writing client handedOut writers idSpace)
    {after : ConnectionEnd (EndpointHandler Nat)} {handedOutAfter : Nat}
    (valid : after.Valid idSpace handedOutAfter)
    (numbered : (after.link.streams.map fun outgoing => outgoing.header.rpcRequestId) =
      after.calls.map CallRecord.rpcRequestId)
    (kept : ∀ outgoing ∈ client.link.streams,
      outgoing.streamId ∈ writers.map ChannelWriter.streamId → outgoing ∈ after.link.streams) :
    Writing after handedOutAfter writers idSpace where
  valid := valid
  numbered := numbered
  carried writer member := by
    rcases writing.carried writer member with ⟨outgoing, outgoingMem, carried⟩
    refine ⟨outgoing, kept outgoing outgoingMem ?_, carried⟩
    rw [carried.streamId]
    exact List.mem_map_of_mem member
  distinct := writing.distinct

/-- Only the streams of other ids are untouched by a change. -/
theorem mem_change {link : Link} {streamId : UInt32} {continued : Outgoing → Outgoing}
    {outgoing : Outgoing} (member : outgoing ∈ link.streams)
    (other : outgoing.streamId ≠ streamId) : outgoing ∈ (link.change streamId continued).streams :=
  List.mem_map.mpr ⟨outgoing, member, if_neg other⟩

theorem change_requestIds (link : Link) (streamId : UInt32) {continued : Outgoing → Outgoing}
    (sameHeader : ∀ outgoing, (continued outgoing).header = outgoing.header) :
    ((link.change streamId continued).streams.map fun outgoing => outgoing.header.rpcRequestId) =
      link.streams.map fun outgoing => outgoing.header.rpcRequestId := by
  rw [Link.change, List.map_map]
  apply List.map_congr_left
  intro outgoing _
  rw [Function.comp_apply]
  split
  · rw [sameHeader]
  · rfl

/-- Whatever else the client does. -/
theorem act (writing : Writing client handedOut writers idSpace)
    {step : EndStep (EndpointHandler Nat)} {pipes : ChannelPipes}
    (sameWriters : pipes.writers = writers) (apart : pipes.Apart (.act step)) :
    Writing (client.act handedOut step).1 (client.act handedOut step).2 writers idSpace := by
  have valid := writing.valid.act step
  cases step with
  | call rpcRequest maxChunkSize onResponse prebufferResponse =>
      apply writing.of_streams valid
      · simp only [ConnectionEnd.act, Link.opened, List.map_append, List.map_cons, List.map_nil]
        exact congrArg (· ++ [client.dispatcher.callId]) writing.numbered
      · exact fun outgoing member _ => List.mem_append_left _ member
  | respond => contradiction
  | createResponseWriter => contradiction
  | write streamId op =>
      apply writing.of_streams valid
      · refine (change_requestIds client.link streamId ?_).trans writing.numbered
        exact fun _ => rfl
      · intro outgoing member ofChannel
        exact mem_change member fun same => apart (sameWriters ▸ same ▸ ofChannel)
  | endStream streamId =>
      apply writing.of_streams valid
      · refine (change_requestIds client.link streamId ?_).trans writing.numbered
        exact fun _ => rfl
      · intro outgoing member ofChannel
        exact mem_change member fun same => apart (sameWriters ▸ same ▸ ofChannel)
  | send streamId =>
      have sameStreams := client.link.send_streams streamId
      apply writing.of_streams valid
      · simp only [ConnectionEnd.act, sameStreams]
        exact writing.numbered
      · intro outgoing member _
        simp only [ConnectionEnd.act, sameStreams]
        exact member
  | setStreamMethodRouter | deleteRpcRequest | draw =>
      exact writing.of_streams valid writing.numbered fun outgoing member _ => member

/-- The client reads. -/
theorem hear (writing : Writing client handedOut writers idSpace) (bytes : List UInt8) :
    Writing { client with dispatcher := (client.dispatcher.readBytes bytes).2.1 } handedOut
      writers idSpace := by
  have sameSpace : (client.dispatcher.readBytes bytes).2.1.idSpace = client.dispatcher.idSpace := by
    rw [RpcDispatcher.readBytes_eq]
    rfl
  have valid := writing.valid.of_dispatcher sameSpace fun draws => draws.readBytes bytes
  exact writing.of_streams valid writing.numbered fun outgoing member _ => member

theorem deliver (writing : Writing client handedOut writers idSpace) (count : Nat) :
    Writing { client with link := client.link.deliver count } handedOut writers idSpace := by
  have before := writing.valid
  have valid : ({ client with link := client.link.deliver count } :
      ConnectionEnd (EndpointHandler Nat)).Valid idSpace handedOut :=
    ⟨before.space, before.requests, before.requestIds, before.streams,
      fun few => (before.sound few).deliver count, before.headers⟩
  exact writing.of_streams valid writing.numbered fun outgoing member _ => member

/-- A writer changes without its stream. -/
theorem modify (writing : Writing client handedOut writers idSpace) (index : Nat)
    {changed : ChannelWriter → ChannelWriter}
    (sameId : ∀ writer, (changed writer).streamId = writer.streamId)
    (carries : ∀ writer outgoing, Carried writer outgoing → Carried (changed writer) outgoing) :
    Writing client handedOut (writers.modify index changed) idSpace where
  valid := writing.valid
  numbered := writing.numbered
  carried writer member := by
    rcases List.mem_iff_getElem?.mp member with ⟨position, found⟩
    rw [List.getElem?_modify] at found
    cases before : writers[position]? with
    | none =>
        rw [before] at found
        contradiction
    | some old =>
        rw [before, Option.map_eq_map, Option.map_some, Option.some.injEq] at found
        rcases writing.carried old (List.mem_of_getElem? before) with
          ⟨outgoing, outgoingMem, carried⟩
        refine ⟨outgoing, outgoingMem, ?_⟩
        rw [← found]
        split
        · exact carries old outgoing carried
        · exact carried
  distinct := by
    have sameIds : (writers.modify index changed).map ChannelWriter.streamId =
        writers.map ChannelWriter.streamId := by
      apply List.ext_getElem?
      intro position
      rw [List.getElem?_map, List.getElem?_map, List.getElem?_modify, Option.map_eq_map,
        Option.map_map]
      congr 1
      funext writer
      rw [Function.comp_apply]
      split
      · exact sameId writer
      · rfl
    rw [sameIds]
    exact writing.distinct

theorem push (writing : Writing client handedOut writers idSpace) (index : Nat)
    (message : List UInt8) :
    Writing client handedOut (writers.modify index (ChannelWriter.push message)) idSpace := by
  apply writing.modify
  · intro writer
    unfold ChannelWriter.push
    split <;> rfl
  · intro writer outgoing carried
    unfold ChannelWriter.push
    split
    · exact carried
    · rename_i isHeld
      rcases carried.forwarded with ⟨taken, forwarded, pushedEq⟩
      refine ⟨carried.streamId, carried.header, carried.chunkSize, ⟨taken, forwarded, ?_⟩, ?_⟩
      · simp only [pushedEq, List.append_assoc]
      · intro finished
        exact absurd (carried.leaves finished).2 isHeld

theorem dropSender (writing : Writing client handedOut writers idSpace) (index : Nat) :
    Writing client handedOut (writers.modify index ChannelWriter.dropSender) idSpace := by
  apply writing.modify
  · exact fun _ => rfl
  · intro writer outgoing carried
    exact ⟨carried.streamId, carried.header, carried.chunkSize, carried.forwarded,
      fun finished => ⟨(carried.leaves finished).1, rfl⟩⟩

/-- A writer changes together with its stream. -/
theorem changeStream (writing : Writing client handedOut writers idSpace) {index : Nat}
    {writer changed : ChannelWriter} (found : writers[index]? = some writer)
    (ownId : changed.streamId = writer.streamId) {continued : Outgoing → Outgoing}
    (sameId : ∀ outgoing, (continued outgoing).streamId = outgoing.streamId)
    (sameHeader : ∀ outgoing, (continued outgoing).header = outgoing.header)
    (longer : ∀ outgoing, outgoing.frames <+: (continued outgoing).frames)
    (carries : ∀ outgoing ∈ client.link.streams, Carried writer outgoing →
      Carried changed (continued outgoing)) :
    Writing { client with link := client.link.change writer.streamId continued } handedOut
      (writers.set index changed) idSpace where
  valid := writing.valid.change writer.streamId sameId sameHeader longer
  numbered := (change_requestIds client.link writer.streamId sameHeader).trans writing.numbered
  carried other member := by
    rcases List.mem_iff_getElem?.mp member with ⟨position, atPosition⟩
    rw [List.getElem?_set] at atPosition
    split at atPosition
    · rename_i here
      split at atPosition
      · cases atPosition
        rcases writing.carried writer (List.mem_of_getElem? found) with
          ⟨outgoing, outgoingMem, carried⟩
        exact ⟨continued outgoing,
          List.mem_map.mpr ⟨outgoing, outgoingMem, if_pos carried.streamId⟩,
          carries outgoing outgoingMem carried⟩
      · contradiction
    · rename_i elsewhere
      rcases writing.carried other (List.mem_of_getElem? atPosition) with
        ⟨outgoing, outgoingMem, carried⟩
      refine ⟨outgoing, mem_change outgoingMem ?_, carried⟩
      intro same
      rw [carried.streamId] at same
      rcases List.getElem?_eq_some_iff.mp found with ⟨inside, -⟩
      apply elsewhere
      apply (List.getElem?_inj (by simpa using inside) writing.distinct).mp
      rw [List.getElem?_map, List.getElem?_map, found, atPosition, Option.map_some,
        Option.map_some, same]
  distinct := by
    have sameIds : (writers.set index changed).map ChannelWriter.streamId =
        writers.map ChannelWriter.streamId := by
      rw [List.map_set, ownId]
      apply List.ext_getElem?
      intro position
      rw [List.getElem?_set, List.getElem?_map]
      split
      · rename_i here
        subst here
        rcases List.getElem?_eq_some_iff.mp found with ⟨inside, -⟩
        rw [if_pos (by simpa using inside), found]
        rfl
      · rfl
    rw [sameIds]
    exact writing.distinct

theorem channelHeader_fits (dispatcher : RpcDispatcher (EndpointHandler Nat)) (methodId : UInt64) :
    (dispatcher.callHeader (channelRequest methodId)).Fits ∧
      (dispatcher.callHeader (channelRequest methodId)).toBytes.length ≤
        serviceChunkSize.bytes := by
  constructor
  · exact Nat.zero_le _
  · rw [RpcHeader.toBytes_length]
    exact (by decide : rpcFrameFrameHeaderSize + 0 ≤ serviceChunkSize.bytes)

/-- `open_channel`. -/
theorem openChannel (writing : Writing client handedOut writers idSpace)
    (few : handedOut ≤ 2 ^ 31) (methodId : UInt64) (onResponse : Option (EndpointHandler Nat)) :
    let called := client.act handedOut (.call (channelRequest methodId) serviceChunkSize onResponse
      false)
    let flushed := called.1.act called.2 (.write client.dispatcher.streamId .flush)
    Writing flushed.1 flushed.2 (writers ++ [ChannelWriter.new methodId client.dispatcher.callId
      client.dispatcher.streamId]) idSpace := by
  intro called flushed
  have fresh := writing.valid.streamId_fresh few
  have unused : client.dispatcher.streamId ∉ writers.map ChannelWriter.streamId := by
    intro member
    rcases List.mem_map.mp member with ⟨writer, writerMem, same⟩
    rcases writing.carried writer writerMem with ⟨outgoing, outgoingMem, carried⟩
    apply fresh
    rw [← same, ← carried.streamId]
    exact List.mem_map_of_mem outgoingMem
  have numbered : (called.1.link.streams.map fun outgoing => outgoing.header.rpcRequestId) =
      called.1.calls.map CallRecord.rpcRequestId := by
    simp only [called, ConnectionEnd.act, Link.opened, List.map_append, List.map_cons,
      List.map_nil]
    exact congrArg (· ++ [client.dispatcher.callId]) writing.numbered
  constructor
  case valid => exact (writing.valid.act _).act _
  case numbered =>
    refine (change_requestIds called.1.link client.dispatcher.streamId ?_).trans numbered
    exact fun _ => rfl
  case carried =>
    intro writer member
    rcases List.mem_append.mp member with earlier | new
    · rcases writing.carried writer earlier with ⟨outgoing, outgoingMem, carried⟩
      refine ⟨outgoing, mem_change (List.mem_append_left _ outgoingMem) ?_, carried⟩
      intro same
      exact fresh (same ▸ List.mem_map_of_mem outgoingMem)
    · rw [List.mem_singleton.mp new]
      rcases channelHeader_fits client.dispatcher methodId with ⟨fits, short⟩
      refine ⟨_, List.mem_map.mpr ⟨_, List.mem_append_right _ List.mem_cons_self, if_pos rfl⟩, ?_⟩
      exact ⟨rfl, rfl, rfl, ⟨[], Forwarded.opened short fits rfl rfl, rfl⟩,
        fun finished => absurd finished Bool.false_ne_true⟩
  case distinct =>
    rw [List.map_append]
    exact List.nodup_append.mpr ⟨writing.distinct, List.nodup_singleton _, by
      intro id earlier other new same
      have isNew : id = client.dispatcher.streamId := same.trans (List.mem_singleton.mp new)
      exact unused (isNew ▸ earlier)⟩

/-- The task forwards a message. -/
theorem forwardMessage (writing : Writing client handedOut writers idSpace) {index : Nat}
    {writer : ChannelWriter} (found : writers[index]? = some writer)
    (running : writer.finished = false) {message : List UInt8} {rest : List (List UInt8)}
    (waiting : writer.queue = message :: rest) :
    Writing { client with link := client.link.change writer.streamId (forwardOrEnd message) }
      handedOut (writers.set index { writer with queue := rest }) idSpace := by
  have same := forwardOrEnd_same message
  refine writing.changeStream found ?_ (fun outgoing => (same outgoing).1)
    (fun outgoing => (same outgoing).2.1) (fun outgoing => (same outgoing).2.2) ?_
  · rfl
  intro outgoing _ carried
  rcases carried.forwarded with ⟨taken, forwarded, pushedEq⟩
  rw [running] at forwarded
  rcases forwarded.forward message with ⟨accepted, goesOn⟩
  have forwardEq : forwardOrEnd message outgoing = (Service.forwardMessage outgoing message).1 := by
    rw [forwardOrEnd, accepted, if_pos rfl]
  rcases forwardMessage_same message outgoing with ⟨sameId, sameHeader, sameSize, -⟩
  rw [forwardEq]
  constructor
  case streamId => exact sameId.trans carried.streamId
  case header => exact sameHeader.trans carried.header
  case chunkSize => exact sameSize.trans carried.chunkSize
  case forwarded =>
    refine ⟨taken ++ [message], ?_, ?_⟩
    · simp only [running]
      exact goesOn
    · rw [pushedEq, waiting, List.append_assoc]
      rfl
  case leaves => exact fun finished => absurd (running.symm.trans finished) Bool.false_ne_true

/-- The task ends the stream once the sender has been dropped. -/
theorem endStream (writing : Writing client handedOut writers idSpace) {index : Nat}
    {writer : ChannelWriter} (found : writers[index]? = some writer)
    (running : writer.finished = false) (drained : writer.queue = [])
    (dropped : writer.senderDropped = true) :
    Writing { client with link := client.link.change writer.streamId Outgoing.endStream }
      handedOut (writers.set index { writer with finished := true }) idSpace := by
  refine writing.changeStream found ?_ ?_ ?_ ?_ ?_
  · rfl
  · exact fun _ => rfl
  · exact fun _ => rfl
  · exact fun outgoing => List.prefix_append _ _
  intro outgoing _ carried
  rcases carried.forwarded with ⟨taken, forwarded, pushedEq⟩
  rw [running] at forwarded
  exact ⟨carried.streamId, carried.header, carried.chunkSize, ⟨taken, forwarded.finish, pushedEq⟩,
    fun _ => ⟨drained, dropped⟩⟩

end Writing

/-- The encoder of a channel accepts messages until its task has returned. -/
theorem Writing.accepts (writing : Writing pipes.client pipes.handedOut pipes.writers idSpace)
    (sound : pipes.client.link.Sound) {writer : ChannelWriter} (member : writer ∈ pipes.writers)
    (running : writer.finished = false) (message : List UInt8) :
    pipes.accepts writer.streamId message = true := by
  rcases writing.carried writer member with ⟨outgoing, outgoingMem, carried⟩
  rcases carried.forwarded with ⟨taken, forwarded, -⟩
  rw [running] at forwarded
  have found : (pipes.client.link.streams.find? fun other => other.streamId = writer.streamId) =
      some outgoing := by
    cases search : pipes.client.link.streams.find? fun other =>
        other.streamId = writer.streamId with
    | none =>
        have absent := List.find?_eq_none.mp search outgoing outgoingMem
        exact absurd (decide_eq_true carried.streamId) absent
    | some other =>
        have ownId : other.streamId = writer.streamId := by simpa using List.find?_some search
        rw [List.inj_on_of_nodup_map sound.distinct (List.mem_of_find?_eq_some search) outgoingMem
          (ownId.trans carried.streamId.symm)]
  rw [ChannelPipes.accepts, found]
  exact (forwarded.forward message).1

/-! ## Steps of the system -/

/-- The client writes, the server has heard a part of it, and the sinks hold what their
handlers have heard. -/
structure Piped (pipes : ChannelPipes) (idSpace : IdSpace) (arrived : List RpcStreamEvent) :
    Prop where
  writing : Writing pipes.client pipes.handedOut pipes.writers idSpace
  received : pipes.client.link.Received pipes.server.dispatcher.session arrived
  listening : Listening pipes.endpoint pipes.server pipes.log arrived
  sinks : ∀ methodId, (pipes.sinks methodId).Holds (heard (.stream methodId) pipes.log)

theorem new_piped (endpoint : RpcServiceEndpoint) (creation : Creation)
    (capacity : UInt64 → Option Nat) :
    (new endpoint creation capacity).Piped (creation.idSpace .client) [] where
  writing := Writing.new (creation.idSpace .client) (creation.created .client)
  received := Link.Received.new (creation.idSpace .server) (creation.start .server)
  listening := Listening.new endpoint (creation.idSpace .server) (creation.start .server)
  sinks methodId := ChannelSink.Holds.new (capacity methodId)

namespace Piped

/-- The client has gone on. -/
theorem of_client (piped : pipes.Piped idSpace arrived) (sound : pipes.client.link.Sound)
    {client : ConnectionEnd (EndpointHandler Nat)} {handedOut : Nat} {writers : List ChannelWriter}
    (writing : Writing client handedOut writers idSpace)
    (longer : ∃ more, client.link.wire = pipes.client.link.wire ++ more)
    (sameDelivered : client.link.delivered = pipes.client.link.delivered) :
    ({ pipes with client := client, handedOut := handedOut, writers := writers } :
      ChannelPipes).Piped idSpace arrived :=
  ⟨writing, piped.received.more sound longer sameDelivered, piped.listening, piped.sinks⟩

theorem openChannel (piped : pipes.Piped idSpace arrived) (few : pipes.handedOut ≤ 2 ^ 31)
    (methodId : UInt64) : (pipes.openChannel methodId).Piped idSpace arrived := by
  have sound := piped.writing.valid.sound few
  rcases pipes.client.act_link pipes.handedOut (.call (channelRequest methodId) serviceChunkSize
    (some (.response pipes.writers.length)) false) with ⟨more, wireEq, deliveredEq⟩
  apply piped.of_client sound (piped.writing.openChannel few methodId _)
  · exact ⟨more, wireEq⟩
  · exact deliveredEq

theorem forward (piped : pipes.Piped idSpace arrived) (few : pipes.handedOut ≤ 2 ^ 31)
    (index : Nat) : (pipes.forward index).Piped idSpace arrived := by
  have sound := piped.writing.valid.sound few
  have sameWire : ∃ more, pipes.client.link.wire = pipes.client.link.wire ++ more :=
    ⟨[], (List.append_nil _).symm⟩
  unfold ChannelPipes.forward
  cases found : pipes.writers[index]? with
  | none => exact piped
  | some writer =>
      simp only
      cases running : writer.finished with
      | true => exact piped
      | false =>
          rw [if_neg Bool.false_ne_true]
          cases waiting : writer.queue with
          | cons message rest =>
              have accepted := piped.writing.accepts sound (List.mem_of_getElem? found) running
                message
              have writing := piped.writing.forwardMessage found running waiting
              rw [running] at writing
              simp only [accepted]
              exact piped.of_client sound writing sameWire rfl
          | nil =>
              simp only
              cases dropped : writer.senderDropped with
              | false => exact piped
              | true =>
                  have writing := piped.writing.endStream found running waiting dropped
                  rw [waiting, dropped] at writing
                  exact piped.of_client sound writing sameWire rfl

/-- The server reads. -/
theorem read (piped : pipes.Piped idSpace arrived) (few : pipes.handedOut ≤ 2 ^ 31)
    (streams : pipes.endpoint.streamHandlers.isEmpty = false) (count handedOut : Nat) :
    ∃ arrivedAfter, (pipes.read count handedOut).Piped idSpace arrivedAfter := by
  have sound := piped.writing.valid.sound few
  let bytes := pipes.client.link.chunk count
  rcases piped.received.deliver sound count with ⟨received, -⟩
  rcases pipes.endpoint.readBytes_traffic pipes.server bytes handedOut with ⟨same, -⟩
  have decoded := (pipes.endpoint.installRouter pipes.server).dispatcher.readBytes_eq bytes
  rw [pipes.endpoint.installRouter_session pipes.server] at decoded
  rw [decoded] at same
  refine ⟨arrived ++ (pipes.server.dispatcher.session.decodeBytes bytes).1, ?_⟩
  constructor
  case writing => exact piped.writing.deliver count
  case received => exact received.of_decoders same.mux same.decoders
  case listening => exact piped.listening.read streams bytes handedOut
  case sinks =>
    intro methodId
    simp only [ChannelPipes.read, foldl_onAction, heard_append]
    exact (piped.sinks methodId).onEvents _

/-- Every step keeps the invariant. -/
theorem step (piped : pipes.Piped idSpace arrived) (few : pipes.handedOut ≤ 2 ^ 31)
    (streams : pipes.endpoint.streamHandlers.isEmpty = false) {step : PipeStep}
    (apart : pipes.Apart step) : ∃ arrivedAfter, (pipes.step step).Piped idSpace arrivedAfter := by
  have sound := piped.writing.valid.sound few
  have sameWire : ∃ more, pipes.client.link.wire = pipes.client.link.wire ++ more :=
    ⟨[], (List.append_nil _).symm⟩
  cases step with
  | openChannel methodId => exact ⟨arrived, piped.openChannel few methodId⟩
  | push index message =>
      exact ⟨arrived, piped.of_client sound (piped.writing.push index message) sameWire rfl⟩
  | dropSender index =>
      exact ⟨arrived, piped.of_client sound (piped.writing.dropSender index) sameWire rfl⟩
  | forward index => exact ⟨arrived, piped.forward few index⟩
  | act step =>
      rcases pipes.client.act_link pipes.handedOut step with ⟨more, wireEq, deliveredEq⟩
      exact ⟨arrived, piped.of_client sound (piped.writing.act rfl apart) ⟨more, wireEq⟩
        deliveredEq⟩
  | hear bytes => exact ⟨arrived, piped.of_client sound (piped.writing.hear bytes) sameWire rfl⟩
  | read count handedOut => exact piped.read few streams count handedOut
  | recv methodId =>
      refine ⟨arrived, piped.writing, piped.received, piped.listening, ?_⟩
      intro other
      simp only [ChannelPipes.step]
      by_cases same : other = methodId
      · rw [same, Function.update_self]
        exact (piped.sinks methodId).recv
      · rw [Function.update_of_ne same]
        exact piped.sinks other

end Piped

/-- A step leaves the endpoint alone and takes no id back. -/
theorem step_same (pipes : ChannelPipes) (step : PipeStep) :
    (pipes.step step).endpoint = pipes.endpoint ∧
      pipes.handedOut ≤ (pipes.step step).handedOut := by
  cases step with
  | openChannel methodId =>
      exact ⟨rfl, (pipes.client.act_handedOut _ _).trans (ConnectionEnd.act_handedOut _ _ _)⟩
  | act step => exact ⟨rfl, pipes.client.act_handedOut _ _⟩
  | forward index =>
      simp only [ChannelPipes.step, forward]
      split
      · exact ⟨rfl, Nat.le_refl _⟩
      · split
        · exact ⟨rfl, Nat.le_refl _⟩
        · split
          · exact ⟨rfl, Nat.le_refl _⟩
          · split <;> exact ⟨rfl, Nat.le_refl _⟩
  | push | dropSender | hear | read | recv => exact ⟨rfl, Nat.le_refl _⟩

theorem run_same (pipes : ChannelPipes) (steps : List PipeStep) :
    (pipes.run steps).endpoint = pipes.endpoint ∧
      pipes.handedOut ≤ (pipes.run steps).handedOut := by
  induction steps generalizing pipes with
  | nil => exact ⟨rfl, Nat.le_refl _⟩
  | cons first rest ih =>
      rcases pipes.step_same first with ⟨sameEndpoint, grows⟩
      rcases ih (pipes.step first) with ⟨sameLater, growsLater⟩
      exact ⟨sameLater.trans sameEndpoint, grows.trans growsLater⟩

/-- Whole runs keep the invariant. -/
theorem Piped.run (piped : pipes.Piped idSpace arrived)
    (streams : pipes.endpoint.streamHandlers.isEmpty = false) {steps : List PipeStep}
    (apart : Along ChannelPipes.step Apart pipes steps)
    (few : (pipes.run steps).handedOut ≤ 2 ^ 31) :
    ∃ arrivedAfter, (pipes.run steps).Piped idSpace arrivedAfter := by
  induction steps generalizing pipes arrived with
  | nil => exact ⟨arrived, piped⟩
  | cons first rest ih =>
      rcases apart with ⟨here, later⟩
      rcases pipes.step_same first with ⟨sameEndpoint, grows⟩
      have fewNow := grows.trans (((pipes.step first).run_same rest).2.trans few)
      rcases piped.step fewNow streams here with ⟨arrivedNext, next⟩
      exact ih next (sameEndpoint ▸ streams) later few

/-! ## What a channel delivers -/

/-- All that has been pushed into a channel has been forwarded, sent and read. -/
structure Drained (pipes : ChannelPipes) (writer : ChannelWriter) : Prop where
  forwarded : writer.queue = []
  sent : ∀ outgoing ∈ pipes.client.link.streams, outgoing.streamId = writer.streamId →
    pipes.client.link.sentOn outgoing.streamId = outgoing.frames
  read : pipes.client.link.inFlight = []

namespace Piped

variable {writer : ChannelWriter}

theorem requestIds_nodup (piped : pipes.Piped idSpace arrived) (few : pipes.handedOut ≤ 2 ^ 31) :
    (pipes.client.link.streams.map fun outgoing => outgoing.header.rpcRequestId).Nodup := by
  have valid := piped.writing.valid
  have distinct := valid.requests.ids_nodup few idSpace
  rw [← valid.request_ids] at distinct
  rw [piped.writing.numbered]
  exact (List.nodup_cons.mp distinct).2

/-- What has arrived of a channel is a part of its stream. -/
theorem ofRequest_writer (piped : pipes.Piped idSpace arrived) (few : pipes.handedOut ≤ 2 ^ 31)
    (member : writer ∈ pipes.writers) :
    ∃ taken, writer.pushed = taken ++ writer.queue ∧
      (writer.finished = true → writer.queue = [] ∧ writer.senderDropped = true) ∧
      ofRequest writer.rpcRequestId arrived <+: forwardedEvents writer.header
        (taken.flatMap (inPieces defaultServiceMaxChunkSize)) writer.finished ∧
      (pipes.Drained writer → ofRequest writer.rpcRequestId arrived =
        forwardedEvents writer.header (taken.flatMap (inPieces defaultServiceMaxChunkSize))
          writer.finished) := by
  have sound := piped.writing.valid.sound few
  have distinct := piped.requestIds_nodup few
  rcases piped.writing.carried writer member with ⟨outgoing, outgoingMem, carried⟩
  rcases carried.forwarded with ⟨taken, forwarded, pushedEq⟩
  have events := forwarded.events
  rw [carried.header, carried.chunkSize] at events
  have ownId : outgoing.header.rpcRequestId = writer.rpcRequestId :=
    congrArg RpcHeader.rpcRequestId carried.header
  refine ⟨taken, pushedEq, carried.leaves, ?_, ?_⟩
  · have part := piped.received.part sound distinct outgoingMem
    rw [events, ownId] at part
    exact part
  · intro drained
    have whole := piped.received.whole sound distinct outgoingMem
      (drained.sent outgoing outgoingMem carried.streamId) drained.read
    rw [events, ownId] at whole
    exact whole

section Exclusive

variable (exclusive : ∀ outgoing ∈ pipes.client.link.streams,
  outgoing.header.rpcMethodId = writer.methodId → outgoing.streamId = writer.streamId)
include exclusive

/-- Only the stream of the channel reaches the handler of a method that it has for
itself. -/
theorem requestId_of_heard (piped : pipes.Piped idSpace arrived)
    (few : pipes.handedOut ≤ 2 ^ 31) (member : writer ∈ pipes.writers)
    {action : Action (EndpointHandler Nat)} (logged : action ∈ pipes.log)
    (hears : (Action.heardBy (.stream writer.methodId) action).isSome = true) :
    action.requestId = some writer.rpcRequestId := by
  have sound := piped.writing.valid.sound few
  rcases piped.writing.carried writer member with ⟨outgoing, outgoingMem, carried⟩
  cases action with
  | routed | caught => contradiction
  | invoked handler event =>
      simp only [Action.heardBy] at hears
      split at hears
      · rename_i isHandler
        subst isHandler
        rcases piped.listening.answers _ logged with ⟨cause, causeMem, sameId⟩
        rcases piped.received.of_mem sound causeMem with ⟨other, -, -, named, -⟩
        have eventId : event.requestId = some other.header.rpcRequestId := sameId.trans named
        rcases piped.listening.method_of_invoked logged eventId with ⟨header, headerMem⟩
        rcases piped.received.of_mem sound headerMem with ⟨source, sourceMem, -, sourceId, -⟩
        have inStream := (piped.received.part sound (piped.requestIds_nodup few) sourceMem).subset
          (List.mem_filter.mpr ⟨headerMem, decide_eq_true sourceId⟩)
        have isOwn : source = outgoing := List.inj_on_of_nodup_map sound.distinct sourceMem
          outgoingMem ((exclusive source sourceMem (Outgoing.method_of_header inStream).symm).trans
            carried.streamId.symm)
        rw [Action.requestId, eventId, show some other.header.rpcRequestId =
          some source.header.rpcRequestId from sourceId, isOwn, carried.header]
        rfl
      · contradiction

variable (registered : pipes.endpoint.streamHandlers.contains writer.methodId = true)
include registered

/-- The handler of such a method has heard what has arrived of the channel. -/
theorem heard_writer (piped : pipes.Piped idSpace arrived) (few : pipes.handedOut ≤ 2 ^ 31)
    (member : writer ∈ pipes.writers) :
    heard (.stream writer.methodId) pipes.log = ofRequest writer.rpcRequestId arrived := by
  rcases piped.ofRequest_writer few member with ⟨taken, -, -, part, -⟩
  have own : ∀ action ∈ pipes.log,
      (Action.heardBy (.stream writer.methodId) action).isSome = true →
        decide (action.requestId = some writer.rpcRequestId) = true :=
    fun action logged hears =>
      decide_eq_true (piped.requestId_of_heard exclusive few member logged hears)
  rw [heard_filter own, piped.listening.actions, slotRun]
  exact heard_part registered (part.trans (forwardedEvents_part _ _ _))

/-- The sink of a channel with a method of its own. -/
theorem delivers (piped : pipes.Piped idSpace arrived) (few : pipes.handedOut ≤ 2 ^ 31)
    (member : writer ∈ pipes.writers) :
    let sink := pipes.sinks writer.methodId
    let pieces := writer.pushed.flatMap (inPieces defaultServiceMaxChunkSize)
    sink.items.Sublist pieces ∧ (sink.senderHeld = false → writer.senderDropped = true) ∧
      (sink.capacity = none → sink.items <+: pieces ∧
        (sink.senderHeld = false → sink.items = pieces) ∧
        (pipes.Drained writer →
          sink.items = pieces ∧ (writer.finished = true → sink.senderHeld = false))) := by
  intro sink pieces
  have holds := piped.sinks writer.methodId
  rw [piped.heard_writer exclusive registered few member] at holds
  rcases piped.ofRequest_writer few member with ⟨taken, pushedEq, leaves, part, whole⟩
  rcases chunks_of_part part with ⟨chunksPart, ending⟩
  have piecesEq : pieces = taken.flatMap (inPieces defaultServiceMaxChunkSize) ++
      writer.queue.flatMap (inPieces defaultServiceMaxChunkSize) := by
    simp only [pieces, pushedEq, List.flatMap_append]
  have all : writer.queue = [] → pieces = taken.flatMap (inPieces defaultServiceMaxChunkSize) := by
    intro empty
    rw [piecesEq, empty]
    exact List.append_nil _
  have inPart : chunksBeforeEnd (ofRequest writer.rpcRequestId arrived) <+: pieces :=
    piecesEq ▸ chunksPart.trans (List.prefix_append _ _)
  have closes : sink.senderHeld = false → writer.finished = true ∧
      chunksBeforeEnd (ofRequest writer.rpcRequestId arrived) = pieces := by
    intro closed
    have terminal : (ofRequest writer.rpcRequestId arrived).any RpcStreamEvent.isTerminal =
        true := by
      simpa using closed.symm.trans holds.held
    rcases ending terminal with ⟨finished, chunksEq⟩
    exact ⟨finished, chunksEq.trans (all (leaves finished).1).symm⟩
  refine ⟨holds.inOrder.trans inPart.sublist, fun closed => (leaves (closes closed).1).2, ?_⟩
  intro unbounded
  have items := holds.all unbounded
  refine ⟨items ▸ inPart, fun closed => items.trans (closes closed).2, fun drained => ?_⟩
  have wholeEvents := whole drained
  rcases chunks_forwardedEvents writer.header (taken.flatMap (inPieces defaultServiceMaxChunkSize))
    writer.finished with ⟨chunksEq, endedEq⟩
  rw [← wholeEvents] at chunksEq endedEq
  constructor
  · exact items.trans (chunksEq.trans (all drained.forwarded).symm)
  · intro finished
    exact holds.held.trans (by rw [endedEq, finished]; rfl)

end Exclusive

end Piped

/-- What is pushed into a channel arrives at the receiver of its method in order and cut only
into chunks of the maximum size, whatever else the client sends and however the frames are
interleaved and the bytes cut into reads.  An unbounded receiver misses nothing before the
channel is closed under it, and that happens only after the sender has been dropped and
everything has been delivered.  A bounded one may have gaps. -/
theorem channels_deliver_in_order (endpoint : RpcServiceEndpoint) (creation : Creation)
    (capacity : UInt64 → Option Nat) (steps : List PipeStep)
    (apart : Along ChannelPipes.step Apart (new endpoint creation capacity) steps)
    (few : ((new endpoint creation capacity).run steps).handedOut ≤ 2 ^ 31)
    (writer : ChannelWriter)
    (opened : writer ∈ ((new endpoint creation capacity).run steps).writers)
    (registered : endpoint.streamHandlers[writer.methodId]? = some channelHandler)
    (exclusive : ∀ outgoing ∈ ((new endpoint creation capacity).run steps).client.link.streams,
      outgoing.header.rpcMethodId = writer.methodId → outgoing.streamId = writer.streamId) :
    let pipes := (new endpoint creation capacity).run steps
    let sink := pipes.sinks writer.methodId
    let pieces := writer.pushed.flatMap (inPieces defaultServiceMaxChunkSize)
    pieces.flatten = writer.pushed.flatten ∧ sink.items.Sublist pieces ∧
      (sink.senderHeld = false → writer.senderDropped = true) ∧
      (sink.capacity = none → sink.items <+: pieces ∧
        (sink.senderHeld = false → sink.items = pieces) ∧
        (pipes.Drained writer →
          sink.items = pieces ∧ (writer.finished = true → sink.senderHeld = false))) := by
  intro pipes sink pieces
  have isRegistered : endpoint.streamHandlers.contains writer.methodId = true := by
    rw [ExtTreeMap.contains_eq_isSome_getElem?, registered]
    rfl
  have streams : endpoint.streamHandlers.isEmpty = false := by
    cases empty : endpoint.streamHandlers.isEmpty with
    | false => rfl
    | true =>
        rw [ExtTreeMap.isEmpty_iff.mp empty, ExtTreeMap.contains_empty] at isRegistered
        contradiction
  rcases (new_piped endpoint creation capacity).run streams apart few with ⟨arrived, piped⟩
  have sameEndpoint : pipes.endpoint = endpoint :=
    ((new endpoint creation capacity).run_same steps).1
  exact ⟨flatMap_inPieces_flatten serviceChunkSize.positive writer.pushed,
    piped.delivers exclusive (sameEndpoint ▸ isRegistered) few opened⟩

/-- A client opens a channel for method 5 beside a call of method 9, pushes two messages, and
drops the sender. -/
def oneChannel : List PipeStep :=
  [.openChannel 5, .act (.call ⟨9, none, none, true⟩ serviceChunkSize none false),
    .push 0 [1, 2, 3], .forward 0, .act (.send 0), .act (.send 3), .read 20 2, .push 0 [4],
    .dropSender 0, .forward 0, .forward 0, .act (.send 3), .act (.send 0), .act (.send 0),
    .act (.send 0), .read 1000 2, .recv 5]

def channelEndpoint : RpcServiceEndpoint :=
  ⟨∅, (∅ : ExtTreeMap UInt64 StreamHandler compare).insert 5 channelHandler, fun _ => []⟩

theorem channels_deliver_in_order_of_one :
    let pipes := (new channelEndpoint separateProcesses fun _ => none).run oneChannel
    let writer : ChannelWriter := ⟨5, 1, 0, [[1, 2, 3], [4]], [], true, true⟩
    writer ∈ pipes.writers ∧ pipes.sinks 5 = ⟨none, [[4]], [[1, 2, 3]], false⟩ ∧
      (pipes.sinks 5).items <+:
        writer.pushed.flatMap (inPieces defaultServiceMaxChunkSize) := by
  intro pipes writer
  have opened : writer ∈ pipes.writers := by decide +kernel
  have exclusive : ∀ outgoing ∈ pipes.client.link.streams,
      outgoing.header.rpcMethodId = 5 → outgoing.streamId = 0 := by decide +kernel
  have sinkEq : pipes.sinks 5 = ⟨none, [[4]], [[1, 2, 3]], false⟩ := by decide +kernel
  have apart : Along ChannelPipes.step Apart (new channelEndpoint separateProcesses fun _ => none)
      oneChannel := by
    simp [oneChannel, Along, Apart]
  have delivered := channels_deliver_in_order channelEndpoint separateProcesses (fun _ => none)
    oneChannel apart (by decide +kernel) writer opened ExtTreeMap.getElem?_insert_self exclusive
  exact ⟨opened, sinkEq, (delivered.2.2.2 (congrArg ChannelSink.capacity sinkEq)).1⟩

end ChannelPipes

end Muxio.Service
