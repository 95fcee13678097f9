import Muxio.Rpc.Dispatcher
import Muxio.Rpc.Streams

/-!
# Calls through the dispatcher

A finalized call emits one complete RPC stream.  The calls of one dispatcher use
distinct request and stream ids as long as the process has drawn fewer than
`2 ^ 31` ids, so their streams can be mixed freely: a fresh peer gathers exactly
one complete request per call, whatever the order of the frames and the reads.
-/

namespace Muxio.Rpc

open Std
open Muxio.Framing
open Muxio.Transition

universe u v

/-! ## What a call emits -/

/-- What `call` and `respond` write after the header. -/
def payloadOps (payload : Option (List UInt8)) (isFinalized : Bool) : List WriteOp :=
  payload.toList.map WriteOp.writeBytes ++ if isFinalized then [.flush] else []

/-- Operations after an outcome, up to the first error. -/
def continueWith (outcome : EncoderOutcome) (ops : List WriteOp) : EncoderOutcome :=
  ops.foldl (fun outcome op => outcome.andThen fun encoder => op.apply encoder) outcome

/-- Operations on an open encoder all succeed. -/
theorem continueWith_eq {outcome : EncoderOutcome}
    (succeeded : ∃ emitted, outcome.result = .ok emitted)
    (isOpen : outcome.encoder.IsOpen) (positive : 0 < outcome.encoder.maxChunkSize)
    (ops : List WriteOp) :
    (∃ emitted, (continueWith outcome ops).result = .ok emitted) ∧
      (continueWith outcome ops).encoder.IsOpen ∧
      (continueWith outcome ops).encoder = (WriteOp.applyAll outcome.encoder ops).2 ∧
      (continueWith outcome ops).frames =
        outcome.frames ++ (WriteOp.applyAll outcome.encoder ops).1 := by
  induction ops generalizing outcome with
  | nil => exact ⟨succeeded, isOpen, rfl, by simp [continueWith, WriteOp.applyAll]⟩
  | cons op rest ih =>
      rcases succeeded with ⟨emitted, succeeded⟩
      rcases WriteOp.apply_ok isOpen positive op with ⟨opOk, openAfter, sameSize⟩
      have step := EncoderOutcome.andThen_of_ok succeeded fun encoder => op.apply encoder
      have next : continueWith outcome (op :: rest) =
          continueWith { op.apply outcome.encoder with
            frames := outcome.frames ++ (op.apply outcome.encoder).frames } rest := by
        rw [← step]
        rfl
      rw [← sameSize] at positive
      rcases @ih { op.apply outcome.encoder with
        frames := outcome.frames ++ (op.apply outcome.encoder).frames } opOk openAfter positive with
        ⟨restOk, restOpen, restEncoder, restFrames⟩
      rw [next]
      refine ⟨restOk, restOpen, restEncoder, ?_⟩
      rw [restFrames, List.append_assoc]
      rfl

/-- Sending a payload performs its operations in order. -/
theorem sendPayload_eq (opened : EncoderOutcome) (payload : Option (List UInt8))
    (isFinalized : Bool) :
    RpcStreamEncoder.sendPayload opened payload isFinalized =
      if isFinalized then
        (continueWith opened (payloadOps payload true)).andThen FrameStreamEncoder.endStream
      else continueWith opened (payloadOps payload false) := by
  cases payload <;> cases isFinalized <;> rfl

/-- The outcome with which `call` and `respond` start: an encoder with its header
written, its errors replaced. -/
def openedStream (streamId : UInt32) (maxChunkSize : Nat) (header : RpcHeader) : EncoderOutcome :=
  let opened := RpcStreamEncoder.new streamId maxChunkSize header
  { opened with result := opened.result.mapError fun _ => .corruptFrame }

/-- All operations of a message, from the header on. -/
def messageOps (header : RpcHeader) (payload : Option (List UInt8)) (isFinalized : Bool) :
    List WriteOp :=
  .writeBytes header.toBytes :: payloadOps payload isFinalized

theorem continueWith_openedStream (streamId : UInt32) {maxChunkSize : Nat}
    (positive : 0 < maxChunkSize) (header : RpcHeader) (payload : Option (List UInt8))
    (isFinalized : Bool) :
    let ops := messageOps header payload isFinalized
    let sent := continueWith (openedStream streamId maxChunkSize header)
      (payloadOps payload isFinalized)
    (∃ emitted, sent.result = .ok emitted) ∧ sent.encoder.IsOpen ∧
      sent.encoder = (WriteOp.applyAll (FrameStreamEncoder.new streamId maxChunkSize) ops).2 ∧
      sent.frames = (WriteOp.applyAll (FrameStreamEncoder.new streamId maxChunkSize) ops).1 := by
  rcases WriteOp.apply_ok (FrameStreamEncoder.new_isOpen streamId maxChunkSize) positive
    (.writeBytes header.toBytes) with ⟨⟨emitted, headerOk⟩, isOpen, sameSize⟩
  have opened : (RpcStreamEncoder.new streamId maxChunkSize header).result = .ok emitted := headerOk
  have succeeded : (openedStream streamId maxChunkSize header).result = .ok emitted :=
    congrArg (Except.mapError fun _ => FrameEncodeError.corruptFrame) opened
  have size : (openedStream streamId maxChunkSize header).encoder.maxChunkSize = maxChunkSize :=
    sameSize
  rw [← size] at positive
  exact continueWith_eq ⟨emitted, succeeded⟩ isOpen positive (payloadOps payload isFinalized)

/-- A complete message is one closed stream. -/
theorem sendPayload_finalized (streamId : UInt32) {maxChunkSize : Nat}
    (positive : 0 < maxChunkSize) (header : RpcHeader) (payload : Option (List UInt8)) :
    (RpcStreamEncoder.sendPayload (openedStream streamId maxChunkSize header) payload
        true).frames =
      WriteOp.emitStream streamId maxChunkSize (messageOps header payload true) := by
  rcases continueWith_openedStream streamId positive header payload true with
    ⟨⟨emitted, succeeded⟩, -, encoderEq, framesEq⟩
  rw [sendPayload_eq, if_pos rfl, EncoderOutcome.andThen_of_ok succeeded, encoderEq, framesEq]
  rfl

/-- Sending a payload on a new stream succeeds. -/
theorem sendPayload_ok (streamId : UInt32) {maxChunkSize : Nat} (positive : 0 < maxChunkSize)
    (header : RpcHeader) (payload : Option (List UInt8)) (isFinalized : Bool) :
    ∃ emitted, (RpcStreamEncoder.sendPayload (openedStream streamId maxChunkSize header) payload
      isFinalized).result = .ok emitted := by
  rcases continueWith_openedStream streamId positive header payload isFinalized with
    ⟨⟨emitted, succeeded⟩, isOpen, -, -⟩
  rw [sendPayload_eq]
  cases isFinalized with
  | false => exact ⟨emitted, succeeded⟩
  | true =>
      rw [if_pos rfl, EncoderOutcome.andThen_of_ok succeeded, FrameStreamEncoder.endStream,
        isOpen.writeError]
      exact ⟨_, rfl⟩

namespace RpcDispatcher

variable {H : Type u}

/-- The stream id that the next call or response will use. -/
def streamId (dispatcher : RpcDispatcher H) : UInt32 :=
  dispatcher.session.idSpace.place dispatcher.session.nextStreamId

theorem call_outcome (dispatcher : RpcDispatcher H) (rpcRequest : RpcRequest)
    (maxChunkSize : Nat) (onResponse : Option H) (prebufferResponse : Bool) (handedOut : Nat) :
    (dispatcher.call rpcRequest maxChunkSize onResponse prebufferResponse handedOut).outcome =
      RpcStreamEncoder.sendPayload
        (openedStream dispatcher.streamId maxChunkSize (dispatcher.callHeader rpcRequest))
        rpcRequest.rpcPrebufferedPayloadBytes rpcRequest.isFinalized :=
  rfl

theorem respond_outcome (dispatcher : RpcDispatcher H) (rpcResponse : RpcResponse)
    (maxChunkSize handedOut : Nat) :
    (dispatcher.respond rpcResponse maxChunkSize handedOut).outcome =
      RpcStreamEncoder.sendPayload
        (openedStream dispatcher.streamId maxChunkSize (responseHeader rpcResponse))
        rpcResponse.rpcPrebufferedPayloadBytes rpcResponse.isFinalized :=
  rfl

theorem responseHeader_fits (rpcResponse : RpcResponse) : (responseHeader rpcResponse).Fits := by
  unfold responseHeader RpcHeader.Fits
  dsimp only
  split
  · exact show 1 ≤ 65535 by decide
  · exact Nat.zero_le _

/-- The draws that the next request id and the next stream id come from. -/
structure NextDraws (dispatcher : RpcDispatcher H) (requestDraw streamDraw : Nat) : Prop where
  request : dispatcher.nextRpcRequestId = (incrementU32Id requestDraw).1
  stream : dispatcher.session.nextStreamId = (incrementU32Id streamDraw).1
  space : dispatcher.session.idSpace = dispatcher.idSpace

theorem NextDraws.callId {dispatcher : RpcDispatcher H} {requestDraw streamDraw : Nat}
    (draws : NextDraws dispatcher requestDraw streamDraw) :
    dispatcher.callId = dispatcher.idSpace.draw requestDraw := by
  rw [RpcDispatcher.callId, draws.request]
  rfl

theorem NextDraws.streamId {dispatcher : RpcDispatcher H} {requestDraw streamDraw : Nat}
    (draws : NextDraws dispatcher requestDraw streamDraw) :
    dispatcher.streamId = dispatcher.idSpace.draw streamDraw := by
  rw [RpcDispatcher.streamId, draws.stream, draws.space]
  rfl

theorem new_nextDraws (idSpace : IdSpace) (handedOut : Nat) :
    NextDraws (newWithIdSpace idSpace handedOut : RpcDispatcher H × Nat).1 (handedOut + 1)
      handedOut :=
  ⟨rfl, rfl, rfl⟩

theorem NextDraws.call {dispatcher : RpcDispatcher H} {requestDraw streamDraw : Nat}
    (draws : NextDraws dispatcher requestDraw streamDraw) (rpcRequest : RpcRequest)
    (maxChunkSize : Nat) (onResponse : Option H) (prebufferResponse : Bool) (handedOut : Nat) :
    NextDraws
      (dispatcher.call rpcRequest maxChunkSize onResponse prebufferResponse handedOut).dispatcher
      handedOut (handedOut + 1) :=
  ⟨rfl, rfl, draws.space⟩

theorem NextDraws.respond {dispatcher : RpcDispatcher H} {requestDraw streamDraw : Nat}
    (draws : NextDraws dispatcher requestDraw streamDraw) (rpcResponse : RpcResponse)
    (maxChunkSize handedOut : Nat) :
    NextDraws (dispatcher.respond rpcResponse maxChunkSize handedOut).dispatcher requestDraw
      handedOut :=
  ⟨draws.request, rfl, draws.space⟩

theorem NextDraws.readBytes {dispatcher : RpcDispatcher H} {requestDraw streamDraw : Nat}
    (draws : NextDraws dispatcher requestDraw streamDraw) (bytes : List UInt8) :
    NextDraws (dispatcher.readBytes bytes).2.1 requestDraw streamDraw := by
  rw [readBytes_eq]
  exact ⟨draws.request, draws.stream, draws.space⟩

end RpcDispatcher

/-! ## Issuing calls -/

/-- What happens in the caller's process: the dispatcher at hand makes a call,
answers a request or reads bytes, or anyone else draws an id. -/
inductive ProcessStep (H : Type u) where
  | call (rpcRequest : RpcRequest) (maxChunkSize : Nat) (onResponse : Option H)
      (prebufferResponse : Bool)
  | respond (rpcResponse : RpcResponse) (maxChunkSize : Nat)
  | read (bytes : List UInt8)
  | draw

/-- A call that has been made. -/
structure IssuedCall where
  rpcRequestId : UInt32
  streamId : UInt32
  rpcRequest : RpcRequest
  maxChunkSize : Nat
  frames : List Frame

/-- Run the steps of a process; the calls made, and the ids handed out. -/
def issue {H : Type u} : RpcDispatcher H → Nat → List (ProcessStep H) → List IssuedCall × Nat
  | _, handedOut, [] => ([], handedOut)
  | dispatcher, handedOut, .call rpcRequest maxChunkSize onResponse prebufferResponse :: rest =>
      let opened := dispatcher.call rpcRequest maxChunkSize onResponse prebufferResponse handedOut
      let later := issue opened.dispatcher opened.handedOut rest
      (⟨dispatcher.callId, dispatcher.streamId, rpcRequest, maxChunkSize,
          opened.outcome.frames⟩ :: later.1, later.2)
  | dispatcher, handedOut, .respond rpcResponse maxChunkSize :: rest =>
      let opened := dispatcher.respond rpcResponse maxChunkSize handedOut
      issue opened.dispatcher opened.handedOut rest
  | dispatcher, handedOut, .read bytes :: rest =>
      issue (dispatcher.readBytes bytes).2.1 handedOut rest
  | dispatcher, handedOut, .draw :: rest => issue dispatcher (incrementU32Id handedOut).2 rest

/-- Distinct draws, each the next one or drawn between two states of the counter. -/
structure DrawnFrom (next handedOut final : Nat) (draws : List Nat) : Prop where
  nodup : draws.Nodup
  later : ∀ draw ∈ draws, draw = next ∨ handedOut ≤ draw
  early : ∀ draw ∈ draws, draw < final

theorem DrawnFrom.weaken {next next' handedOut handedOut' final : Nat} {draws : List Nat}
    (drawn : DrawnFrom next' handedOut' final draws) (nextLater : next' = next ∨ handedOut ≤ next')
    (grows : handedOut ≤ handedOut') : DrawnFrom next handedOut final draws := by
  refine ⟨drawn.nodup, ?_, drawn.early⟩
  intro draw member
  rcases drawn.later draw member with rfl | later
  · exact nextLater
  · exact Or.inr (grows.trans later)

theorem DrawnFrom.cons {next next' handedOut handedOut' final : Nat} {draws : List Nat}
    (drawn : DrawnFrom next' handedOut' final draws) (nextLater : handedOut ≤ next')
    (grows : handedOut ≤ handedOut') (nextEarly : next < handedOut) (final_le : handedOut ≤ final) :
    DrawnFrom next handedOut final (next :: draws) := by
  have after : ∀ draw ∈ draws, handedOut ≤ draw := by
    intro draw member
    rcases drawn.later draw member with rfl | later
    · exact nextLater
    · exact grows.trans later
  constructor
  · apply List.nodup_cons.mpr
    constructor
    · intro member
      exact absurd (after next member) (Nat.not_le_of_lt nextEarly)
    · exact drawn.nodup
  · intro draw member
    rcases List.mem_cons.mp member with rfl | member
    · exact Or.inl rfl
    · exact Or.inr (after draw member)
  · intro draw member
    rcases List.mem_cons.mp member with rfl | member
    · exact nextEarly.trans_le final_le
    · exact drawn.early draw member

/-- Each call draws its own request id and its own stream id. -/
theorem issue_draws {H : Type u} {dispatcher : RpcDispatcher H} {requestDraw streamDraw : Nat}
    (draws : dispatcher.NextDraws requestDraw streamDraw) {handedOut : Nat}
    (requestEarlier : requestDraw < handedOut) (streamEarlier : streamDraw < handedOut)
    (steps : List (ProcessStep H)) :
    handedOut ≤ (issue dispatcher handedOut steps).2 ∧
      ∃ requestDraws streamDraws : List Nat,
        (issue dispatcher handedOut steps).1.map IssuedCall.rpcRequestId =
          requestDraws.map dispatcher.idSpace.draw ∧
        (issue dispatcher handedOut steps).1.map IssuedCall.streamId =
          streamDraws.map dispatcher.idSpace.draw ∧
        DrawnFrom requestDraw handedOut (issue dispatcher handedOut steps).2 requestDraws ∧
        DrawnFrom streamDraw handedOut (issue dispatcher handedOut steps).2 streamDraws := by
  induction steps generalizing dispatcher requestDraw streamDraw handedOut with
  | nil =>
      exact ⟨le_rfl, [], [], rfl, rfl, ⟨List.nodup_nil, by simp, by simp⟩,
        ⟨List.nodup_nil, by simp, by simp⟩⟩
  | cons step rest ih =>
      cases step with
      | call rpcRequest maxChunkSize onResponse prebufferResponse =>
          rcases ih (draws.call rpcRequest maxChunkSize onResponse prebufferResponse handedOut)
            (show handedOut < handedOut + 2 by omega)
            (show handedOut + 1 < handedOut + 2 by omega) with
            ⟨grows, requestDraws, streamDraws, requestIds, streamIds, requests, streams⟩
          have final : handedOut ≤ _ := (Nat.le_add_right handedOut 2).trans grows
          refine ⟨final, requestDraw :: requestDraws, streamDraw :: streamDraws, ?_, ?_,
            requests.cons le_rfl (Nat.le_add_right handedOut 2) requestEarlier final,
            streams.cons (Nat.le_succ handedOut) (Nat.le_add_right handedOut 2) streamEarlier final⟩
          · rw [List.map_cons, ← draws.callId]
            exact congrArg (List.cons _) requestIds
          · rw [List.map_cons, ← draws.streamId]
            exact congrArg (List.cons _) streamIds
      | respond rpcResponse maxChunkSize =>
          rcases ih (draws.respond rpcResponse maxChunkSize handedOut)
            (Nat.lt_succ_of_lt requestEarlier) (Nat.lt_succ_self handedOut) with
            ⟨grows, requestDraws, streamDraws, requestIds, streamIds, requests, streams⟩
          exact ⟨Nat.le_of_succ_le grows, requestDraws, streamDraws, requestIds, streamIds,
            requests.weaken (Or.inl rfl) (Nat.le_succ handedOut),
            streams.weaken (Or.inr le_rfl) (Nat.le_succ handedOut)⟩
      | read bytes => exact ih (draws.readBytes bytes) requestEarlier streamEarlier
      | draw =>
          rcases ih draws (Nat.lt_succ_of_lt requestEarlier) (Nat.lt_succ_of_lt streamEarlier) with
            ⟨grows, requestDraws, streamDraws, requestIds, streamIds, requests, streams⟩
          exact ⟨Nat.le_of_succ_le grows, requestDraws, streamDraws, requestIds, streamIds,
            requests.weaken (Or.inl rfl) (Nat.le_succ handedOut),
            streams.weaken (Or.inl rfl) (Nat.le_succ handedOut)⟩

/-- Early draws give distinct ids. -/
theorem nodup_map_draw (idSpace : IdSpace) {draws : List Nat} (nodup : draws.Nodup)
    (early : ∀ draw ∈ draws, draw < 2 ^ 31) : (draws.map idSpace.draw).Nodup :=
  List.Nodup.map_on (fun _ firstMem _ secondMem same =>
    (IdSpace.draw_inj (early _ firstMem) (early _ secondMem) same).2) nodup

/-- Counts at which the ids of one kind were drawn: those used so far, and the one
waiting to be used next. -/
structure Drawn (handedOut next : Nat) (used : List Nat) : Prop where
  nodup : (next :: used).Nodup
  early : ∀ draw ∈ next :: used, draw < handedOut

namespace Drawn

variable {handedOut handedOut' next next' : Nat} {used : List Nat}

theorem grow (drawn : Drawn handedOut next used) (grows : handedOut ≤ handedOut') :
    Drawn handedOut' next used :=
  ⟨drawn.nodup, fun draw member => (drawn.early draw member).trans_le grows⟩

/-- The waiting id is used, and a new one is drawn. -/
theorem use (drawn : Drawn handedOut next used) (later : handedOut ≤ next')
    (grows : next' < handedOut') : Drawn handedOut' next' (used ++ [next]) := by
  have rearranged : (used ++ [next]).Perm (next :: used) := List.perm_append_singleton next used
  constructor
  · rw [List.nodup_cons, rearranged.nodup_iff, rearranged.mem_iff]
    exact ⟨fun member => (drawn.early next' member).not_ge later, drawn.nodup⟩
  · intro draw member
    rcases List.mem_cons.mp member with rfl | earlier
    · exact grows
    · exact (drawn.early draw (rearranged.mem_iff.mp earlier)).trans (later.trans_lt grows)

/-- The ids placed at these counts are distinct. -/
theorem ids_nodup (drawn : Drawn handedOut next used) (few : handedOut ≤ 2 ^ 31)
    (idSpace : IdSpace) : ((next :: used).map idSpace.draw).Nodup :=
  nodup_map_draw idSpace drawn.nodup fun draw member => (drawn.early draw member).trans_le few

end Drawn

/-- The calls a new dispatcher makes in the course of a process that has handed
out `start` ids before, and the ids handed out in the end. -/
def issueFrom {H : Type u} (idSpace : IdSpace) (start : Nat) (steps : List (ProcessStep H)) :
    List IssuedCall × Nat :=
  let made := RpcDispatcher.newWithIdSpace idSpace start
  issue made.1 made.2 steps

/-- The calls of one dispatcher use pairwise distinct request ids and pairwise
distinct stream ids while fewer than `2 ^ 31` ids are in use. -/
theorem issueFrom_ids_nodup {H : Type u} (idSpace : IdSpace) (start : Nat)
    (steps : List (ProcessStep H)) (few : (issueFrom idSpace start steps).2 < 2 ^ 31) :
    ((issueFrom idSpace start steps).1.map IssuedCall.rpcRequestId).Nodup ∧
      ((issueFrom idSpace start steps).1.map IssuedCall.streamId).Nodup := by
  rcases issue_draws (RpcDispatcher.new_nextDraws idSpace start)
    (show start + 1 < start + 2 by omega) (show start < start + 2 by omega) steps with
    ⟨-, requestDraws, streamDraws, requestIds, streamIds, requests, streams⟩
  constructor
  · exact requestIds ▸ nodup_map_draw _ requests.nodup
      fun draw member => (requests.early draw member).trans few
  · exact streamIds ▸ nodup_map_draw _ streams.nodup
      fun draw member => (streams.early draw member).trans few

/-! ## What a peer gathers from a call -/

namespace IssuedCall

/-- The header that announces the call. -/
def header (call : IssuedCall) : RpcHeader where
  rpcMsgType := .call
  rpcRequestId := call.rpcRequestId
  rpcMethodId := call.rpcRequest.rpcMethodId
  rpcMetadataBytes := call.rpcRequest.rpcParamBytes.getD []

/-- The call as a finalized request at the peer: parameters and payload are
absent where the caller sent none. -/
def received (call : IssuedCall) : RpcRequest where
  rpcMethodId := call.rpcRequest.rpcMethodId
  rpcParamBytes :=
    if (call.rpcRequest.rpcParamBytes.getD []).isEmpty then none
    else some (call.rpcRequest.rpcParamBytes.getD [])
  rpcPrebufferedPayloadBytes :=
    if (call.rpcRequest.rpcPrebufferedPayloadBytes.getD []).isEmpty then none
    else some (call.rpcRequest.rpcPrebufferedPayloadBytes.getD [])
  isFinalized := true

/-- A call whose whole message has been emitted, within the limits of the
format. -/
structure Complete (call : IssuedCall) : Prop where
  positive : 0 < call.maxChunkSize
  bounded : call.maxChunkSize < 2 ^ 32
  fits : call.header.Fits
  few : call.frames.length < 2 ^ 32
  emitted : call.frames = WriteOp.emitStream call.streamId call.maxChunkSize
    (messageOps call.header call.rpcRequest.rpcPrebufferedPayloadBytes true)

/-- The message of a complete call. -/
def script (call : IssuedCall) (complete : call.Complete) : RpcScript where
  streamId := call.streamId
  maxChunkSize := call.maxChunkSize
  header := call.header
  ops := payloadOps call.rpcRequest.rpcPrebufferedPayloadBytes true
  positive := complete.positive
  bounded := complete.bounded
  fits := complete.fits
  few := by
    have few := complete.few
    rw [complete.emitted] at few
    exact few

theorem script_frames (call : IssuedCall) (complete : call.Complete) :
    (call.script complete).frames = call.frames := by
  rw [RpcScript.frames_eq_toStreamScript, complete.emitted]
  rfl

end IssuedCall

theorem payloadOps_written (payload : Option (List UInt8)) (isFinalized : Bool) :
    WriteOp.written (payloadOps payload isFinalized) = payload.getD [] := by
  cases payload <;> cases isFinalized <;> simp [payloadOps, WriteOp.written, WriteOp.data]

theorem payloadOps_flushed (pending : Nat) (payload : Option (List UInt8)) :
    WriteOp.unflushed pending (payloadOps payload true) = 0 := by
  cases payload <;> rfl

/-- What the catch-all makes of the payload chunks of the last request. -/
theorem RequestQueue.foldl_chunks (header : RpcHeader) (request : RpcRequest)
    (chunks : List (List UInt8)) :
    (chunks.map header.chunkEvent).foldl onEvent [(header.rpcRequestId, request)] =
      [(header.rpcRequestId,
        { request with
          rpcPrebufferedPayloadBytes :=
            if chunks = [] then request.rpcPrebufferedPayloadBytes
            else some (request.rpcPrebufferedPayloadBytes.getD [] ++ chunks.flatten) })] := by
  induction chunks generalizing request with
  | nil => rfl
  | cons chunk rest ih =>
      have step : onEvent [(header.rpcRequestId, request)] (header.chunkEvent chunk) =
          [(header.rpcRequestId,
            { request with
              rpcPrebufferedPayloadBytes :=
                some (request.rpcPrebufferedPayloadBytes.getD [] ++ chunk) })] := by
        simp [onEvent, RpcHeader.chunkEvent, update]
      rw [List.map_cons, List.foldl_cons, step, ih]
      cases rest <;> simp

/-- The catch-all makes one finalized request out of a complete message. -/
theorem RequestQueue.foldl_message (header : RpcHeader) {chunks : List (List UInt8)}
    (nonempty : ∀ chunk ∈ chunks, chunk ≠ []) :
    (header.streamEvents chunks).foldl onEvent [] =
      [(header.rpcRequestId,
        ⟨header.rpcMethodId,
          if header.rpcMetadataBytes.isEmpty then none else some header.rpcMetadataBytes,
          if chunks.flatten.isEmpty then none else some chunks.flatten, true⟩)] := by
  have opened : onEvent [] header.headerEvent =
      [(header.rpcRequestId,
        ⟨header.rpcMethodId,
          if header.rpcMetadataBytes.isEmpty then none else some header.rpcMetadataBytes, none,
          false⟩)] := rfl
  have payload : (if chunks = [] then none else some ([] ++ chunks.flatten)) =
      if chunks.flatten.isEmpty then none else some chunks.flatten := by
    cases chunks with
    | nil => rfl
    | cons chunk rest =>
        have first := nonempty chunk (List.mem_cons_self ..)
        simp [first]
  rw [RpcHeader.streamEvents, List.cons_append, List.foldl_cons, List.foldl_append, opened,
    foldl_chunks]
  simp only [Option.getD_none, payload]
  simp [onEvent, RpcHeader.endEvent, update]

/-- The request a peer gathers from the message of a call. -/
theorem IssuedCall.gathered {call : IssuedCall} (complete : call.Complete) :
    (call.script complete).events.foldl RequestQueue.onEvent [] =
      [(call.rpcRequestId, call.received)] := by
  have flushed : WriteOp.unflushed (call.script complete).header.toBytes.length
      (call.script complete).ops % (call.script complete).maxChunkSize = 0 := by
    rw [IssuedCall.script, payloadOps_flushed, Nat.zero_mod]
  rcases RpcScript.events_of_flushed flushed with ⟨chunks, eventsEq, writtenEq, nonempty⟩
  have payload : chunks.flatten = call.rpcRequest.rpcPrebufferedPayloadBytes.getD [] := by
    rw [writtenEq, IssuedCall.script, payloadOps_written]
  rw [eventsEq, RequestQueue.foldl_message _ nonempty, payload]
  rfl

/-- A session without handlers passes every event that the router leaves alone to the
catch-all. -/
theorem Routing.new_onEvents {H : Type u} {router : Option (StreamMethodRouter H)}
    {events : List RpcStreamEvent}
    (unrouted : ∀ event ∈ events,
      (Routing.new : Routing H).route router event = (Routing.new, [])) :
    (Routing.new : Routing H).onEvents router true events =
      (Routing.new, events.map .caught) := by
  have step : ∀ event ∈ events, (Routing.new : Routing H).onEvent router true event =
      (Routing.new, [.caught event]) := by
    intro event member
    have settled : ∀ rpcId, (Routing.new : Routing H).settle true rpcId event =
        (Routing.new, [.caught event]) := by
      intro rpcId
      simp [Routing.settle, Routing.deliver, Routing.isPrebuffering, Routing.invoke, Routing.new,
        Routing.forget]
    simp only [Routing.onEvent, unrouted event member]
    cases event.requestId with
    | none => rfl
    | some rpcId => simp only [settled, List.nil_append]
  induction events with
  | nil => rfl
  | cons event rest ih =>
      have later := ih (fun other member => unrouted other (List.mem_cons_of_mem _ member))
        fun other member => step other (List.mem_cons_of_mem _ member)
      simp only [Routing.onEvents, step event List.mem_cons_self, later, List.map_cons,
        List.singleton_append]

/-! ## Calls under arbitrary reordering -/

/-- A step whose call, if it is one, is finalized and within the limits of the
format. -/
def ProcessStep.Valid {H : Type u} : ProcessStep H → Prop
  | call rpcRequest maxChunkSize _ _ =>
      rpcRequest.isFinalized = true ∧ (rpcRequest.rpcParamBytes.getD []).length ≤ 65535 ∧
        0 < maxChunkSize ∧ maxChunkSize < 2 ^ 32
  | _ => True

theorem issue_complete {H : Type u} {dispatcher : RpcDispatcher H} {handedOut : Nat}
    {steps : List (ProcessStep H)} (valid : ∀ step ∈ steps, step.Valid)
    (few : ∀ call ∈ (issue dispatcher handedOut steps).1, call.frames.length < 2 ^ 32) :
    ∀ call ∈ (issue dispatcher handedOut steps).1, call.Complete := by
  induction steps generalizing dispatcher handedOut with
  | nil => simp [issue]
  | cons step rest ih =>
      have restValid : ∀ step ∈ rest, step.Valid := fun step member =>
        valid step (List.mem_cons_of_mem _ member)
      cases step with
      | call rpcRequest maxChunkSize onResponse prebufferResponse =>
          rcases valid _ (List.mem_cons_self ..) with ⟨finalized, fits, positive, bounded⟩
          intro call member
          have callFew := few call member
          rcases List.mem_cons.mp member with rfl | later
          · refine ⟨positive, bounded, fits, callFew, ?_⟩
            rw [RpcDispatcher.call_outcome, finalized]
            exact sendPayload_finalized _ positive _ _
          · exact ih restValid (fun call member => few call (List.mem_cons_of_mem _ member))
              call later
      | respond => exact ih restValid few
      | read => exact ih restValid few
      | draw => exact ih restValid few

/-- The catch-all gathers one request per complete call from any interleaving of
their events. -/
theorem queue_perm_of_interleaving {calls : List IssuedCall}
    (complete : ∀ call ∈ calls, call.Complete)
    (distinctIds : (calls.map IssuedCall.rpcRequestId).Nodup)
    {events : List RpcStreamEvent}
    (perCall : ∀ call (member : call ∈ calls), (events.filter fun event =>
      event.requestId = some call.rpcRequestId) = (call.script (complete call member)).events)
    (noOther : ∀ rpcRequestId ∉ calls.map IssuedCall.rpcRequestId,
      (events.filter fun event => event.requestId = some rpcRequestId) = []) :
    (events.foldl RequestQueue.onEvent []).Perm
      (calls.map fun call => (call.rpcRequestId, call.received)) := by
  apply perm_of_filter_eq Prod.fst
  intro rpcRequestId
  have gathered := RequestQueue.foldl_onEvent_ofRequest [] events rpcRequestId
  rw [RequestQueue.ofRequest, RequestQueue.ofRequest_nil] at gathered
  rw [gathered, List.map_eq_flatMap]
  by_cases used : rpcRequestId ∈ calls.map IssuedCall.rpcRequestId
  · rcases List.mem_map.mp used with ⟨call, member, rfl⟩
    rw [perCall call member, IssuedCall.gathered,
      filter_flatMap_eq Prod.fst (by simp) distinctIds member]
  · rw [noOther rpcRequestId used, filter_flatMap_absent Prod.fst (by simp) used]
    rfl

/-- Reads of a fresh dispatcher without a router: the queue gathers all events. -/
theorem RpcDispatcher.new_readChunks {P : Type u} {idSpace : IdSpace} {start : Nat}
    {chunks : List (List UInt8)} {events : List RpcStreamEvent} {session : RpcSession}
    (decoded : (newWithIdSpace idSpace start : RpcDispatcher P × Nat).1.session.decodeChunks
        chunks = (events, List.replicate chunks.length (.ok ()), session)) :
    let read := (newWithIdSpace idSpace start : RpcDispatcher P × Nat).1.readChunks chunks
    (∀ result ∈ read.1, ∃ ids, result = .ok ids) ∧
      read.2.1.rpcRequestQueue = events.foldl RequestQueue.onEvent [] ∧
      read.2.1.session = session := by
  intro read
  rcases readChunks_eq (newWithIdSpace idSpace start : RpcDispatcher P × Nat).1 chunks with
    ⟨results, final⟩
  rw [decoded] at results final
  have actions : (newWithIdSpace idSpace start : RpcDispatcher P × Nat).1.actionsOf events =
      (Routing.new, events.map .caught) :=
    Routing.new_onEvents fun event _ => by cases event <;> rfl
  refine ⟨?_, ?_, ?_⟩
  · intro result member
    have mapped := List.mem_map_of_mem (f := Except.map fun _ => ()) member
    rw [results, List.mem_replicate] at mapped
    cases result with
    | error error => cases mapped.2
    | ok ids => exact ⟨ids, rfl⟩
  · rw [final]
    simp only [afterEvents, actions, RequestQueue.replay_caught]
    rfl
  · rw [final]
    rfl

/-- A fresh peer without a router gathers exactly one finalized request per call
of one dispatcher, for every permutation of the emitted frames and all ways of
cutting the bytes into reads, and keeps no stream state. -/
theorem calls_gathered_once {H P : Type u} (idSpace peerSpace : IdSpace) (start peerStart : Nat)
    (steps : List (ProcessStep H)) (valid : ∀ step ∈ steps, step.Valid)
    (fewIds : (issueFrom idSpace start steps).2 < 2 ^ 31)
    (fewFrames : ∀ call ∈ (issueFrom idSpace start steps).1, call.frames.length < 2 ^ 32)
    {arrivals : List Frame}
    (perm : arrivals.Perm ((issueFrom idSpace start steps).1.flatMap IssuedCall.frames))
    {chunks : List (List UInt8)} (cut : chunks.flatten = frameBytes arrivals) :
    let calls := (issueFrom idSpace start steps).1
    let peer : RpcDispatcher P := (RpcDispatcher.newWithIdSpace peerSpace peerStart).1
    let read := peer.readChunks chunks
    (∀ result ∈ read.1, ∃ ids, result = .ok ids) ∧
      read.2.1.rpcRequestQueue.Perm (calls.map fun call => (call.rpcRequestId, call.received)) ∧
      (calls.map IssuedCall.rpcRequestId).Nodup ∧
      read.2.1.session.frameMuxStreamDecoder.streams = ∅ ∧
      read.2.1.session.rpcStreamDecoders = ∅ := by
  intro calls peer read
  have complete : ∀ call ∈ calls, call.Complete := issue_complete valid fewFrames
  rcases issueFrom_ids_nodup idSpace start steps fewIds with ⟨requestIds, streamIds⟩
  let scripts := calls.pmap IssuedCall.script complete
  have scriptFrames : scripts.flatMap RpcScript.frames = calls.flatMap IssuedCall.frames := by
    simp [scripts, List.flatMap, List.map_pmap, IssuedCall.script_frames]
  have scriptStreams : scripts.map RpcScript.streamId = calls.map IssuedCall.streamId := by
    simp [scripts, List.map_pmap, IssuedCall.script]
  have scriptIds : (scripts.map fun script => script.header.rpcRequestId) =
      calls.map IssuedCall.rpcRequestId := by
    simp [scripts, List.map_pmap, IssuedCall.script, IssuedCall.header]
  rcases RpcScript.decodeChunks_perm (scriptStreams ▸ streamIds) (scriptFrames ▸ perm) cut
    (show peer.session.frameMuxStreamDecoder = FrameMuxStreamDecoder.new from rfl) rfl with
    ⟨tagged, decoded, perScript, tags⟩
  rcases RpcScript.filter_requestId perScript tags (scriptIds ▸ requestIds) with
    ⟨perId, noOther⟩
  rcases RpcDispatcher.new_readChunks decoded with ⟨allOk, queueEq, sessionEq⟩
  have gathered := queue_perm_of_interleaving complete requestIds
    (fun call member => perId _ (List.mem_pmap.mpr ⟨call, member, rfl⟩)) (scriptIds ▸ noOther)
  refine ⟨allOk, queueEq ▸ gathered, requestIds, ?_, ?_⟩
  · exact congrArg (fun session => session.frameMuxStreamDecoder.streams) sessionEq
  · exact congrArg RpcSession.rpcStreamDecoders sessionEq

/-- Two calls with an id drawn in between, all frames in reverse, in two reads. -/
theorem calls_gathered_once_reversed :
    let steps : List (ProcessStep Unit) :=
      [.call ⟨1, some [7, 8], none, true⟩ 5 none false, .draw,
        .call ⟨2, none, some [9], true⟩ 64 (some ()) true]
    let arrivals := ((issueFrom .client 0 steps).1.flatMap IssuedCall.frames).reverse
    let peer : RpcDispatcher Unit := (RpcDispatcher.newWithIdSpace .server 0).1
    let read := peer.readChunks [(frameBytes arrivals).take 3, (frameBytes arrivals).drop 3]
    (∀ result ∈ read.1, ∃ ids, result = .ok ids) ∧
      read.2.1.rpcRequestQueue.Perm
        [(1, ⟨1, some [7, 8], none, true⟩), (2, ⟨2, none, some [9], true⟩)] ∧
      read.2.1.session.frameMuxStreamDecoder.streams = ∅ ∧
      read.2.1.session.rpcStreamDecoders = ∅ := by
  intro steps arrivals
  have gathered := calls_gathered_once .client .server 0 0 steps (P := Unit)
    (by simp [steps, ProcessStep.Valid]) (by decide) (by decide)
    (List.reverse_perm _)
    (show [(frameBytes arrivals).take 3, (frameBytes arrivals).drop 3].flatten =
      frameBytes arrivals by simp)
  have entries : ((issueFrom .client 0 steps).1.map fun call =>
      (call.rpcRequestId, call.received)) =
      [(1, ⟨1, some [7, 8], none, true⟩), (2, ⟨2, none, some [9], true⟩)] := by decide
  simp only [entries] at gathered ⊢
  exact ⟨gathered.1, gathered.2.1, gathered.2.2.2⟩

end Muxio.Rpc
