import Muxio.Rpc.Link
import Muxio.Rpc.TerminalEvents
import Muxio.Service.Caller

/-!
# Streamed responses

A streaming handler passes chunks to its responder, some of them perhaps before the
responder has its writer.  Every chunk is flushed by itself, and the first final one
ends the stream.  The caller receives the chunks up to there, whatever the moment at
which the writer was installed and however the bytes are cut into reads.
-/

namespace Muxio.Service

open Std
open Muxio.Framing
open Muxio.Rpc

universe u v

/-! ## What a responder emits -/

/-- The responses up to and including the first final one. -/
def throughFinal : List (List UInt8 × Bool) → List (List UInt8 × Bool)
  | [] => []
  | (chunk, true) :: _ => [(chunk, true)]
  | (chunk, false) :: rest => (chunk, false) :: throughFinal rest

/-- The frames of a streamed response: some responses come before the writer is
installed, the others after. -/
def streamedResponse {K : Type u} (server : RpcDispatcher K) (handedOut : Nat)
    (requestId : UInt32) (before after : List (List UInt8 × Bool)) : List Frame :=
  let waiting := (StreamResponder.new requestId).respondAll before
  let opened := server.createResponseWriter requestId defaultServiceMaxChunkSize handedOut
  let installed := waiting.2.setWriter opened.outcome.encoder
  let later := installed.2.respondAll after
  waiting.1 ++ opened.outcome.frames ++ installed.1 ++ later.1

/-- Several responses through one encoder. -/
def writeResponses : RpcStreamEncoder → List (List UInt8 × Bool) → List Frame × RpcStreamEncoder
  | encoder, [] => ([], encoder)
  | encoder, (chunk, isFinalized) :: rest =>
      let first := RpcDispatcher.writeResponse encoder chunk isFinalized
      let later := writeResponses first.2 rest
      (first.1 ++ later.1, later.2)

/-- The operations of responses that are not final. -/
def respondOps (chunks : List (List UInt8)) : List WriteOp :=
  chunks.flatMap fun chunk => [.writeBytes chunk, .flush]

theorem writeResponses_append (encoder : RpcStreamEncoder)
    (first second : List (List UInt8 × Bool)) :
    writeResponses encoder (first ++ second) =
      ((writeResponses encoder first).1 ++
          (writeResponses (writeResponses encoder first).2 second).1,
        (writeResponses (writeResponses encoder first).2 second).2) := by
  induction first generalizing encoder with
  | nil => rfl
  | cons response rest ih =>
      rw [List.cons_append, writeResponses, ih, writeResponses]
      simp only [List.append_assoc]

namespace StreamResponder

theorem respondAll_waiting {responder : StreamResponder} (without : responder.writer = none)
    (responses : List (List UInt8 × Bool)) :
    responder.respondAll responses =
      ([], { responder with buffer := responder.buffer ++ responses }) := by
  induction responses generalizing responder with
  | nil => rw [respondAll, List.append_nil]
  | cons response rest ih =>
      have kept : responder.respond response.1 response.2 =
          ([], { responder with buffer := responder.buffer ++ [response] }) := by
        rw [respond, without]
      have later := @ih { responder with buffer := responder.buffer ++ [response] } without
      rw [respondAll, kept]
      dsimp only
      rw [later, List.append_assoc]
      rfl

theorem respondAll_writing {responder : StreamResponder} {encoder : RpcStreamEncoder}
    (writes : responder.writer = some encoder) (responses : List (List UInt8 × Bool)) :
    responder.respondAll responses =
      ((writeResponses encoder responses).1,
        { responder with writer := some (writeResponses encoder responses).2 }) := by
  induction responses generalizing responder encoder with
  | nil => rw [respondAll, writeResponses, ← writes]
  | cons response rest ih =>
      have written : responder.respond response.1 response.2 =
          ((RpcDispatcher.writeResponse encoder response.1 response.2).1,
            { responder with
              writer := some (RpcDispatcher.writeResponse encoder response.1 response.2).2 }) := by
        rw [respond, writes]
      rw [respondAll, written, ih rfl]
      rfl

end StreamResponder

/-- The moment at which the writer is installed makes no difference. -/
theorem streamedResponse_eq {K : Type u} (server : RpcDispatcher K) (handedOut : Nat)
    (requestId : UInt32) (before after : List (List UInt8 × Bool)) :
    streamedResponse server handedOut requestId before after =
      let opened := RpcStreamEncoder.new server.streamId defaultServiceMaxChunkSize
        (RpcDispatcher.writerHeader requestId)
      opened.frames ++ (writeResponses opened.encoder (before ++ after)).1 := by
  have waits : (StreamResponder.new requestId).respondAll before =
      ([], ⟨requestId, none, before⟩) := StreamResponder.respondAll_waiting rfl before
  have writes := fun encoder (responses : List (List UInt8 × Bool)) =>
    @StreamResponder.respondAll_writing ⟨requestId, some encoder, []⟩ encoder rfl responses
  unfold streamedResponse
  rw [waits]
  dsimp only [StreamResponder.setWriter]
  rw [writes]
  dsimp only
  rw [writes, writeResponses_append]
  exact List.append_assoc ..

/-! ## The encoder behind it -/

/-- After the end of the stream nothing is written. -/
theorem writeResponses_ended {encoder : RpcStreamEncoder} (ended : encoder.isEnded = true)
    (responses : List (List UInt8 × Bool)) : writeResponses encoder responses = ([], encoder) := by
  obtain ⟨error, fails⟩ := writeError_of_ended ended
  induction responses with
  | nil => rfl
  | cons response rest ih =>
      have refused : RpcDispatcher.writeResponse encoder response.1 response.2 = ([], encoder) := by
        unfold RpcDispatcher.writeResponse
        cases response.2 <;>
          simp [FrameStreamEncoder.writeBytes, FrameStreamEncoder.flush,
            FrameStreamEncoder.endStream, fails]
      rw [writeResponses, refused, ih]
      rfl

/-- The responses up to the first final one are written and flushed one by one, and a
final one ends the stream. -/
theorem writeResponses_eq (streamId : UInt32) {maxChunkSize : Nat} (positive : 0 < maxChunkSize)
    (ops : List WriteOp) (responses : List (List UInt8 × Bool)) :
    let opened := WriteOp.applyAll (FrameStreamEncoder.new streamId maxChunkSize) ops
    let all := ops ++ respondOps ((throughFinal responses).map Prod.fst)
    opened.1 ++ (writeResponses opened.2 responses).1 =
      if responses.any Prod.snd then WriteOp.emitStream streamId maxChunkSize all
      else (WriteOp.applyAll (FrameStreamEncoder.new streamId maxChunkSize) all).1 := by
  induction responses generalizing ops with
  | nil => simp [writeResponses, throughFinal, respondOps]
  | cons response rest ih =>
      obtain ⟨chunk, isFinalized⟩ := response
      have appended := WriteOp.applyAll_append (FrameStreamEncoder.new streamId maxChunkSize) ops
        [.writeBytes chunk, .flush]
      have isOpen := applyAll_new_isOpen streamId positive (ops ++ [.writeBytes chunk, .flush])
      have written : ∀ encoder, RpcDispatcher.writeResponse encoder chunk false =
          WriteOp.applyAll encoder [.writeBytes chunk, .flush] := by
        intro encoder
        exact Prod.ext (congrArg (_ ++ ·) (List.append_nil _).symm) rfl
      have regroup : ∀ chunks, ops ++ respondOps (chunk :: chunks) =
          ops ++ [.writeBytes chunk, .flush] ++ respondOps chunks := fun chunks =>
        (List.append_assoc ..).symm
      cases isFinalized with
      | false =>
          have later := ih (ops ++ [.writeBytes chunk, .flush])
          dsimp only at later
          rw [appended, List.append_assoc] at later
          simp only [writeResponses, written, throughFinal, List.any_cons, Bool.false_or,
            List.map_cons, regroup]
          exact later
      | true =>
          have ends : RpcDispatcher.writeResponse
              (WriteOp.applyAll (FrameStreamEncoder.new streamId maxChunkSize) ops).2 chunk true =
              ((WriteOp.applyAll (WriteOp.applyAll (FrameStreamEncoder.new streamId maxChunkSize)
                  ops).2 [.writeBytes chunk, .flush]).1 ++
                (WriteOp.applyAll (FrameStreamEncoder.new streamId maxChunkSize)
                  (ops ++ [.writeBytes chunk, .flush])).2.endStream.frames,
                (WriteOp.applyAll (FrameStreamEncoder.new streamId maxChunkSize)
                  (ops ++ [.writeBytes chunk, .flush])).2.endStream.encoder) := by
            rw [appended, ← written]
            rfl
          have ended : (WriteOp.applyAll (FrameStreamEncoder.new streamId maxChunkSize)
              (ops ++ [.writeBytes chunk, .flush])).2.endStream.encoder.isEnded = true := by
            rw [FrameStreamEncoder.endStream, isOpen.writeError]
          simp only [writeResponses, ends, writeResponses_ended ended, List.append_nil,
            List.any_cons, Bool.true_or, if_true, throughFinal, List.map_cons, List.map_nil,
            regroup]
          rw [WriteOp.emitStream, respondOps, List.flatMap_nil, List.append_nil,
            ← List.append_assoc, appended]

/-! ## What arrives at the caller -/

theorem written_respondOps (chunks : List (List UInt8)) :
    WriteOp.written (respondOps chunks) = chunks.flatten := by
  induction chunks with
  | nil => rfl
  | cons chunk rest ih =>
      rw [List.flatten_cons, ← ih]
      rfl

/-- After a response nothing is left in the encoder. -/
theorem unflushed_respondOps (pending : Nat) {chunks : List (List UInt8)} (some : chunks ≠ []) :
    WriteOp.unflushed pending (respondOps chunks) = 0 := by
  induction chunks generalizing pending with
  | nil => contradiction
  | cons chunk rest ih =>
      cases rest with
      | nil => rfl
      | cons next later => exact ih 0 (List.cons_ne_nil next later)

theorem throughFinal_ne_nil {responses : List (List UInt8 × Bool)} (some : responses ≠ []) :
    (throughFinal responses).map Prod.fst ≠ [] := by
  cases responses with
  | nil => contradiction
  | cons response rest =>
      obtain ⟨chunk, isFinalized⟩ := response
      cases isFinalized <;> exact List.cons_ne_nil chunk _

theorem fits_emitted {emitted : Emitted} {maxChunkSize : Nat} (bounded : maxChunkSize < 2 ^ 32)
    (short : ∀ payload ∈ emitted.payloads ++ emitted.last.toList, payload.length ≤ maxChunkSize)
    (streamId : UInt32) : Fits (emitted.frames streamId) := by
  intro frame member
  rw [← emitted.frames_payloads streamId] at short
  exact Nat.lt_of_le_of_lt (short frame.payload (List.mem_map_of_mem member)) bounded

/-- The events that responses amount to, given how the chunks arrive. -/
def responseEvents (header : RpcHeader) (responses : List (List UInt8 × Bool))
    (chunks : List (List UInt8)) : List RpcStreamEvent :=
  (if responses = [] then [] else header.headerEvent :: chunks.map header.chunkEvent) ++
    if responses.any Prod.snd then [header.endEvent] else []

section Emitted

variable (streamId : UInt32) {maxChunkSize : Nat} (positive : 0 < maxChunkSize)
  (bounded : maxChunkSize < 2 ^ 32) (header : RpcHeader)
  (responses : List (List UInt8 × Bool))

/-- Everything that is written for responses. -/
def responseOps : List WriteOp :=
  .writeBytes header.toBytes :: respondOps ((throughFinal responses).map Prod.fst)

theorem written_responseOps :
    WriteOp.written (responseOps header responses) =
      header.toBytes ++ ((throughFinal responses).map Prod.fst).flatten :=
  congrArg (header.toBytes ++ ·) (written_respondOps _)

include positive bounded

/-- Responses of which none is final. -/
theorem emitted_unfinished (short : header.toBytes.length < maxChunkSize)
    (unfinished : responses.any Prod.snd = false) :
    ∃ (emitted : Emitted) (later : List UInt8) (chunks : List (List UInt8)),
      (WriteOp.applyAll (FrameStreamEncoder.new streamId maxChunkSize)
          (responseOps header responses)).1 = emitted.frames streamId ∧
      Fits (emitted.frames streamId) ∧
      emitted.bytes ++ later =
        header.toBytes ++ ((throughFinal responses).map Prod.fst).flatten ∧
      (emitted.last.isSome → later = []) ∧
      chunks.flatten = ((throughFinal responses).map Prod.fst).flatten ∧
      header.emittedEvents emitted = responseEvents header responses chunks := by
  obtain ⟨payloads, rest, writtenEq, restLength, bounds, run⟩ :=
    WriteOp.applyAll_eq (FrameStreamEncoder.new_isOpen streamId maxChunkSize) positive
      (responseOps header responses) (show [].length = 0 % maxChunkSize by simp)
  have writtenEq : header.toBytes ++ ((throughFinal responses).map Prod.fst).flatten =
      payloads.flatten ++ rest := (written_responseOps header responses).symm.trans writtenEq
  have fits : Fits ((⟨payloads, none⟩ : Emitted).frames streamId) := by
    apply fits_emitted bounded
    intro payload member
    exact (bounds payload (by simpa using member)).2
  have bytes : (⟨payloads, none⟩ : Emitted).bytes = payloads.flatten := List.append_nil _
  rw [run]
  unfold responseEvents
  rw [unfinished]
  by_cases none_sent : responses = []
  · subst none_sent
    refine ⟨⟨payloads, none⟩, rest, [], rfl, fits, by rw [bytes, ← writtenEq], nofun, rfl, ?_⟩
    have length := congrArg List.length writtenEq
    have waiting : rest.length = header.toBytes.length := by
      rw [restLength]
      exact (congrArg (· % maxChunkSize) (Nat.zero_add _)).trans (Nat.mod_eq_of_lt short)
    have incomplete : pieces header.toBytes.length payloads = none := by
      rw [pieces_eq_none_iff header.toBytes_pos]
      simp only [throughFinal, List.map_nil, List.flatten_nil, List.append_nil,
        List.length_append] at length
      have := header.toBytes_pos
      omega
    simp only [RpcHeader.emittedEvents, RpcHeader.openEvents, incomplete]
    rfl
  · have flushed : rest = [] := by
      rw [← List.length_eq_zero_iff, restLength]
      exact (congrArg (· % maxChunkSize)
        (unflushed_respondOps _ (throughFinal_ne_nil none_sent))).trans (Nat.zero_mod _)
    subst flushed
    rw [List.append_nil] at writtenEq
    obtain ⟨chunks, -, opens, -, flattens⟩ := RpcHeader.openEvents_flushed writtenEq
    refine ⟨⟨payloads, none⟩, [], chunks, rfl, fits, ?_, nofun, flattens, ?_⟩
    · rw [bytes, List.append_nil, writtenEq]
    · rw [if_neg none_sent, if_neg Bool.false_ne_true, List.append_nil]
      exact opens

/-- Responses of which one is final. -/
theorem emitted_final (final : responses.any Prod.snd = true) :
    ∃ (emitted : Emitted) (later : List UInt8) (chunks : List (List UInt8)),
      WriteOp.emitStream streamId maxChunkSize (responseOps header responses) =
        emitted.frames streamId ∧
      Fits (emitted.frames streamId) ∧
      emitted.bytes ++ later =
        header.toBytes ++ ((throughFinal responses).map Prod.fst).flatten ∧
      (emitted.last.isSome → later = []) ∧
      chunks.flatten = ((throughFinal responses).map Prod.fst).flatten ∧
      header.emittedEvents emitted = responseEvents header responses chunks := by
  have some_sent : responses ≠ [] := by
    rintro rfl
    contradiction
  obtain ⟨payloads, last, framesEq, writtenEq, lastLength, bounds⟩ :=
    WriteOp.emitStream_eq streamId positive (responseOps header responses)
  have flushed : last = [] := by
    rw [← List.length_eq_zero_iff, lastLength]
    exact (congrArg (· % maxChunkSize)
      (unflushed_respondOps _ (throughFinal_ne_nil some_sent))).trans (Nat.zero_mod _)
  subst flushed
  rw [written_responseOps, List.append_nil] at writtenEq
  obtain ⟨chunks, -, -, closes, flattens⟩ := RpcHeader.openEvents_flushed writtenEq
  refine ⟨⟨payloads, some []⟩, [], chunks, framesEq, ?_, ?_, fun _ => rfl, flattens, ?_⟩
  · apply fits_emitted bounded
    intro payload member
    rcases List.mem_append.mp member with early | late
    · exact (bounds payload early).2
    · rw [List.mem_singleton.mp late]
      exact Nat.zero_le _
  · simp [Emitted.bytes, writtenEq]
  · rw [responseEvents, final, if_neg some_sent, if_pos rfl]
    exact closes

end Emitted

/-- The frames of a streamed response carry its header and chunks in sequence. -/
theorem streamedResponse_emitted {K : Type u} (server : RpcDispatcher K) (handedOut : Nat)
    (requestId : UInt32) (before after : List (List UInt8 × Bool)) :
    let header := RpcDispatcher.writerHeader requestId
    let data := ((throughFinal (before ++ after)).map Prod.fst).flatten
    ∃ (emitted : Emitted) (later : List UInt8) (chunks : List (List UInt8)),
      streamedResponse server handedOut requestId before after =
        emitted.frames server.streamId ∧
      Fits (emitted.frames server.streamId) ∧
      emitted.bytes ++ later = header.toBytes ++ data ∧
      (emitted.last.isSome → later = []) ∧ chunks.flatten = data ∧
      header.emittedEvents emitted = responseEvents header (before ++ after) chunks := by
  intro header data
  have positive : 0 < defaultServiceMaxChunkSize := by decide
  have bounded : defaultServiceMaxChunkSize < 2 ^ 32 := by decide
  have frames : streamedResponse server handedOut requestId before after = _ :=
    ((streamedResponse_eq server handedOut requestId before after).trans
      (congrArg (· ++ _) (List.append_nil _).symm)).trans
      (writeResponses_eq server.streamId positive [.writeBytes header.toBytes] (before ++ after))
  have short : header.toBytes.length < defaultServiceMaxChunkSize := by
    rw [RpcHeader.toBytes_length]
    exact show rpcFrameFrameHeaderSize + 1 < defaultServiceMaxChunkSize by decide
  rw [frames]
  split
  · rename_i final
    exact emitted_final server.streamId positive bounded header (before ++ after) final
  · rename_i unfinished
    exact emitted_unfinished server.streamId positive bounded header (before ++ after) short
      (Bool.eq_false_iff.mpr unfinished)

/-! ## What the caller hears -/

theorem mem_responseEvents {header : RpcHeader} {responses : List (List UInt8 × Bool)}
    {chunks : List (List UInt8)} {event : RpcStreamEvent}
    (member : event ∈ responseEvents header responses chunks) :
    event.requestId = some header.rpcRequestId := by
  rcases List.mem_append.mp member with front | ending
  · split at front
    · contradiction
    · rcases List.mem_cons.mp front with rfl | chunk
      · rfl
      · obtain ⟨bytes, -, rfl⟩ := List.mem_map.mp chunk
        rfl
  · split at ending
    · rw [List.mem_singleton.mp ending]
      rfl
    · contradiction

/-- A pending call without prebuffering hears its response. -/
theorem heard_response {H : Type u} [DecidableEq H] {caller : RpcDispatcher H} {header : RpcHeader}
    {handler : H}
    (pending : caller.routing.responseHandlers[header.rpcRequestId]? = some handler)
    (plain : caller.routing.prebufferingFlags[header.rpcRequestId]? ≠ some true)
    (unrouted : caller.rpcRespondableSession.streamMethodRouter = none)
    (responses : List (List UInt8 × Bool)) (chunks : List (List UInt8)) :
    heard handler (caller.actionsOf (responseEvents header responses chunks)).2 =
      responseEvents header responses chunks := by
  rw [RpcDispatcher.actionsOf, unrouted,
    Routing.onEvents_slot_only _ _ _ fun event member => mem_responseEvents member]
  rw [responseEvents, Slot.onEvents_plain none _ _ pending plain]
  · exact heard_invoked handler _
  · intro event _
    cases event <;> rfl
  · intro event member
    split at member
    · contradiction
    · rcases List.mem_cons.mp member with rfl | chunk
      · rfl
      · obtain ⟨bytes, -, rfl⟩ := List.mem_map.mp chunk
        rfl
  · split
    · exact Nat.le_refl 1
    · exact Nat.zero_le 1

/-- The state of a response handler on an unbounded channel, after the header of a
successful response and some chunks. -/
theorem foldl_recvFn_chunks (header : RpcHeader)
    (chunks : List (List UInt8)) (items : List StreamItem) (errorBuffer : List UInt8)
    (ready : Option (Except IoError Unit)) :
    (chunks.map header.chunkEvent).foldl ResponseState.recvFn
        ⟨⟨.unbounded, items, true⟩, some .success, errorBuffer, ready⟩ =
      ⟨⟨.unbounded, items ++ chunks.map .ok, true⟩, some .success, errorBuffer, ready⟩ := by
  induction chunks generalizing items with
  | nil => rw [List.map_nil, List.map_nil, List.append_nil, List.foldl_nil]
  | cons chunk rest ih =>
      refine (ih (items ++ [.ok chunk])).trans ?_
      rw [List.append_assoc]
      rfl

/-- What the receiver of a call has after a streamed response. -/
theorem received_response {header : RpcHeader}
    (succeeds : responseStatus header = .success) (responses : List (List UInt8 × Bool))
    {chunks : List (List UInt8)}
    (flattens : chunks.flatten = ((throughFinal responses).map Prod.fst).flatten)
    (state : ResponseState) (fresh : state.channel = DynamicChannel.new .unbounded) :
    let response := (responseEvents header responses chunks).foldl
      ResponseState.recvFn state
    (∃ items : List (List UInt8), response.channel.items = items.map .ok ∧
        items.flatten = ((throughFinal responses).map Prod.fst).flatten) ∧
      (response.channel.senderHeld = false ↔ responses.any Prod.snd = true) := by
  obtain ⟨channel, status, errorBuffer, ready⟩ := state
  dsimp only at fresh
  subst fresh
  by_cases none_sent : responses = []
  · subst none_sent
    exact ⟨⟨[], rfl, rfl⟩, iff_of_false Bool.false_ne_true.symm Bool.false_ne_true⟩
  · have body := foldl_recvFn_chunks header chunks [] errorBuffer
      (some (ready.getD (.ok ())))
    have opened : ResponseState.recvFn
        ⟨DynamicChannel.new .unbounded, status, errorBuffer, ready⟩ header.headerEvent =
        ⟨⟨.unbounded, [], true⟩, some .success, errorBuffer, some (ready.getD (.ok ()))⟩ := by
      rw [← succeeds]
      rfl
    rw [responseEvents, if_neg none_sent, List.cons_append, List.foldl_cons, opened,
      List.foldl_append, body]
    cases final : responses.any Prod.snd with
    | false =>
        exact ⟨⟨chunks, rfl, flattens⟩, iff_of_false Bool.false_ne_true.symm Bool.false_ne_true⟩
    | true => exact ⟨⟨chunks, rfl, flattens⟩, iff_of_true rfl rfl⟩

theorem throughFinal_throughFinal (responses : List (List UInt8 × Bool)) :
    throughFinal (throughFinal responses) = throughFinal responses ∧
      (throughFinal responses).any Prod.snd = responses.any Prod.snd := by
  induction responses with
  | nil => exact ⟨rfl, rfl⟩
  | cons response rest ih =>
      obtain ⟨chunk, isFinalized⟩ := response
      cases isFinalized with
      | true => exact ⟨rfl, rfl⟩
      | false => exact ⟨congrArg (_ :: ·) ih.1, ih.2⟩

/-- Responses after the first final one change nothing. -/
theorem streamedResponse_throughFinal {K : Type u} (server : RpcDispatcher K) (handedOut : Nat)
    (requestId : UInt32) (before after : List (List UInt8 × Bool)) :
    streamedResponse server handedOut requestId before after =
      streamedResponse server handedOut requestId [] (throughFinal (before ++ after)) := by
  have frames := fun before after =>
    ((streamedResponse_eq server handedOut requestId before after).trans
      (congrArg (· ++ _) (List.append_nil _).symm)).trans
      (writeResponses_eq server.streamId (show 0 < defaultServiceMaxChunkSize by decide)
        [.writeBytes (RpcDispatcher.writerHeader requestId).toBytes] (before ++ after))
  obtain ⟨again, final⟩ := throughFinal_throughFinal (before ++ after)
  rw [frames, frames, List.nil_append, again, final]

/-- A streamed response arrives whole and in order.  The call is pending at a caller
without streaming handlers, whose connection is at a frame boundary and has not used
the stream of the response. -/
theorem streamed_response_whole {K : Type v} {H : Type u} [DecidableEq H]
    (server : RpcDispatcher K) (handedOut : Nat)
    (caller : RpcDispatcher H) (requestId : UInt32) (handler : H)
    (pending : caller.routing.responseHandlers[requestId]? = some handler)
    (plain : caller.routing.prebufferingFlags[requestId]? = some false)
    (unrouted : caller.rpcRespondableSession.streamMethodRouter = none)
    (idle : caller.session.frameMuxStreamDecoder.buffer = [])
    (unusedMux : caller.session.frameMuxStreamDecoder.streams[server.streamId]? = none)
    (unusedRpc : caller.session.rpcStreamDecoders[server.streamId]? = none)
    (before after : List (List UInt8 × Bool)) (reads : List (List UInt8))
    (cut : reads.flatten =
      frameBytes (streamedResponse server handedOut requestId before after)) :
    let events := heard handler (caller.readChunks reads).2.2
    let response := events.foldl ResponseState.recvFn
      ((ResponseState.new .unbounded).signalReady (.ok ()))
    (∃ items : List (List UInt8), response.channel.items = items.map .ok ∧
        items.flatten = ((throughFinal (before ++ after)).map Prod.fst).flatten) ∧
      (response.channel.senderHeld = false ↔ (before ++ after).any Prod.snd = true) ∧
      streamedResponse server handedOut requestId before after =
        streamedResponse server handedOut requestId [] (throughFinal (before ++ after)) := by
  intro events response
  obtain ⟨emitted, later, chunks, frames, fits, agrees, allSent, flattens, decoded⟩ :=
    streamedResponse_emitted server handedOut requestId before after
  rw [frames] at cut
  have arrives := RpcSession.decodeChunks_emitted
    (show (RpcDispatcher.writerHeader requestId).Fits from by exact show 1 ≤ 65535 by decide)
    agrees allSent fits idle unusedMux unusedRpc cut
  have hears : events =
      responseEvents (RpcDispatcher.writerHeader requestId) (before ++ after) chunks := by
    unfold events
    rw [(caller.readChunks_eq reads).2, arrives, decoded]
    exact heard_response pending (by rw [RpcDispatcher.writerHeader, plain]; nofun) unrouted _ _
  obtain ⟨items, closes⟩ := received_response
    (show responseStatus (RpcDispatcher.writerHeader requestId) = .success from rfl)
    (before ++ after) flattens ((ResponseState.new .unbounded).signalReady (.ok ())) rfl
  rw [← hears] at items closes
  exact ⟨items, closes, streamedResponse_throughFinal server handedOut requestId before after⟩

/-- A chunk before the writer and two after it, the second of them final. -/
theorem streamed_response_whole_of_three :
    let made : RpcDispatcher Bool × Nat := RpcDispatcher.newWithIdSpace .client 0
    let caller := (made.1.call ⟨7, none, none, true⟩ defaultServiceMaxChunkSize (some true) false
      made.2).dispatcher
    let server : RpcDispatcher Unit × Nat := RpcDispatcher.newWithIdSpace .server 0
    let reads := [frameBytes
      (streamedResponse server.1 server.2 1 [([1], false)]
        [([], false), ([2], true), ([3], false)])]
    let response := (heard true (caller.readChunks reads).2.2).foldl
      ResponseState.recvFn ((ResponseState.new .unbounded).signalReady (.ok ()))
    (∃ items : List (List UInt8), response.channel.items = items.map .ok ∧
        items.flatten = [1, 2]) ∧ response.channel.senderHeld = false := by
  intro made caller server reads
  have cut : reads.flatten = _ := List.flatten_singleton ..
  have pending : caller.routing.responseHandlers[(1 : UInt32)]? = some true := by decide
  have plain : caller.routing.prebufferingFlags[(1 : UInt32)]? = some false := by decide
  have whole := streamed_response_whole server.1 server.2 caller 1 true pending
    plain rfl rfl (by decide) (by decide) _ _ reads cut
  dsimp only at whole ⊢
  exact ⟨whole.1, whole.2.1.mpr rfl⟩

end Muxio.Service
