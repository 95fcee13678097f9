import Muxio.Rpc.Calls
import Muxio.Framing.EncoderContract

/-!
# Chunk sizes and writes that return

The chunking loop of `write_bytes` cuts `max_chunk_size` bytes off its buffer as
long as the buffer has that many.  Nothing checks that `max_chunk_size` is
positive: neither the encoder, nor the stream encoder that writes the header of a
message, nor `call` and `respond`, which hand it down from their caller.

The operations that write are therefore modelled a second time, with a budget
for the iterations of the loop.  They are `none` when the budget runs out, so
that an operation returns exactly if it is defined for some budget.
-/

namespace Muxio.Framing

open Muxio.Transition

/-- Continue with an operation that may not return, unless an error has occurred. -/
def EncoderOutcome.andThenWithin (outcome : EncoderOutcome)
    (next : FrameStreamEncoder → Option EncoderOutcome) : Option EncoderOutcome :=
  match outcome.result with
  | .error _ => some outcome
  | .ok _ => (next outcome.encoder).map fun second =>
      { second with frames := outcome.frames ++ second.frames }

namespace FrameStreamEncoder

/-- `write_bytes` with a budget for the iterations of its loop. -/
def writeBytesWithin (fuel : Nat) (encoder : FrameStreamEncoder) (data : List UInt8) :
    Option EncoderOutcome :=
  match encoder.writeError with
  | some error => some ⟨.error error, [], encoder⟩
  | none =>
      (drainWithin (writeChunk encoder.maxChunkSize) fuel
        { encoder with buffer := encoder.buffer ++ data }).map fun loop =>
          ⟨.ok (emittedBytes loop.1), loop.1, loop.2⟩

/-- With a positive chunk size as many iterations as there are bytes are enough, and the write
is the one of the unbudgeted model. -/
theorem writeBytesWithin_eq {encoder : FrameStreamEncoder} (positive : 0 < encoder.maxChunkSize)
    {data : List UInt8} {fuel : Nat} (covers : (encoder.buffer ++ data).length ≤ fuel) :
    encoder.writeBytesWithin fuel data = some (encoder.writeBytes data) := by
  cases closed : encoder.writeError with
  | some error => simp only [writeBytesWithin, writeBytes, closed]
  | none =>
      let fed := { encoder with buffer := encoder.buffer ++ data }
      have left : drainWithin (writeChunk encoder.maxChunkSize) fuel fed =
          some (exhaust (writeChunk encoder.maxChunkSize) (fun state => state.buffer.length) fed) :=
        drainWithin_of_decreasing (writeChunk_decreasing positive) covers
      simp only [writeBytesWithin, writeBytes, closed, fed, left, Option.map_some]

/-- Every buffer has at least zero bytes, so the loop never declines. -/
theorem writeChunk_zero (encoder : FrameStreamEncoder) : writeChunk 0 encoder ≠ none := by
  simp [writeChunk]

theorem writeBytesWithin_zero {encoder : FrameStreamEncoder} (isOpen : encoder.IsOpen)
    (zero : encoder.maxChunkSize = 0) (fuel : Nat) (data : List UInt8) :
    encoder.writeBytesWithin fuel data = none := by
  simp only [writeBytesWithin, isOpen.writeError, zero, drainWithin_of_runs writeChunk_zero,
    Option.map_none]

/-- Each iteration of that loop emits a frame, without a byte of the buffer in it.  The sequence
id wraps around, as it does in a build without overflow checks. -/
theorem drain_writeChunk_zero (fuel : Nat) (encoder : FrameStreamEncoder) :
    (drain (writeChunk 0) fuel encoder).1 =
      framesFrom encoder.streamId encoder.nextSeqId encoder.nextKind (List.replicate fuel []) := by
  induction fuel generalizing encoder with
  | zero => rfl
  | succ fuel ih =>
      have runs : writeChunk 0 encoder =
          some ([⟨encoder.streamId, encoder.nextSeqId, encoder.nextKind, []⟩],
            { encoder with nextSeqId := encoder.nextSeqId + 1, nextKind := .data }) := by
        simp [writeChunk]
      rw [drain_succ_of_some runs, ih]
      rfl

theorem writeChunk_maxChunkSize {maxChunkSize : Nat} {encoder next : FrameStreamEncoder}
    {out : List Frame} (runs : writeChunk maxChunkSize encoder = some (out, next)) :
    next.maxChunkSize = encoder.maxChunkSize := by
  unfold writeChunk at runs
  split at runs
  · obtain ⟨-, rfl⟩ := Prod.mk.inj (Option.some.inj runs)
    rfl
  · contradiction

theorem writeBytesWithin_maxChunkSize {encoder : FrameStreamEncoder} {fuel : Nat}
    {data : List UInt8} {outcome : EncoderOutcome}
    (returned : encoder.writeBytesWithin fuel data = some outcome) :
    outcome.encoder.maxChunkSize = encoder.maxChunkSize := by
  cases closed : encoder.writeError with
  | some error =>
      simp only [writeBytesWithin, closed, Option.some.injEq] at returned
      rw [← returned]
  | none =>
      simp only [writeBytesWithin, closed] at returned
      obtain ⟨loop, left, rfl⟩ := Option.map_eq_some_iff.mp returned
      have kept : ∀ ⦃state out next⦄, writeChunk encoder.maxChunkSize state = some (out, next) →
          state.maxChunkSize = encoder.maxChunkSize →
          next.maxChunkSize = encoder.maxChunkSize :=
        fun _ _ _ runs same => (writeChunk_maxChunkSize runs).trans same
      have start : { encoder with buffer := encoder.buffer ++ data }.maxChunkSize =
          encoder.maxChunkSize := rfl
      exact drainWithin_invariant kept start left

/-- A closed encoder refuses the write before the loop. -/
theorem writeBytesWithin_closed {encoder : FrameStreamEncoder}
    (closed : encoder.isCanceled = true ∨ encoder.isEnded = true) (fuel : Nat)
    (data : List UInt8) :
    ∃ error, encoder.writeBytesWithin fuel data = some ⟨.error error, [], encoder⟩ := by
  cases refused : encoder.writeError with
  | some error => exact ⟨error, by simp only [writeBytesWithin, refused]⟩
  | none =>
      rcases closed with canceled | ended
      · rw [writeError, if_pos canceled] at refused
        contradiction
      · rw [writeError, if_pos ended] at refused
        split at refused <;> contradiction

/-- A write returns unless the chunk size is zero and the encoder is still open. -/
theorem writeBytesWithin_returns_iff {encoder : FrameStreamEncoder} {data : List UInt8} :
    (∃ fuel, (encoder.writeBytesWithin fuel data).isSome) ↔
      0 < encoder.maxChunkSize ∨ encoder.isCanceled = true ∨ encoder.isEnded = true := by
  constructor
  · rintro ⟨fuel, returned⟩
    by_contra stuck
    push Not at stuck
    obtain ⟨notPositive, notCanceled, notEnded⟩ := stuck
    have isOpen : encoder.IsOpen := ⟨by simpa using notCanceled, by simpa using notEnded⟩
    rw [writeBytesWithin_zero isOpen (Nat.le_zero.mp notPositive)] at returned
    contradiction
  · rintro (positive | closed)
    · exact ⟨_, by rw [writeBytesWithin_eq positive le_rfl, Option.isSome_some]⟩
    · obtain ⟨error, refused⟩ := writeBytesWithin_closed closed 0 data
      exact ⟨0, by rw [refused, Option.isSome_some]⟩

end FrameStreamEncoder

namespace EncoderOp

/-- An operation with a budget; only `write_bytes` has a loop. -/
def applyWithin (fuel : Nat) (encoder : FrameStreamEncoder) : EncoderOp → Option EncoderOutcome
  | writeBytes data => encoder.writeBytesWithin fuel data
  | flush => some encoder.flush
  | endStream => some encoder.endStream
  | cancelStream => some encoder.cancelStream

/-- No operation changes the chunk size. -/
theorem applyWithin_maxChunkSize {encoder : FrameStreamEncoder} {fuel : Nat} {op : EncoderOp}
    {outcome : EncoderOutcome} (returned : op.applyWithin fuel encoder = some outcome) :
    outcome.encoder.maxChunkSize = encoder.maxChunkSize := by
  cases op with
  | writeBytes data => exact FrameStreamEncoder.writeBytesWithin_maxChunkSize returned
  | flush =>
      rw [← Option.some.inj returned, FrameStreamEncoder.flush]
      split
      · rfl
      · split <;> rfl
  | endStream =>
      rw [← Option.some.inj returned, FrameStreamEncoder.endStream]
      split <;> rfl
  | cancelStream =>
      rw [← Option.some.inj returned, FrameStreamEncoder.cancelStream]
      split <;> rfl

end EncoderOp

theorem EncoderOutcome.andThenWithin_eq {outcome : EncoderOutcome} {op : EncoderOp} {fuel : Nat}
    (returns : op.applyWithin fuel outcome.encoder = some (op.apply outcome.encoder)) :
    (outcome.andThenWithin fun encoder => op.applyWithin fuel encoder) =
      some (outcome.andThen fun encoder => op.apply encoder) := by
  cases result : outcome.result with
  | error error => simp only [andThenWithin, andThen, result]
  | ok emitted => simp only [andThenWithin, andThen, result, returns, Option.map_some]

theorem EncoderOutcome.andThenWithin_maxChunkSize {outcome after : EncoderOutcome} {fuel : Nat}
    {op : EncoderOp}
    (returned : outcome.andThenWithin (fun encoder => op.applyWithin fuel encoder) = some after) :
    after.encoder.maxChunkSize = outcome.encoder.maxChunkSize := by
  cases result : outcome.result with
  | error error =>
      simp only [andThenWithin, result, Option.some.injEq] at returned
      rw [returned]
  | ok emitted =>
      simp only [andThenWithin, result] at returned
      obtain ⟨second, opReturned, rfl⟩ := Option.map_eq_some_iff.mp returned
      have size := EncoderOp.applyWithin_maxChunkSize opReturned
      exact size

end Muxio.Framing

namespace Muxio.Rpc

open Muxio.Framing
open Muxio.Transition

universe u

/-! ## Messages -/

namespace RpcStreamEncoder

/-- `RpcStreamEncoder::new`, which writes the header, with a budget. -/
def newWithin (fuel : Nat) (streamId : UInt32) (maxChunkSize : Nat) (header : RpcHeader) :
    Option EncoderOutcome :=
  (FrameStreamEncoder.new streamId maxChunkSize).writeBytesWithin fuel header.toBytes

/-- Write the payload of a message, if there is one. -/
def writePayloadWithin (fuel : Nat) (opened : EncoderOutcome) :
    Option (List UInt8) → Option EncoderOutcome
  | some bytes => opened.andThenWithin fun encoder =>
      (EncoderOp.writeBytes bytes).applyWithin fuel encoder
  | none => some opened

/-- What `call` and `respond` do with a new encoder, with a budget for the write. -/
def sendPayloadWithin (fuel : Nat) (opened : EncoderOutcome) (payload : Option (List UInt8))
    (isFinalized : Bool) : Option EncoderOutcome := do
  let written ← writePayloadWithin fuel opened payload
  if isFinalized then
    let flushed ← written.andThenWithin fun encoder => EncoderOp.flush.applyWithin fuel encoder
    flushed.andThenWithin fun encoder => EncoderOp.endStream.applyWithin fuel encoder
  else
    some written

theorem sendPayloadWithin_eq {opened : EncoderOutcome}
    (positive : 0 < opened.encoder.maxChunkSize) {payload : Option (List UInt8)} {fuel : Nat}
    (covers : (opened.encoder.buffer ++ payload.getD []).length ≤ fuel) (isFinalized : Bool) :
    sendPayloadWithin fuel opened payload isFinalized =
      some (sendPayload opened payload isFinalized) := by
  have written : writePayloadWithin fuel opened payload =
      some (sendPayload opened payload false) := by
    cases payload with
    | none => rfl
    | some bytes =>
        have returns : (EncoderOp.writeBytes bytes).applyWithin fuel opened.encoder =
            some ((EncoderOp.writeBytes bytes).apply opened.encoder) :=
          FrameStreamEncoder.writeBytesWithin_eq positive covers
        exact EncoderOutcome.andThenWithin_eq returns
  rw [sendPayloadWithin, written]
  cases isFinalized with
  | false => rfl
  | true =>
      rw [Option.bind_eq_bind, Option.bind_some, if_pos rfl, EncoderOutcome.andThenWithin_eq rfl,
        Option.bind_some, EncoderOutcome.andThenWithin_eq rfl]
      rfl

theorem sendPayloadWithin_maxChunkSize {opened outcome : EncoderOutcome} {fuel : Nat}
    {payload : Option (List UInt8)} {isFinalized : Bool}
    (returned : sendPayloadWithin fuel opened payload isFinalized = some outcome) :
    outcome.encoder.maxChunkSize = opened.encoder.maxChunkSize := by
  obtain ⟨written, wrote, closes⟩ := Option.bind_eq_some_iff.mp returned
  have writtenSize : written.encoder.maxChunkSize = opened.encoder.maxChunkSize := by
    cases payload with
    | none => rw [Option.some.inj wrote]
    | some bytes => exact EncoderOutcome.andThenWithin_maxChunkSize wrote
  rw [← writtenSize]
  cases isFinalized with
  | false => rw [Option.some.inj closes]
  | true =>
      obtain ⟨flushed, flushes, ends⟩ := Option.bind_eq_some_iff.mp closes
      rw [EncoderOutcome.andThenWithin_maxChunkSize ends,
        EncoderOutcome.andThenWithin_maxChunkSize flushes]

/-- A message from its header on: a new encoder, its errors replaced, and the payload. -/
def sendMessageWithin (fuel : Nat) (streamId : UInt32) (maxChunkSize : Nat) (header : RpcHeader)
    (payload : Option (List UInt8)) (isFinalized : Bool) : Option EncoderOutcome := do
  let opened ← newWithin fuel streamId maxChunkSize header
  sendPayloadWithin fuel
    { opened with result := opened.result.mapError fun _ => .corruptFrame } payload isFinalized

section Message

variable {streamId : UInt32} {maxChunkSize : Nat} {header : RpcHeader}
  {payload : Option (List UInt8)} {isFinalized : Bool}

/-- With a positive chunk size a message is sent, as the unbudgeted model sends it. -/
theorem exists_sendMessageWithin_eq (positive : 0 < maxChunkSize) :
    ∃ fuel, sendMessageWithin fuel streamId maxChunkSize header payload isFinalized =
      some (sendPayload (openedStream streamId maxChunkSize header) payload isFinalized) := by
  let opened := openedStream streamId maxChunkSize header
  let fuel := header.toBytes.length + (opened.encoder.buffer ++ payload.getD []).length
  have headerCovers : ([] ++ header.toBytes).length ≤ fuel := Nat.le_add_right _ _
  have payloadCovers : (opened.encoder.buffer ++ payload.getD []).length ≤ fuel :=
    Nat.le_add_left _ _
  have isNew := FrameStreamEncoder.new_isOpen streamId maxChunkSize
  have size : opened.encoder.maxChunkSize = maxChunkSize :=
    (WriteOp.apply_ok isNew positive (.writeBytes header.toBytes)).2.2
  have started : newWithin fuel streamId maxChunkSize header =
      some (new streamId maxChunkSize header) :=
    FrameStreamEncoder.writeBytesWithin_eq positive headerCovers
  apply Exists.intro fuel
  rw [← size] at positive
  rw [sendMessageWithin, started]
  exact sendPayloadWithin_eq positive payloadCovers isFinalized

/-- With chunk size zero the header is never written. -/
theorem sendMessageWithin_zero (fuel : Nat) :
    sendMessageWithin fuel streamId 0 header payload isFinalized = none := by
  have stuck : newWithin fuel streamId 0 header = none :=
    FrameStreamEncoder.writeBytesWithin_zero (FrameStreamEncoder.new_isOpen streamId 0) rfl fuel _
  rw [sendMessageWithin, stuck]
  rfl

theorem sendMessageWithin_returns_iff :
    (∃ fuel, (sendMessageWithin fuel streamId maxChunkSize header payload isFinalized).isSome) ↔
      0 < maxChunkSize := by
  constructor
  · rintro ⟨fuel, returned⟩
    by_contra notPositive
    rw [Nat.eq_zero_of_not_pos notPositive, sendMessageWithin_zero] at returned
    contradiction
  · intro positive
    obtain ⟨fuel, returns⟩ := exists_sendMessageWithin_eq positive
    exact ⟨fuel, by rw [returns, Option.isSome_some]⟩

theorem sendMessageWithin_maxChunkSize {fuel : Nat} {outcome : EncoderOutcome}
    (returned : sendMessageWithin fuel streamId maxChunkSize header payload isFinalized =
      some outcome) : outcome.encoder.maxChunkSize = maxChunkSize := by
  unfold sendMessageWithin at returned
  obtain ⟨opened, started, sent⟩ := Option.bind_eq_some_iff.mp returned
  rw [sendPayloadWithin_maxChunkSize sent]
  exact FrameStreamEncoder.writeBytesWithin_maxChunkSize started

end Message

end RpcStreamEncoder

namespace RpcDispatcher

variable {H : Type u}

/-- `call` with a budget; only what it sends can keep it from returning. -/
def callWithin (fuel : Nat) (dispatcher : RpcDispatcher H) (rpcRequest : RpcRequest)
    (maxChunkSize : Nat) (onResponse : Option H) (prebufferResponse : Bool) (handedOut : Nat) :
    Option (Opened H) :=
  (RpcStreamEncoder.sendMessageWithin fuel dispatcher.streamId maxChunkSize
    (dispatcher.callHeader rpcRequest) rpcRequest.rpcPrebufferedPayloadBytes
    rpcRequest.isFinalized).map fun outcome =>
      { dispatcher.call rpcRequest maxChunkSize onResponse prebufferResponse handedOut with
        outcome := outcome }

/-- `respond` with a budget. -/
def respondWithin (fuel : Nat) (dispatcher : RpcDispatcher H) (rpcResponse : RpcResponse)
    (maxChunkSize handedOut : Nat) : Option (Opened H) :=
  (RpcStreamEncoder.sendMessageWithin fuel dispatcher.streamId maxChunkSize
    (responseHeader rpcResponse) rpcResponse.rpcPrebufferedPayloadBytes
    rpcResponse.isFinalized).map fun outcome =>
      { dispatcher.respond rpcResponse maxChunkSize handedOut with outcome := outcome }

end RpcDispatcher

/-! ## The encoders of a program -/

/-- The encoders with a given chunk size that a program can hold: new ones, those that `call` and
`respond` have returned, and what an operation that has returned leaves behind. -/
inductive ReachableEncoder (H : Type u) (maxChunkSize : Nat) : FrameStreamEncoder → Prop where
  | new (streamId : UInt32) :
      ReachableEncoder H maxChunkSize (FrameStreamEncoder.new streamId maxChunkSize)
  | call {fuel : Nat} {dispatcher : RpcDispatcher H} {rpcRequest : RpcRequest}
      {onResponse : Option H} {prebufferResponse : Bool} {handedOut : Nat} {opened : Opened H}
      (returned : dispatcher.callWithin fuel rpcRequest maxChunkSize onResponse prebufferResponse
        handedOut = some opened) :
      ReachableEncoder H maxChunkSize opened.outcome.encoder
  | respond {fuel : Nat} {dispatcher : RpcDispatcher H} {rpcResponse : RpcResponse}
      {handedOut : Nat} {opened : Opened H}
      (returned : dispatcher.respondWithin fuel rpcResponse maxChunkSize handedOut =
        some opened) :
      ReachableEncoder H maxChunkSize opened.outcome.encoder
  | op {fuel : Nat} {encoder : FrameStreamEncoder} {op : EncoderOp} {outcome : EncoderOutcome}
      (before : ReachableEncoder H maxChunkSize encoder)
      (returned : op.applyWithin fuel encoder = some outcome) :
      ReachableEncoder H maxChunkSize outcome.encoder

theorem ReachableEncoder.maxChunkSize_eq {H : Type u} {maxChunkSize : Nat}
    {encoder : FrameStreamEncoder} (reachable : ReachableEncoder H maxChunkSize encoder) :
    encoder.maxChunkSize = maxChunkSize := by
  induction reachable with
  | new streamId => rfl
  | call returned =>
      obtain ⟨outcome, sent, rfl⟩ := Option.map_eq_some_iff.mp returned
      exact RpcStreamEncoder.sendMessageWithin_maxChunkSize sent
  | respond returned =>
      obtain ⟨outcome, sent, rfl⟩ := Option.map_eq_some_iff.mp returned
      exact RpcStreamEncoder.sendMessageWithin_maxChunkSize sent
  | op before returned ih => rw [EncoderOp.applyWithin_maxChunkSize returned, ih]

/-- Writes to an encoder return unless its chunk size is zero and it is still open; calls and
responses return unless the chunk size is zero. -/
theorem write_returns_iff {H : Type u} {maxChunkSize : Nat} {encoder : FrameStreamEncoder}
    (reachable : ReachableEncoder H maxChunkSize encoder) (data : List UInt8)
    (dispatcher : RpcDispatcher H) (rpcRequest : RpcRequest) (rpcResponse : RpcResponse)
    (onResponse : Option H) (prebufferResponse : Bool) (handedOut : Nat) :
    ((∃ fuel, (encoder.writeBytesWithin fuel data).isSome) ↔
      0 < maxChunkSize ∨ encoder.isCanceled = true ∨ encoder.isEnded = true) ∧
    ((∃ fuel, (dispatcher.callWithin fuel rpcRequest maxChunkSize onResponse prebufferResponse
      handedOut).isSome) ↔ 0 < maxChunkSize) ∧
    ((∃ fuel, (dispatcher.respondWithin fuel rpcResponse maxChunkSize handedOut).isSome) ↔
      0 < maxChunkSize) := by
  refine ⟨?_, ?_, ?_⟩
  · rw [← reachable.maxChunkSize_eq]
    exact FrameStreamEncoder.writeBytesWithin_returns_iff
  · simp only [RpcDispatcher.callWithin, Option.isSome_map]
    exact RpcStreamEncoder.sendMessageWithin_returns_iff
  · simp only [RpcDispatcher.respondWithin, Option.isSome_map]
    exact RpcStreamEncoder.sendMessageWithin_returns_iff

/-- A stream that was opened with chunks of four bytes and then canceled: the next write returns,
and so do a call and a response with that chunk size. -/
theorem write_returns_iff_canceled :
    let canceled := (FrameStreamEncoder.new 1 4).cancelStream.encoder
    let request : RpcRequest := ⟨7, some [1], some [2, 3], true⟩
    let response : RpcResponse := ⟨1, 7, some 0, some [4], true⟩
    let dispatcher : RpcDispatcher Unit := (RpcDispatcher.new 0).1
    (∃ fuel, (canceled.writeBytesWithin fuel [5, 6]).isSome) ∧
      (∃ fuel, (dispatcher.callWithin fuel request 4 none false 2).isSome) ∧
      ∃ fuel, (dispatcher.respondWithin fuel response 4 2).isSome := by
  intro canceled request response dispatcher
  have cancels : EncoderOp.cancelStream.applyWithin 0 (FrameStreamEncoder.new 1 4) =
      some (FrameStreamEncoder.new 1 4).cancelStream := rfl
  have reachable : ReachableEncoder Unit 4 canceled := .op (.new 1) cancels
  obtain ⟨write, call, respond⟩ :=
    write_returns_iff reachable [5, 6] dispatcher request response none false 2
  exact ⟨write.mpr (.inl (by decide)), call.mpr (by decide), respond.mpr (by decide)⟩

/-- With chunk size zero nothing returns: one byte written to a new encoder becomes an endless
sequence of empty frames, and a call does not get past its header. -/
theorem zero_chunk_size_never_returns :
    let dispatcher : RpcDispatcher Unit := (RpcDispatcher.new 0).1
    ReachableEncoder Unit 0 (FrameStreamEncoder.new 1 0) ∧
      (∀ fuel, (FrameStreamEncoder.new 1 0).writeBytesWithin fuel [5] = none) ∧
      (∀ iterations, (drain (FrameStreamEncoder.writeChunk 0) iterations
        { FrameStreamEncoder.new 1 0 with buffer := [5] }).1 =
          framesFrom 1 0 .open (List.replicate iterations [])) ∧
      ∀ fuel, (dispatcher.callWithin fuel ⟨7, some [1], some [2, 3], true⟩ 0 none false
        2).isNone := by
  intro dispatcher
  refine ⟨.new 1, ?_, ?_, ?_⟩
  · intro fuel
    exact FrameStreamEncoder.writeBytesWithin_zero (FrameStreamEncoder.new_isOpen 1 0) rfl fuel [5]
  · intro iterations
    rw [FrameStreamEncoder.drain_writeChunk_zero]
    rfl
  · intro fuel
    rw [RpcDispatcher.callWithin, RpcStreamEncoder.sendMessageWithin_zero]
    rfl

end Muxio.Rpc
