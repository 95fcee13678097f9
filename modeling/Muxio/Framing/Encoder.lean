import Muxio.Framing.Codec
import Muxio.Transition.Drain

/-!
# The stream encoder

`FrameStreamEncoder` cuts the bytes written to one logical stream into frames.
Its `on_emit` callback receives the encoding of each frame in order; here every
operation returns those frames, together with its result and the encoder it
leaves behind.

Whatever the mix of writes and flushes, the frames carry consecutive sequence
ids, and their payloads followed by the bytes still buffered are exactly the
bytes written.  The emitted frames are therefore described by the list of their
payloads alone.
-/

namespace Muxio.Framing

open Muxio.Transition

/-- Encoder of one logical stream. -/
structure FrameStreamEncoder where
  streamId : UInt32
  maxChunkSize : Nat
  nextSeqId : UInt32
  nextKind : FrameKind
  buffer : List UInt8
  isCanceled : Bool
  isEnded : Bool
  deriving DecidableEq, Repr

/-- What an operation on an encoder returns, emits and leaves behind. -/
structure EncoderOutcome where
  result : Except FrameEncodeError Nat
  frames : List Frame
  encoder : FrameStreamEncoder

/-- Continue with another operation unless an error has occurred. -/
def EncoderOutcome.andThen (outcome : EncoderOutcome)
    (next : FrameStreamEncoder → EncoderOutcome) : EncoderOutcome :=
  match outcome.result with
  | .error _ => outcome
  | .ok _ =>
      let second := next outcome.encoder
      { second with frames := outcome.frames ++ second.frames }

namespace FrameStreamEncoder

def new (streamId : UInt32) (maxChunkSize : Nat) : FrameStreamEncoder where
  streamId := streamId
  maxChunkSize := maxChunkSize
  nextSeqId := 0
  nextKind := .open
  buffer := []
  isCanceled := false
  isEnded := false

/-- The guard every operation, and every emission, starts with. -/
def writeError (encoder : FrameStreamEncoder) : Option FrameEncodeError :=
  if encoder.isCanceled then some .writeAfterCancel
  else if encoder.isEnded then some .writeAfterEnd
  else none

/-- Number of bytes handed to `on_emit` for a list of frames. -/
def emittedBytes (frames : List Frame) : Nat :=
  (frames.map fun frame => (FrameCodec.encode frame).length).sum

/-- One iteration of the chunking loop of `write_bytes`.  The guard of
`emit_frame` has already been passed when the loop starts. -/
def writeChunk (maxChunkSize : Nat) : LoopBody FrameStreamEncoder Frame := fun encoder =>
  if maxChunkSize ≤ encoder.buffer.length then
    let chunk := encoder.buffer.take maxChunkSize
    some ([⟨encoder.streamId, encoder.nextSeqId, encoder.nextKind, chunk⟩],
      { encoder with
        buffer := encoder.buffer.drop maxChunkSize
        nextSeqId := encoder.nextSeqId + 1
        nextKind := .data })
  else
    none

/-- Accept bytes and emit every full chunk.  The loop is exhausted for every
positive `maxChunkSize`; for `maxChunkSize = 0` the loop of the source never
leaves, and this function stops after as many iterations as there are bytes. -/
def writeBytes (encoder : FrameStreamEncoder) (data : List UInt8) : EncoderOutcome :=
  match encoder.writeError with
  | some error => ⟨.error error, [], encoder⟩
  | none =>
      let loop := exhaust (writeChunk encoder.maxChunkSize) (fun state => state.buffer.length)
        { encoder with buffer := encoder.buffer ++ data }
      ⟨.ok (emittedBytes loop.1), loop.1, loop.2⟩

/-- Emit the buffered bytes, if there are any, as one frame. -/
def flush (encoder : FrameStreamEncoder) : EncoderOutcome :=
  match encoder.writeError with
  | some error => ⟨.error error, [], encoder⟩
  | none =>
      if encoder.buffer.isEmpty then
        ⟨.ok 0, [], encoder⟩
      else
        let frame : Frame :=
          ⟨encoder.streamId, encoder.nextSeqId, encoder.nextKind, encoder.buffer⟩
        ⟨.ok (emittedBytes [frame]), [frame],
          { encoder with
            buffer := []
            nextSeqId := encoder.nextSeqId + 1
            nextKind := .data }⟩

/-- Emit the end frame, which carries whatever is still buffered. -/
def endStream (encoder : FrameStreamEncoder) : EncoderOutcome :=
  match encoder.writeError with
  | some error => ⟨.error error, [], encoder⟩
  | none =>
      let frame : Frame := ⟨encoder.streamId, encoder.nextSeqId, .end, encoder.buffer⟩
      ⟨.ok (emittedBytes [frame]), [frame], { encoder with buffer := [], isEnded := true }⟩

/-- Emit a cancel frame; the buffered bytes stay where they are. -/
def cancelStream (encoder : FrameStreamEncoder) : EncoderOutcome :=
  match encoder.writeError with
  | some error => ⟨.error error, [], encoder⟩
  | none =>
      let frame : Frame := ⟨encoder.streamId, encoder.nextSeqId, .cancel, []⟩
      ⟨.ok (emittedBytes [frame]), [frame], { encoder with isCanceled := true }⟩

end FrameStreamEncoder

/-- The operations that do not close a stream. -/
inductive WriteOp where
  | writeBytes (data : List UInt8)
  | flush
  deriving DecidableEq, Repr

namespace WriteOp

/-- Perform one operation. -/
def apply (encoder : FrameStreamEncoder) : WriteOp → EncoderOutcome
  | writeBytes data => encoder.writeBytes data
  | flush => encoder.flush

/-- The bytes an operation hands to the encoder. -/
def data : WriteOp → List UInt8
  | writeBytes data => data
  | flush => []

/-- Perform operations in order, collecting the emitted frames. -/
def applyAll : FrameStreamEncoder → List WriteOp → List Frame × FrameStreamEncoder
  | encoder, [] => ([], encoder)
  | encoder, op :: rest =>
      let first := op.apply encoder
      let second := applyAll first.encoder rest
      (first.frames ++ second.1, second.2)

/-- All bytes written by a sequence of operations. -/
def written (ops : List WriteOp) : List UInt8 := ops.flatMap data

/-- Number of bytes written since the last flush, when `pending` bytes were
outstanding at the start. -/
def unflushed : Nat → List WriteOp → Nat
  | pending, [] => pending
  | pending, writeBytes data :: rest => unflushed (pending + data.length) rest
  | _, flush :: rest => unflushed 0 rest

end WriteOp

/-! ## Frames described by their payloads -/

/-- Frames with the given payloads and consecutive sequence ids; only the first
one may be of another kind than `data`. -/
def framesFrom (streamId : UInt32) : UInt32 → FrameKind → List (List UInt8) → List Frame
  | _, _, [] => []
  | seqId, kind, payload :: rest =>
      ⟨streamId, seqId, kind, payload⟩ :: framesFrom streamId (seqId + 1) .data rest

/-- The kind of the frame that follows a list of payloads. -/
def kindAfter (kind : FrameKind) : List (List UInt8) → FrameKind
  | [] => kind
  | _ :: _ => .data

/-- The encoder after emitting the given payloads, with `rest` buffered. -/
def FrameStreamEncoder.advance (encoder : FrameStreamEncoder) (payloads : List (List UInt8))
    (rest : List UInt8) : FrameStreamEncoder :=
  { encoder with
    buffer := rest
    nextSeqId := encoder.nextSeqId + UInt32.ofNat payloads.length
    nextKind := kindAfter encoder.nextKind payloads }

theorem framesFrom_append (streamId seqId : UInt32) (kind : FrameKind)
    (first second : List (List UInt8)) :
    framesFrom streamId seqId kind (first ++ second) =
      framesFrom streamId seqId kind first ++
        framesFrom streamId (seqId + UInt32.ofNat first.length) (kindAfter kind first) second := by
  induction first generalizing seqId kind with
  | nil => simp [framesFrom, kindAfter]
  | cons payload rest ih =>
      have shifted : seqId + 1 + UInt32.ofNat rest.length =
          seqId + UInt32.ofNat (rest.length + 1) := by
        rw [UInt32.ofNat_add, add_assoc, add_comm (UInt32.ofNat rest.length)]
        rfl
      cases rest with
      | nil => simp [framesFrom, kindAfter]
      | cons next others =>
          simp only [List.cons_append, framesFrom, List.length_cons] at ih shifted ⊢
          rw [ih, shifted]
          rfl

@[simp]
theorem kindAfter_append (kind : FrameKind) (first second : List (List UInt8)) :
    kindAfter kind (first ++ second) = kindAfter (kindAfter kind first) second := by
  cases first with
  | nil => rfl
  | cons payload rest => cases second <;> rfl

@[simp]
theorem FrameStreamEncoder.advance_nil (encoder : FrameStreamEncoder) :
    encoder.advance [] encoder.buffer = encoder := by
  simp [FrameStreamEncoder.advance, kindAfter]

theorem FrameStreamEncoder.advance_advance (encoder : FrameStreamEncoder)
    (first second : List (List UInt8)) (middle rest : List UInt8) :
    (encoder.advance first middle).advance second rest =
      encoder.advance (first ++ second) rest := by
  simp [FrameStreamEncoder.advance, UInt32.ofNat_add, add_assoc]

@[simp]
theorem framesFrom_length (streamId seqId : UInt32) (kind : FrameKind)
    (payloads : List (List UInt8)) :
    (framesFrom streamId seqId kind payloads).length = payloads.length := by
  induction payloads generalizing seqId kind with
  | nil => rfl
  | cons payload rest ih => simp [framesFrom, ih]

theorem framesFrom_payloads (streamId seqId : UInt32) (kind : FrameKind)
    (payloads : List (List UInt8)) :
    (framesFrom streamId seqId kind payloads).map Frame.payload = payloads := by
  induction payloads generalizing seqId kind with
  | nil => rfl
  | cons payload rest ih => simp [framesFrom, ih]

theorem getElem?_framesFrom (streamId seqId : UInt32) (kind : FrameKind)
    (payloads : List (List UInt8)) (i : Nat) :
    (framesFrom streamId seqId kind payloads)[i]? =
      payloads[i]?.map fun payload =>
        ⟨streamId, seqId + UInt32.ofNat i, if i = 0 then kind else .data, payload⟩ := by
  induction payloads generalizing seqId kind i with
  | nil => rfl
  | cons payload rest ih =>
      cases i with
      | zero => simp [framesFrom]
      | succ i =>
          have shifted : seqId + 1 + UInt32.ofNat i = seqId + UInt32.ofNat (i + 1) := by
            rw [UInt32.ofNat_add, add_assoc, add_comm (UInt32.ofNat i)]
            rfl
          simp [framesFrom, ih, shifted]

/-- Frames that are not the last of their stream are open or data frames. -/
theorem mem_framesFrom {streamId seqId : UInt32} {payloads : List (List UInt8)} {frame : Frame}
    (member : frame ∈ framesFrom streamId seqId .open payloads) :
    frame.kind ≠ .end ∧ frame.kind ≠ .cancel := by
  obtain ⟨i, position⟩ := List.mem_iff_getElem?.mp member
  rw [getElem?_framesFrom] at position
  obtain ⟨payload, -, rfl⟩ := Option.map_eq_some_iff.mp position
  by_cases first : i = 0
  · simp [first]
  · simp [first]

/-! ## What an open encoder emits -/

namespace FrameStreamEncoder

/-- An encoder that has emitted neither an end nor a cancel frame. -/
def IsOpen (encoder : FrameStreamEncoder) : Prop :=
  encoder.isCanceled = false ∧ encoder.isEnded = false

theorem IsOpen.writeError {encoder : FrameStreamEncoder} (isOpen : encoder.IsOpen) :
    encoder.writeError = none := by
  simp [FrameStreamEncoder.writeError, isOpen.1, isOpen.2]

theorem IsOpen.advance {encoder : FrameStreamEncoder} (isOpen : encoder.IsOpen)
    (payloads : List (List UInt8)) (rest : List UInt8) : (encoder.advance payloads rest).IsOpen :=
  isOpen

theorem new_isOpen (streamId : UInt32) (maxChunkSize : Nat) :
    (new streamId maxChunkSize).IsOpen :=
  ⟨rfl, rfl⟩

theorem writeChunk_decreasing {maxChunkSize : Nat} (positive : 0 < maxChunkSize) :
    Decreasing (writeChunk maxChunkSize) fun encoder => encoder.buffer.length := by
  intro encoder out next runs
  unfold writeChunk at runs
  split at runs
  · rename_i full
    simp only [Option.some.injEq, Prod.mk.injEq] at runs
    rw [← runs.2]
    simp only [List.length_drop]
    omega
  · contradiction

/-- The chunking loop cuts the buffer into full chunks and keeps the remainder. -/
theorem exhaust_writeChunk {maxChunkSize : Nat} (positive : 0 < maxChunkSize)
    (encoder : FrameStreamEncoder) :
    ∃ payloads rest, encoder.buffer = payloads.flatten ++ rest ∧
      rest.length = encoder.buffer.length % maxChunkSize ∧
      (∀ payload ∈ payloads, payload.length = maxChunkSize) ∧
      exhaust (writeChunk maxChunkSize) (fun state => state.buffer.length) encoder =
        (framesFrom encoder.streamId encoder.nextSeqId encoder.nextKind payloads,
          encoder.advance payloads rest) := by
  induction encoder using exhaust_induction (writeChunk_decreasing positive) with
  | declined encoder declines =>
      have short : encoder.buffer.length < maxChunkSize := by
        by_contra full
        simp [writeChunk, Nat.le_of_not_lt full] at declines
      refine ⟨[], encoder.buffer, rfl, (Nat.mod_eq_of_lt short).symm, by simp, ?_⟩
      rw [exhaust_of_none _ declines, advance_nil]
      rfl
  | iterated encoder out next runs ih =>
      have loop := exhaust_of_some (writeChunk_decreasing positive) runs
      unfold writeChunk at runs
      split at runs
      · rename_i full
        simp only [Option.some.injEq, Prod.mk.injEq] at runs
        rcases runs with ⟨rfl, rfl⟩
        rcases ih with ⟨payloads, rest, bufferEq, restLength, chunkLengths, restEq⟩
        refine ⟨encoder.buffer.take maxChunkSize :: payloads, rest, ?_, ?_, ?_, ?_⟩
        · rw [List.flatten_cons, List.append_assoc, ← bufferEq, List.take_append_drop]
        · rw [restLength, List.length_drop, Nat.mod_eq_sub_mod full]
        · intro payload member
          rcases List.mem_cons.mp member with rfl | later
          · rw [List.length_take, min_eq_left full]
          · exact chunkLengths payload later
        · rw [loop, restEq]
          have advanced := advance_advance encoder [encoder.buffer.take maxChunkSize] payloads
            (encoder.buffer.drop maxChunkSize) rest
          exact Prod.ext rfl advanced
      · contradiction

end FrameStreamEncoder

/-- One write or flush of an open encoder. -/
theorem WriteOp.apply_eq {encoder : FrameStreamEncoder} (isOpen : encoder.IsOpen)
    (positive : 0 < encoder.maxChunkSize) (op : WriteOp) {pending : Nat}
    (buffered : encoder.buffer.length = pending % encoder.maxChunkSize) :
    ∃ payloads rest, encoder.buffer ++ op.data = payloads.flatten ++ rest ∧
      rest.length = unflushed pending [op] % encoder.maxChunkSize ∧
      (∀ payload ∈ payloads, payload ≠ [] ∧ payload.length ≤ encoder.maxChunkSize) ∧
      (op.apply encoder).frames =
        framesFrom encoder.streamId encoder.nextSeqId encoder.nextKind payloads ∧
      (op.apply encoder).encoder = encoder.advance payloads rest := by
  cases op with
  | writeBytes data =>
      rcases FrameStreamEncoder.exhaust_writeChunk positive
        { encoder with buffer := encoder.buffer ++ data } with
        ⟨payloads, rest, bufferEq, restLength, chunkLengths, loop⟩
      refine ⟨payloads, rest, bufferEq, ?_, ?_, ?_, ?_⟩
      · simpa [unflushed, buffered, Nat.add_mod] using restLength
      · intro payload member
        have length := chunkLengths payload member
        refine ⟨?_, length.le⟩
        rintro rfl
        simp at length
        omega
      · simp only [apply, FrameStreamEncoder.writeBytes, isOpen.writeError, loop]
      · simp only [apply, FrameStreamEncoder.writeBytes, isOpen.writeError, loop]
        rfl
  | flush =>
      by_cases empty : encoder.buffer = []
      · refine ⟨[], [], by simp [empty, data], by simp [unflushed], by simp, ?_, ?_⟩
        · simp [apply, FrameStreamEncoder.flush, isOpen.writeError, empty, framesFrom]
        · have unchanged := encoder.advance_nil
          rw [empty] at unchanged
          simp [apply, FrameStreamEncoder.flush, isOpen.writeError, empty, unchanged]
      · refine ⟨[encoder.buffer], [], by simp [data], by simp [unflushed], ?_, ?_, ?_⟩
        · intro payload member
          rw [List.mem_singleton.mp member]
          exact ⟨empty, buffered.trans_le (Nat.mod_lt _ positive).le⟩
        · simp [apply, FrameStreamEncoder.flush, isOpen.writeError, empty, framesFrom]
        · simp [apply, FrameStreamEncoder.flush, isOpen.writeError, empty,
            FrameStreamEncoder.advance, kindAfter]

/-- An operation on an open encoder succeeds and leaves the encoder open. -/
theorem WriteOp.apply_ok {encoder : FrameStreamEncoder} (isOpen : encoder.IsOpen)
    (positive : 0 < encoder.maxChunkSize) (op : WriteOp) :
    (∃ emitted, (op.apply encoder).result = .ok emitted) ∧ (op.apply encoder).encoder.IsOpen ∧
      (op.apply encoder).encoder.maxChunkSize = encoder.maxChunkSize := by
  cases op with
  | writeBytes data =>
      rcases FrameStreamEncoder.exhaust_writeChunk positive
        { encoder with buffer := encoder.buffer ++ data } with ⟨payloads, rest, -, -, -, loop⟩
      simp only [apply, FrameStreamEncoder.writeBytes, isOpen.writeError, loop]
      exact ⟨⟨_, rfl⟩, isOpen, rfl⟩
  | flush =>
      simp only [apply, FrameStreamEncoder.flush, isOpen.writeError]
      split
      · exact ⟨⟨_, rfl⟩, isOpen, rfl⟩
      · exact ⟨⟨_, rfl⟩, isOpen, rfl⟩

theorem EncoderOutcome.andThen_of_ok {outcome : EncoderOutcome} {emitted : Nat}
    (succeeded : outcome.result = .ok emitted) (next : FrameStreamEncoder → EncoderOutcome) :
    outcome.andThen next =
      { next outcome.encoder with
        frames := outcome.frames ++ (next outcome.encoder).frames } := by
  simp only [andThen, succeeded]

theorem WriteOp.applyAll_append (encoder : FrameStreamEncoder) (first second : List WriteOp) :
    applyAll encoder (first ++ second) =
      ((applyAll encoder first).1 ++ (applyAll (applyAll encoder first).2 second).1,
        (applyAll (applyAll encoder first).2 second).2) := by
  induction first generalizing encoder with
  | nil => rfl
  | cons op rest ih =>
      rw [List.cons_append, applyAll, ih, applyAll]
      simp only [List.append_assoc]

theorem WriteOp.unflushed_cons (pending : Nat) (op : WriteOp) (rest : List WriteOp) :
    unflushed pending (op :: rest) = unflushed (unflushed pending [op]) rest := by
  cases op <;> rfl

/-- Writes and flushes emit nonempty chunks in sequence, lose no byte, and keep
fewer than `maxChunkSize` bytes back: as many as remain of the bytes since the
last flush. -/
theorem WriteOp.applyAll_eq {encoder : FrameStreamEncoder} (isOpen : encoder.IsOpen)
    (positive : 0 < encoder.maxChunkSize) (ops : List WriteOp) {pending : Nat}
    (buffered : encoder.buffer.length = pending % encoder.maxChunkSize) :
    ∃ payloads rest, encoder.buffer ++ written ops = payloads.flatten ++ rest ∧
      rest.length = unflushed pending ops % encoder.maxChunkSize ∧
      (∀ payload ∈ payloads, payload ≠ [] ∧ payload.length ≤ encoder.maxChunkSize) ∧
      applyAll encoder ops =
        (framesFrom encoder.streamId encoder.nextSeqId encoder.nextKind payloads,
          encoder.advance payloads rest) := by
  induction ops generalizing encoder pending with
  | nil =>
      refine ⟨[], encoder.buffer, by simp [written], by simpa [unflushed] using buffered,
        by simp, ?_⟩
      simp [applyAll, framesFrom]
  | cons op rest ih =>
      rcases op.apply_eq isOpen positive buffered with
        ⟨payloads, kept, dataEq, keptLength, payloadBounds, framesEq, encoderEq⟩
      have openAfter := isOpen.advance payloads kept
      rcases ih openAfter positive keptLength with
        ⟨later, last, laterEq, lastLength, laterBounds, laterRun⟩
      refine ⟨payloads ++ later, last, ?_, ?_, ?_, ?_⟩
      · calc
          encoder.buffer ++ written (op :: rest) = (encoder.buffer ++ op.data) ++ written rest := by
            simp [written]
          _ = payloads.flatten ++ (kept ++ written rest) := by rw [dataEq, List.append_assoc]
          _ = payloads.flatten ++ (later.flatten ++ last) := congrArg _ laterEq
          _ = (payloads ++ later).flatten ++ last := by simp
      · rw [unflushed_cons]
        exact lastLength
      · intro payload member
        rcases List.mem_append.mp member with early | late
        · exact payloadBounds payload early
        · exact laterBounds payload late
      · rw [applyAll, encoderEq, laterRun, framesEq, framesFrom_append,
          FrameStreamEncoder.advance_advance]
        rfl

/-! ## Whole streams -/

/-- All frames of a stream that is written, flushed and finally ended. -/
def WriteOp.emitStream (streamId : UInt32) (maxChunkSize : Nat) (ops : List WriteOp) :
    List Frame :=
  let writes := applyAll (FrameStreamEncoder.new streamId maxChunkSize) ops
  writes.1 ++ writes.2.endStream.frames

/-- The frames of a closed stream, described by its payloads and the bytes that
travel in the end frame. -/
def streamFrames (streamId : UInt32) (payloads : List (List UInt8)) (last : List UInt8) :
    List Frame :=
  framesFrom streamId 0 .open payloads ++
    [⟨streamId, UInt32.ofNat payloads.length, .end, last⟩]

/-- Any closed stream is a list of nonempty chunks followed by an end frame that
carries the unflushed remainder. -/
theorem WriteOp.emitStream_eq (streamId : UInt32) {maxChunkSize : Nat}
    (positive : 0 < maxChunkSize) (ops : List WriteOp) :
    ∃ payloads last, emitStream streamId maxChunkSize ops = streamFrames streamId payloads last ∧
      written ops = payloads.flatten ++ last ∧
      last.length = unflushed 0 ops % maxChunkSize ∧
      ∀ payload ∈ payloads, payload ≠ [] ∧ payload.length ≤ maxChunkSize := by
  have isOpen := FrameStreamEncoder.new_isOpen streamId maxChunkSize
  rcases applyAll_eq isOpen positive ops (show [].length = 0 % maxChunkSize by simp) with
    ⟨payloads, last, dataEq, lastLength, bounds, run⟩
  refine ⟨payloads, last, ?_, dataEq, lastLength, bounds⟩
  have ended := (isOpen.advance payloads last).writeError
  simp only [emitStream, run, FrameStreamEncoder.endStream, ended]
  simp [streamFrames, FrameStreamEncoder.advance, FrameStreamEncoder.new]

end Muxio.Framing
