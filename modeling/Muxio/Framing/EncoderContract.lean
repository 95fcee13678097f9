import Muxio.Framing.Encoder

/-!
# The contract of the stream encoder

Any sequence of writes, flushes, ends and cancels is allowed on an encoder, in
any order and also after the stream is closed.  Where an encoder stands after
such a sequence is one of three things: still open, ended, or canceled.  Each
says which frames have been emitted and which bytes are still buffered, and the
contract is read off from it.
-/

namespace Muxio.Framing

open Muxio.Transition

namespace FrameStreamEncoder

/-! ## The counting loop of `write_bytes` -/

/-- Hand one frame to `on_emit`, after the guard, and return how many bytes it has. -/
def emitFrame (encoder : FrameStreamEncoder) (frame : Frame) : Except FrameEncodeError Nat :=
  match encoder.writeError with
  | some error => .error error
  | none => .ok (FrameCodec.encode frame).length

/-- The loop of `write_bytes` with its counter and the early return of `emit_frame`. -/
def writeLoop : Nat → FrameStreamEncoder → Nat → EncoderOutcome
  | 0, encoder, opWrittenBytes => ⟨.ok opWrittenBytes, [], encoder⟩
  | fuel + 1, encoder, opWrittenBytes =>
      if encoder.maxChunkSize ≤ encoder.buffer.length then
        let chunk := encoder.buffer.take encoder.maxChunkSize
        let drained := { encoder with buffer := encoder.buffer.drop encoder.maxChunkSize }
        let frame : Frame := ⟨encoder.streamId, encoder.nextSeqId, encoder.nextKind, chunk⟩
        match drained.emitFrame frame with
        | .error error => ⟨.error error, [], drained⟩
        | .ok count =>
            let rest := writeLoop fuel
              { drained with nextSeqId := encoder.nextSeqId + 1, nextKind := .data }
              (opWrittenBytes + count)
            { rest with frames := frame :: rest.frames }
      else
        ⟨.ok opWrittenBytes, [], encoder⟩

/-- On an open encoder no emission fails, and the counter adds up the emitted bytes. -/
theorem writeLoop_eq {encoder : FrameStreamEncoder} (isOpen : encoder.IsOpen)
    (fuel opWrittenBytes : Nat) :
    writeLoop fuel encoder opWrittenBytes =
      ⟨.ok (opWrittenBytes +
          emittedBytes (drain (writeChunk encoder.maxChunkSize) fuel encoder).1),
        (drain (writeChunk encoder.maxChunkSize) fuel encoder).1,
        (drain (writeChunk encoder.maxChunkSize) fuel encoder).2⟩ := by
  induction fuel generalizing encoder opWrittenBytes with
  | zero => rfl
  | succ fuel ih =>
      by_cases full : encoder.maxChunkSize ≤ encoder.buffer.length
      · have noError : ({ encoder with
            buffer := encoder.buffer.drop encoder.maxChunkSize }).writeError = none :=
          IsOpen.writeError isOpen
        have stillOpen : ({ encoder with
            buffer := encoder.buffer.drop encoder.maxChunkSize
            nextSeqId := encoder.nextSeqId + 1
            nextKind := .data }).IsOpen := isOpen
        simp only [writeLoop, emitFrame, noError, if_pos full, ih stillOpen, drain, writeChunk,
          emittedBytes, List.singleton_append, List.map_cons, List.sum_cons, Nat.add_assoc]
      · simp only [writeLoop, if_neg full, drain, writeChunk]
        rfl

/-- `write_bytes` is its guard followed by the counting loop. -/
theorem writeBytes_eq_writeLoop {encoder : FrameStreamEncoder} (isOpen : encoder.IsOpen)
    (data : List UInt8) :
    encoder.writeBytes data = writeLoop (encoder.buffer ++ data).length
      { encoder with buffer := encoder.buffer ++ data } 0 := by
  have fedOpen : ({ encoder with buffer := encoder.buffer ++ data }).IsOpen := isOpen
  rw [writeLoop_eq fedOpen, Nat.zero_add]
  simp only [writeBytes, isOpen.writeError, exhaust]

/-- Ending an open encoder emits what is buffered. -/
theorem IsOpen.endStream {encoder : FrameStreamEncoder} (isOpen : encoder.IsOpen) :
    encoder.endStream =
      let frame : Frame := ⟨encoder.streamId, encoder.nextSeqId, .end, encoder.buffer⟩
      ⟨.ok (emittedBytes [frame]), [frame], { encoder with buffer := [], isEnded := true }⟩ := by
  simp only [FrameStreamEncoder.endStream, isOpen.writeError]

/-- Canceling an open encoder emits a frame without payload and keeps the buffer. -/
theorem IsOpen.cancelStream {encoder : FrameStreamEncoder} (isOpen : encoder.IsOpen) :
    encoder.cancelStream =
      let frame : Frame := ⟨encoder.streamId, encoder.nextSeqId, .cancel, []⟩
      ⟨.ok (emittedBytes [frame]), [frame], { encoder with isCanceled := true }⟩ := by
  simp only [FrameStreamEncoder.cancelStream, isOpen.writeError]

theorem emittedBytes_eq (frames : List Frame) :
    emittedBytes frames = (frameBytes frames).length := by
  rw [emittedBytes, frameBytes, List.length_flatMap]

end FrameStreamEncoder

/-! ## Sequences of calls -/

/-- The operations of an encoder. -/
inductive EncoderOp where
  | writeBytes (data : List UInt8)
  | flush
  | endStream
  | cancelStream
  deriving DecidableEq, Repr

namespace EncoderOp

def apply (encoder : FrameStreamEncoder) : EncoderOp → EncoderOutcome
  | writeBytes data => encoder.writeBytes data
  | flush => encoder.flush
  | endStream => encoder.endStream
  | cancelStream => encoder.cancelStream

/-- The bytes an operation hands to the encoder. -/
def data : EncoderOp → List UInt8
  | writeBytes data => data
  | _ => []

end EncoderOp

/-- One call, with the encoder it was made on. -/
structure EncoderCall where
  op : EncoderOp
  before : FrameStreamEncoder

namespace EncoderCall

def outcome (call : EncoderCall) : EncoderOutcome := call.op.apply call.before

/-- The bytes a call has written, which is none when the call fails. -/
def written (call : EncoderCall) : List UInt8 :=
  match call.outcome.result with
  | .ok _ => call.op.data
  | .error _ => []

theorem written_of_ok {op : EncoderOp} {before : FrameStreamEncoder} {count : Nat}
    (succeeded : (op.apply before).result = .ok count) : written ⟨op, before⟩ = op.data := by
  rw [written, outcome, succeeded]

/-- The frames emitted by a sequence of calls. -/
def emitted (calls : List EncoderCall) : List Frame :=
  calls.flatMap fun call => call.outcome.frames

/-- The bytes of all successful writes. -/
def allWritten (calls : List EncoderCall) : List UInt8 := calls.flatMap written

end EncoderCall

namespace FrameStreamEncoder

/-- The calls that a sequence of operations makes. -/
def calls : FrameStreamEncoder → List EncoderOp → List EncoderCall
  | _, [] => []
  | encoder, op :: rest => ⟨op, encoder⟩ :: calls (op.apply encoder).encoder rest

/-- The encoder that a sequence of operations leaves behind. -/
def afterCalls (encoder : FrameStreamEncoder) (ops : List EncoderOp) : FrameStreamEncoder :=
  ops.foldl (fun state op => (op.apply state).encoder) encoder

/-- A call in a sequence is made on what the calls before it leave behind. -/
theorem calls_split {encoder : FrameStreamEncoder} {ops : List EncoderOp}
    {earlier later : List EncoderCall} {call : EncoderCall}
    (split : encoder.calls ops = earlier ++ call :: later) :
    ∃ opsBefore, earlier = encoder.calls opsBefore ∧
      call.before = encoder.afterCalls opsBefore := by
  induction ops generalizing encoder earlier with
  | nil =>
      have empty := congrArg List.length split
      simp [calls] at empty
  | cons op rest ih =>
      rw [calls] at split
      cases earlier with
      | nil =>
          obtain ⟨rfl, -⟩ := List.cons.inj split
          exact ⟨[], rfl, rfl⟩
      | cons first others =>
          obtain ⟨rfl, restSplit⟩ := List.cons.inj split
          obtain ⟨opsBefore, rfl, beforeEq⟩ := ih restSplit
          exact ⟨op :: opsBefore, rfl, beforeEq⟩

end FrameStreamEncoder

/-! ## Where an encoder stands -/

/-- Frames emitted, bytes written and encoder left behind by the calls so far. -/
inductive Standing (streamId : UInt32) (maxChunkSize : Nat) :
    List Frame → List UInt8 → FrameStreamEncoder → Prop where
  | isOpen (payloads : List (List UInt8)) (rest : List UInt8)
      (chunked : ∀ payload ∈ payloads, payload.length ≤ maxChunkSize)
      (short : rest.length < maxChunkSize) :
      Standing streamId maxChunkSize (framesFrom streamId 0 .open payloads)
        (payloads.flatten ++ rest)
        ((FrameStreamEncoder.new streamId maxChunkSize).advance payloads rest)
  | ended (payloads : List (List UInt8)) (last : List UInt8)
      (chunked : ∀ payload ∈ payloads, payload.length ≤ maxChunkSize)
      (short : last.length < maxChunkSize) :
      Standing streamId maxChunkSize (streamFrames streamId payloads last)
        (payloads.flatten ++ last)
        { (FrameStreamEncoder.new streamId maxChunkSize).advance payloads [] with
          isEnded := true }
  | canceled (payloads : List (List UInt8)) (rest : List UInt8)
      (chunked : ∀ payload ∈ payloads, payload.length ≤ maxChunkSize)
      (short : rest.length < maxChunkSize) :
      Standing streamId maxChunkSize
        (framesFrom streamId 0 .open payloads ++
          [⟨streamId, UInt32.ofNat payloads.length, .cancel, []⟩])
        (payloads.flatten ++ rest)
        { (FrameStreamEncoder.new streamId maxChunkSize).advance payloads rest with
          isCanceled := true }

/-- A closed encoder refuses every operation and stays as it is. -/
theorem EncoderOp.apply_of_writeError {encoder : FrameStreamEncoder} {error : FrameEncodeError}
    (closed : encoder.writeError = some error) (op : EncoderOp) :
    op.apply encoder = ⟨.error error, [], encoder⟩ := by
  cases op with
  | writeBytes data => simp only [apply, FrameStreamEncoder.writeBytes, closed]
  | flush => simp only [apply, FrameStreamEncoder.flush, closed]
  | endStream => simp only [apply, FrameStreamEncoder.endStream, closed]
  | cancelStream => simp only [apply, FrameStreamEncoder.cancelStream, closed]

namespace Standing

variable {streamId : UInt32} {maxChunkSize : Nat} {frames : List Frame} {written : List UInt8}
  {encoder : FrameStreamEncoder}

theorem initial (streamId : UInt32) {maxChunkSize : Nat} (positive : 0 < maxChunkSize) :
    Standing streamId maxChunkSize [] [] (FrameStreamEncoder.new streamId maxChunkSize) :=
  .isOpen [] [] (fun _ member => absurd member List.not_mem_nil) positive

/-- A write or flush of an open encoder keeps it open. -/
theorem write {payloads : List (List UInt8)} {rest : List UInt8}
    (chunked : ∀ payload ∈ payloads, payload.length ≤ maxChunkSize)
    (short : rest.length < maxChunkSize) (op : WriteOp) :
    Standing streamId maxChunkSize
      (framesFrom streamId 0 .open payloads ++ (op.apply
        ((FrameStreamEncoder.new streamId maxChunkSize).advance payloads rest)).frames)
      (payloads.flatten ++ rest ++ op.data)
      (op.apply ((FrameStreamEncoder.new streamId maxChunkSize).advance payloads rest)).encoder
        := by
  have fresh := FrameStreamEncoder.new_isOpen streamId maxChunkSize
  have positive : 0 < maxChunkSize := Nat.zero_lt_of_lt short
  obtain ⟨more, kept, dataEq, keptLength, bounds, framesEq, encoderEq⟩ :=
    op.apply_eq (fresh.advance payloads rest) positive (Nat.mod_eq_of_lt short).symm
  have seqId : (FrameStreamEncoder.new streamId maxChunkSize).nextSeqId = 0 := rfl
  rw [framesEq, encoderEq, FrameStreamEncoder.advance_advance, List.append_assoc]
  have dataSplit : payloads.flatten ++ (rest ++ op.data) = (payloads ++ more).flatten ++ kept := by
    rw [List.flatten_append, List.append_assoc]
    exact congrArg _ dataEq
  have framesSplit := framesFrom_append streamId 0 .open payloads more
  rw [dataSplit]
  have standing : Standing streamId maxChunkSize (framesFrom streamId 0 .open (payloads ++ more))
      ((payloads ++ more).flatten ++ kept)
      ((FrameStreamEncoder.new streamId maxChunkSize).advance (payloads ++ more) kept) := by
    apply Standing.isOpen
    · intro payload member
      rcases List.mem_append.mp member with early | late
      · exact chunked payload early
      · exact (bounds payload late).2
    · exact keptLength.trans_lt (Nat.mod_lt _ positive)
  rw [framesSplit] at standing
  exact standing

/-- One call. -/
theorem step (standing : Standing streamId maxChunkSize frames written encoder)
    (op : EncoderOp) :
    Standing streamId maxChunkSize (frames ++ (op.apply encoder).frames)
      (written ++ EncoderCall.written ⟨op, encoder⟩) (op.apply encoder).encoder := by
  have positive : 0 < maxChunkSize := by
    cases standing with
    | isOpen _ _ _ short => exact Nat.zero_lt_of_lt short
    | ended _ _ _ short => exact Nat.zero_lt_of_lt short
    | canceled _ _ _ short => exact Nat.zero_lt_of_lt short
  cases standing with
  | isOpen payloads rest chunked short =>
      have running := (FrameStreamEncoder.new_isOpen streamId maxChunkSize).advance payloads rest
      cases op with
      | writeBytes data =>
          obtain ⟨count, succeeded⟩ := (WriteOp.apply_ok running positive (.writeBytes data)).1
          have accepted : EncoderCall.written ⟨.writeBytes data, _⟩ = data :=
            EncoderCall.written_of_ok succeeded
          rw [accepted]
          exact write chunked short (.writeBytes data)
      | flush =>
          obtain ⟨count, succeeded⟩ := (WriteOp.apply_ok running positive .flush).1
          have accepted : EncoderCall.written ⟨.flush, _⟩ = [] :=
            EncoderCall.written_of_ok succeeded
          rw [accepted]
          exact write chunked short .flush
      | endStream =>
          have ends := running.endStream
          have accepted : EncoderCall.written ⟨.endStream, _⟩ = [] :=
            EncoderCall.written_of_ok (congrArg EncoderOutcome.result ends)
          rw [accepted]
          simp only [EncoderOp.apply, ends, List.append_nil]
          have ended : Standing streamId maxChunkSize _ _ _ :=
            .ended payloads rest chunked short
          simpa [streamFrames, FrameStreamEncoder.advance, FrameStreamEncoder.new] using ended
      | cancelStream =>
          have cancels := running.cancelStream
          have accepted : EncoderCall.written ⟨.cancelStream, _⟩ = [] :=
            EncoderCall.written_of_ok (congrArg EncoderOutcome.result cancels)
          rw [accepted]
          simp only [EncoderOp.apply, cancels, List.append_nil]
          have canceled : Standing streamId maxChunkSize _ _ _ :=
            .canceled payloads rest chunked short
          simpa [FrameStreamEncoder.advance, FrameStreamEncoder.new] using canceled
  | ended payloads last chunked short =>
      have closed : ({ (FrameStreamEncoder.new streamId maxChunkSize).advance payloads [] with
          isEnded := true }).writeError = some .writeAfterEnd := rfl
      have refused := EncoderOp.apply_of_writeError closed op
      simp only [EncoderCall.written, EncoderCall.outcome, refused, List.append_nil]
      exact .ended payloads last chunked short
  | canceled payloads rest chunked short =>
      have closed : ({ (FrameStreamEncoder.new streamId maxChunkSize).advance payloads rest with
          isCanceled := true }).writeError = some .writeAfterCancel := rfl
      have refused := EncoderOp.apply_of_writeError closed op
      simp only [EncoderCall.written, EncoderCall.outcome, refused, List.append_nil]
      exact .canceled payloads rest chunked short

/-- A sequence of calls. -/
theorem run (standing : Standing streamId maxChunkSize frames written encoder)
    (ops : List EncoderOp) :
    Standing streamId maxChunkSize (frames ++ EncoderCall.emitted (encoder.calls ops))
      (written ++ EncoderCall.allWritten (encoder.calls ops)) (encoder.afterCalls ops) := by
  induction ops generalizing frames written encoder with
  | nil =>
      simpa [FrameStreamEncoder.calls, FrameStreamEncoder.afterCalls, EncoderCall.emitted,
        EncoderCall.allWritten] using standing
  | cons op rest ih =>
      have later := ih (standing.step op)
      simpa [FrameStreamEncoder.calls, FrameStreamEncoder.afterCalls, EncoderCall.emitted,
        EncoderCall.allWritten, EncoderCall.outcome, List.append_assoc] using later

/-- Where a new encoder stands after any sequence of calls. -/
theorem ofCalls (streamId : UInt32) {maxChunkSize : Nat} (positive : 0 < maxChunkSize)
    (ops : List EncoderOp) :
    Standing streamId maxChunkSize
      (EncoderCall.emitted ((FrameStreamEncoder.new streamId maxChunkSize).calls ops))
      (EncoderCall.allWritten ((FrameStreamEncoder.new streamId maxChunkSize).calls ops))
      ((FrameStreamEncoder.new streamId maxChunkSize).afterCalls ops) := by
  simpa using (initial streamId positive).run ops

end Standing

/-! ## The contract -/

/-- The kinds that close a stream. -/
def FrameKind.isTerminal : FrameKind → Bool
  | .end => true
  | .cancel => true
  | _ => false

/-- What the calls made on the encoder of one stream amount to. -/
structure EncoderContract (streamId : UInt32) (maxChunkSize : Nat) (calls : List EncoderCall)
    (encoder : FrameStreamEncoder) : Prop where
  /-- The frames carry the stream id and the sequence ids `0, 1, 2, …`. -/
  numbered : ∀ (i : Nat) (frame : Frame), (EncoderCall.emitted calls)[i]? = some frame →
    frame.streamId = streamId ∧ frame.seqId.toNat = i
  /-- The first frame opens the stream, later ones carry data, and only the last one may
  close it. -/
  kinds : ∀ (i : Nat) (frame : Frame), (EncoderCall.emitted calls)[i]? = some frame →
    if frame.kind.isTerminal then i + 1 = (EncoderCall.emitted calls).length
    else frame.kind = if i = 0 then .open else .data
  chunked : ∀ frame ∈ EncoderCall.emitted calls, frame.payload.length ≤ maxChunkSize
  buffered : ∀ call ∈ calls, call.outcome.encoder.buffer.length < maxChunkSize
  /-- No written byte is lost, repeated or moved. -/
  conserved : (EncoderCall.emitted calls).flatMap Frame.payload ++ encoder.buffer =
    EncoderCall.allWritten calls
  /-- Ending a stream leaves nothing in the buffer; only canceling it does. -/
  drained : (∃ frame ∈ EncoderCall.emitted calls, frame.kind = .end) → encoder.buffer = []
  /-- A call returns how many bytes it has emitted. -/
  counted : ∀ call ∈ calls, ∀ count, call.outcome.result = .ok count →
    count = (frameBytes call.outcome.frames).length
  /-- As long as the stream is not closed every call succeeds. -/
  succeeds : ∀ (earlier later : List EncoderCall) (call : EncoderCall),
    calls = earlier ++ call :: later →
    (∀ frame ∈ EncoderCall.emitted earlier, frame.kind.isTerminal = false) →
    ∃ count, call.outcome.result = .ok count
  /-- After the end frame every call fails, emits nothing and changes nothing. -/
  afterEnd : ∀ (earlier later : List EncoderCall) (call : EncoderCall),
    calls = earlier ++ call :: later →
    (∃ frame ∈ EncoderCall.emitted earlier, frame.kind = .end) →
    call.outcome = ⟨.error .writeAfterEnd, [], call.before⟩
  /-- After the cancel frame every call fails, emits nothing and changes nothing. -/
  afterCancel : ∀ (earlier later : List EncoderCall) (call : EncoderCall),
    calls = earlier ++ call :: later →
    (∃ frame ∈ EncoderCall.emitted earlier, frame.kind = .cancel) →
    call.outcome = ⟨.error .writeAfterCancel, [], call.before⟩

namespace Standing

variable {streamId : UInt32} {maxChunkSize : Nat} {frames : List Frame} {written : List UInt8}
  {encoder : FrameStreamEncoder}

/-- The frames are chunks followed by at most one closing frame. -/
theorem frames_eq (standing : Standing streamId maxChunkSize frames written encoder) :
    ∃ payloads closing, frames = framesFrom streamId 0 .open payloads ++ closing ∧
      (∀ payload ∈ payloads, payload.length ≤ maxChunkSize) ∧ closing.length ≤ 1 ∧
      ∀ frame ∈ closing, frame.streamId = streamId ∧
        frame.seqId = UInt32.ofNat payloads.length ∧ frame.kind.isTerminal = true ∧
        frame.payload.length ≤ maxChunkSize := by
  cases standing with
  | isOpen payloads rest chunked short =>
      refine ⟨payloads, [], (List.append_nil _).symm, chunked, Nat.zero_le _, ?_⟩
      intro frame member
      contradiction
  | ended payloads last chunked short =>
      refine ⟨payloads, [_], rfl, chunked, le_rfl, ?_⟩
      intro frame member
      rw [List.mem_singleton.mp member]
      exact ⟨rfl, rfl, rfl, short.le⟩
  | canceled payloads rest chunked short =>
      refine ⟨payloads, [_], rfl, chunked, le_rfl, ?_⟩
      intro frame member
      rw [List.mem_singleton.mp member]
      exact ⟨rfl, rfl, rfl, Nat.zero_le _⟩

/-- The frame at a position. -/
theorem frame_at (standing : Standing streamId maxChunkSize frames written encoder) {i : Nat}
    {frame : Frame} (position : frames[i]? = some frame) :
    frame.streamId = streamId ∧ frame.seqId = UInt32.ofNat i ∧
      frame.payload.length ≤ maxChunkSize ∧
      if frame.kind.isTerminal then i + 1 = frames.length
      else frame.kind = if i = 0 then .open else .data := by
  obtain ⟨payloads, closing, rfl, chunked, atMostOne, closes⟩ := standing.frames_eq
  by_cases early : i < payloads.length
  · have inChunks : i < (framesFrom streamId 0 .open payloads).length := by
      rw [framesFrom_length]
      exact early
    rw [List.getElem?_append_left inChunks, getElem?_framesFrom] at position
    obtain ⟨payload, payloadAt, rfl⟩ := Option.map_eq_some_iff.mp position
    refine ⟨rfl, UInt32.zero_add _, chunked payload (List.mem_of_getElem? payloadAt), ?_⟩
    by_cases first : i = 0
    · simp [first, FrameKind.isTerminal]
    · simp [first, FrameKind.isTerminal]
  · have late : (framesFrom streamId 0 .open payloads).length ≤ i := by
      rw [framesFrom_length]
      exact Nat.not_lt.mp early
    rw [List.getElem?_append_right late, framesFrom_length] at position
    obtain ⟨inClosing, -⟩ := List.getElem?_eq_some_iff.mp position
    have isLast : i = payloads.length := by omega
    obtain ⟨ofStream, seqId, terminal, short⟩ := closes frame (List.mem_of_getElem? position)
    refine ⟨ofStream, by rw [seqId, isLast], short, ?_⟩
    rw [if_pos terminal, List.length_append, framesFrom_length]
    omega

/-- The terminal frame that has been emitted says whether and how an encoder is closed. -/
theorem closed_by (standing : Standing streamId maxChunkSize frames written encoder) :
    (encoder.IsOpen ∧ ∀ frame ∈ frames, frame.kind.isTerminal = false) ∨
      (encoder.writeError = some .writeAfterEnd ∧ encoder.buffer = [] ∧
        ∀ frame ∈ frames, frame.kind ≠ .cancel) ∨
      (encoder.writeError = some .writeAfterCancel ∧ ∀ frame ∈ frames, frame.kind ≠ .end) := by
  cases standing with
  | isOpen payloads rest chunked short =>
      refine .inl ⟨⟨rfl, rfl⟩, ?_⟩
      intro frame member
      obtain ⟨notEnd, notCancel⟩ := mem_framesFrom member
      cases isKind : frame.kind <;> first | rfl | contradiction
  | ended payloads last chunked short =>
      refine .inr (.inl ⟨rfl, rfl, ?_⟩)
      intro frame member isCancel
      rcases List.mem_append.mp member with chunk | closing
      · exact (mem_framesFrom chunk).2 isCancel
      · rw [List.mem_singleton.mp closing] at isCancel
        contradiction
  | canceled payloads rest chunked short =>
      refine .inr (.inr ⟨rfl, ?_⟩)
      intro frame member isEnd
      rcases List.mem_append.mp member with chunk | closing
      · exact (mem_framesFrom chunk).1 isEnd
      · rw [List.mem_singleton.mp closing] at isEnd
        contradiction

theorem writeError_of_end (standing : Standing streamId maxChunkSize frames written encoder)
    (hasEnd : ∃ frame ∈ frames, frame.kind = .end) :
    encoder.writeError = some .writeAfterEnd ∧ encoder.buffer = [] := by
  obtain ⟨frame, member, isEnd⟩ := hasEnd
  rcases standing.closed_by with ⟨-, running⟩ | ⟨closed, drained, -⟩ | ⟨-, noEnd⟩
  · have notTerminal := running frame member
    rw [isEnd] at notTerminal
    contradiction
  · exact ⟨closed, drained⟩
  · exact absurd isEnd (noEnd frame member)

theorem writeError_of_cancel (standing : Standing streamId maxChunkSize frames written encoder)
    (hasCancel : ∃ frame ∈ frames, frame.kind = .cancel) :
    encoder.writeError = some .writeAfterCancel := by
  obtain ⟨frame, member, isCancel⟩ := hasCancel
  rcases standing.closed_by with ⟨-, running⟩ | ⟨-, -, noCancel⟩ | ⟨closed, -⟩
  · have notTerminal := running frame member
    rw [isCancel] at notTerminal
    contradiction
  · exact absurd isCancel (noCancel frame member)
  · exact closed

theorem isOpen_of_running (standing : Standing streamId maxChunkSize frames written encoder)
    (running : ∀ frame ∈ frames, frame.kind.isTerminal = false) : encoder.IsOpen := by
  cases standing with
  | isOpen payloads rest chunked short => exact ⟨rfl, rfl⟩
  | ended payloads last chunked short =>
      have notTerminal := running _ (List.mem_append_right _ List.mem_cons_self)
      contradiction
  | canceled payloads rest chunked short =>
      have notTerminal := running _ (List.mem_append_right _ List.mem_cons_self)
      contradiction

theorem conserved (standing : Standing streamId maxChunkSize frames written encoder) :
    frames.flatMap Frame.payload ++ encoder.buffer = written := by
  have chunks : ∀ payloads : List (List UInt8),
      (framesFrom streamId 0 .open payloads).flatMap Frame.payload = payloads.flatten := by
    intro payloads
    rw [List.flatMap_def, framesFrom_payloads]
  cases standing with
  | isOpen payloads rest chunked short =>
      rw [chunks]
      rfl
  | ended payloads last chunked short =>
      rw [streamFrames, List.flatMap_append, chunks]
      simp [FrameStreamEncoder.advance]
  | canceled payloads rest chunked short =>
      rw [List.flatMap_append, chunks]
      simp [FrameStreamEncoder.advance]

theorem buffer_length (standing : Standing streamId maxChunkSize frames written encoder) :
    encoder.buffer.length < maxChunkSize ∧ encoder.maxChunkSize = maxChunkSize := by
  cases standing with
  | isOpen payloads rest chunked short => exact ⟨short, rfl⟩
  | ended payloads last chunked short => exact ⟨Nat.zero_lt_of_lt short, rfl⟩
  | canceled payloads rest chunked short => exact ⟨short, rfl⟩

end Standing

/-- Every operation on an open encoder succeeds. -/
theorem EncoderOp.apply_ok {encoder : FrameStreamEncoder} (isOpen : encoder.IsOpen)
    (positive : 0 < encoder.maxChunkSize) (op : EncoderOp) :
    ∃ count, (op.apply encoder).result = .ok count := by
  cases op with
  | writeBytes data => exact (WriteOp.apply_ok isOpen positive (.writeBytes data)).1
  | flush => exact (WriteOp.apply_ok isOpen positive .flush).1
  | endStream => exact ⟨_, congrArg EncoderOutcome.result isOpen.endStream⟩
  | cancelStream => exact ⟨_, congrArg EncoderOutcome.result isOpen.cancelStream⟩

/-- An operation returns the number of bytes of the frames it emits. -/
theorem EncoderOp.apply_counts {encoder : FrameStreamEncoder} {op : EncoderOp} {count : Nat}
    (succeeded : (op.apply encoder).result = .ok count) :
    count = (frameBytes (op.apply encoder).frames).length := by
  rw [← FrameStreamEncoder.emittedBytes_eq]
  cases closed : encoder.writeError with
  | some error =>
      rw [apply_of_writeError closed] at succeeded
      contradiction
  | none =>
      cases op with
      | writeBytes data =>
          simp only [apply, FrameStreamEncoder.writeBytes, closed] at succeeded ⊢
          exact (Except.ok.inj succeeded).symm
      | flush =>
          simp only [apply, FrameStreamEncoder.flush, closed] at succeeded ⊢
          split at succeeded
          · rename_i empty
            rw [if_pos empty]
            exact (Except.ok.inj succeeded).symm
          · rename_i nonempty
            rw [if_neg nonempty]
            exact (Except.ok.inj succeeded).symm
      | endStream =>
          simp only [apply, FrameStreamEncoder.endStream, closed] at succeeded ⊢
          exact (Except.ok.inj succeeded).symm
      | cancelStream =>
          simp only [apply, FrameStreamEncoder.cancelStream, closed] at succeeded ⊢
          exact (Except.ok.inj succeeded).symm

/-- A call in a sequence of calls on a new encoder is made where the calls before it stand. -/
theorem Standing.before {streamId : UInt32} {maxChunkSize : Nat} (positive : 0 < maxChunkSize)
    {ops : List EncoderOp} {earlier later : List EncoderCall} {call : EncoderCall}
    (split : (FrameStreamEncoder.new streamId maxChunkSize).calls ops =
      earlier ++ call :: later) :
    Standing streamId maxChunkSize (EncoderCall.emitted earlier)
      (EncoderCall.allWritten earlier) call.before := by
  obtain ⟨opsBefore, rfl, beforeEq⟩ := FrameStreamEncoder.calls_split split
  rw [beforeEq]
  exact ofCalls streamId positive opsBefore

/-- The calls on a new encoder keep the contract, whatever they are, as long as the sequence
ids do not run out. -/
theorem encoder_contract (streamId : UInt32) (maxChunkSize : Nat) (positive : 1 ≤ maxChunkSize)
    (ops : List EncoderOp)
    (bounded : (EncoderCall.emitted
      ((FrameStreamEncoder.new streamId maxChunkSize).calls ops)).length < 2 ^ 32) :
    EncoderContract streamId maxChunkSize
      ((FrameStreamEncoder.new streamId maxChunkSize).calls ops)
      ((FrameStreamEncoder.new streamId maxChunkSize).afterCalls ops) := by
  have standing := Standing.ofCalls streamId positive ops
  constructor
  case numbered =>
    intro i frame position
    obtain ⟨ofStream, seqId, -, -⟩ := standing.frame_at position
    obtain ⟨inRange, -⟩ := List.getElem?_eq_some_iff.mp position
    constructor
    · exact ofStream
    · rw [seqId]
      exact UInt32.toNat_ofNat_of_lt' (inRange.trans bounded)
  case kinds =>
    intro i frame position
    exact (standing.frame_at position).2.2.2
  case chunked =>
    intro frame member
    obtain ⟨i, position⟩ := List.mem_iff_getElem?.mp member
    exact (standing.frame_at position).2.2.1
  case buffered =>
    intro call member
    obtain ⟨earlier, later, split⟩ := List.append_of_mem member
    exact ((Standing.before positive split).step call.op).buffer_length.1
  case conserved => exact standing.conserved
  case drained =>
    intro hasEnd
    exact (standing.writeError_of_end hasEnd).2
  case counted =>
    intro call member count succeeded
    exact EncoderOp.apply_counts succeeded
  case succeeds =>
    intro earlier later call split running
    have before := Standing.before positive split
    have isOpen := before.isOpen_of_running running
    apply EncoderOp.apply_ok isOpen
    rw [before.buffer_length.2]
    exact positive
  case afterEnd =>
    intro earlier later call split hasEnd
    have before := Standing.before positive split
    exact EncoderOp.apply_of_writeError (before.writeError_of_end hasEnd).1 call.op
  case afterCancel =>
    intro earlier later call split hasCancel
    have before := Standing.before positive split
    exact EncoderOp.apply_of_writeError (before.writeError_of_cancel hasCancel) call.op

/-- A stream of three bytes in chunks of two that is canceled and then written to. -/
theorem encoder_contract_canceled :
    EncoderContract 7 2
      ((FrameStreamEncoder.new 7 2).calls [.writeBytes [1, 2, 3], .cancelStream, .endStream])
      ((FrameStreamEncoder.new 7 2).afterCalls
        [.writeBytes [1, 2, 3], .cancelStream, .endStream]) ∧
      EncoderCall.emitted
          ((FrameStreamEncoder.new 7 2).calls [.writeBytes [1, 2, 3], .cancelStream, .endStream]) =
        [⟨7, 0, .open, [1, 2]⟩, ⟨7, 1, .cancel, []⟩] := by
  constructor
  · exact encoder_contract 7 2 (by decide) [.writeBytes [1, 2, 3], .cancelStream, .endStream]
      (by decide)
  · decide

end Muxio.Framing
