import Muxio.Service.FlushedMessages

/-!
# The stream of a responder

The writer of a responder buffers its header, so that the first frame carries the header
and as much of the first chunk as there is room for.  It flushes after every chunk and
ends the stream with the first chunk that is final; what is answered after that is lost.
The frames of the stream are therefore known, piece by piece.
-/

namespace Muxio.Service

open Muxio.Framing
open Muxio.Rpc
open Muxio.Transition

/-! ## The frames of a response -/

/-- The payloads of the frames in which chunks are sent when each of them is flushed and
`unsent` bytes wait in front of the first. -/
def flushedPayloads (size : Nat) (unsent : List UInt8) : List (List UInt8) → List (List UInt8)
  | [] => []
  | first :: rest => inPieces size (unsent ++ first) ++ rest.flatMap (inPieces size)

theorem flushedPayloads_idle (size : Nat) (chunks : List (List UInt8)) :
    flushedPayloads size [] chunks = chunks.flatMap (inPieces size) := by
  cases chunks with
  | nil => rfl
  | cons first rest => rw [flushedPayloads, List.nil_append, List.flatMap_cons]

/-- The frames of a stream that carries a header and the given answers, up to the first
final one, which ends it. -/
def answerFrames (streamId : UInt32) (size : Nat) (header : RpcHeader)
    (given : List (List UInt8 × Bool)) : List Frame :=
  let payloads := flushedPayloads size header.toBytes ((throughFinal given).map Prod.fst)
  if given.any Prod.snd then streamFrames streamId payloads []
  else framesFrom streamId 0 .open payloads

/-! ## What a writer emits -/

/-- Chunks are written and flushed one by one. -/
theorem applyAll_respondOps {encoder : FrameStreamEncoder} (isOpen : encoder.IsOpen)
    (positive : 0 < encoder.maxChunkSize) {chunks : List (List UInt8)} (some : chunks ≠ []) :
    let payloads := flushedPayloads encoder.maxChunkSize encoder.buffer chunks
    WriteOp.applyAll encoder (respondOps chunks) =
      (framesFrom encoder.streamId encoder.nextSeqId encoder.nextKind payloads,
        encoder.advance payloads []) := by
  induction chunks generalizing encoder with
  | nil => contradiction
  | cons chunk rest ih =>
      let pieces := inPieces encoder.maxChunkSize (encoder.buffer ++ chunk)
      have first : WriteOp.applyAll encoder [.writeBytes chunk, .flush] =
          (framesFrom encoder.streamId encoder.nextSeqId encoder.nextKind pieces,
            encoder.advance pieces []) :=
        FrameStreamEncoder.applyAll_flushed isOpen positive chunk
      have split := WriteOp.applyAll_append encoder [.writeBytes chunk, .flush] (respondOps rest)
      rw [first] at split
      intro payloads
      cases rest with
      | nil =>
          have whole : payloads = pieces := List.append_nil _
          rw [whole]
          exact split.trans (Prod.ext (List.append_nil _) rfl)
      | cons next later =>
          have tail : payloads =
              pieces ++ (next :: later).flatMap (inPieces encoder.maxChunkSize) := rfl
          have after := ih (isOpen.advance pieces []) positive (List.cons_ne_nil next later)
          dsimp only at after
          rw [show (encoder.advance pieces []).buffer = [] from rfl, flushedPayloads_idle,
            FrameStreamEncoder.advance_advance] at after
          rw [tail, framesFrom_append]
          rw [after] at split
          exact split

/-- The header of a new stream waits for the first answer. -/
theorem encoder_opened (streamId : UInt32) {size : Nat} {header : RpcHeader}
    (short : header.toBytes.length < size) :
    WriteOp.applyAll (FrameStreamEncoder.new streamId size) [.writeBytes header.toBytes] =
      ([], (FrameStreamEncoder.new streamId size).advance [] header.toBytes) := by
  let opened := (FrameStreamEncoder.new streamId size).advance [] header.toBytes
  have declines : FrameStreamEncoder.writeChunk size opened = none :=
    if_neg (Nat.not_le.mpr short)
  have waits := exhaust_of_none (fun state : FrameStreamEncoder => state.buffer.length) declines
  have buffered : { FrameStreamEncoder.new streamId size with
      buffer := [] ++ header.toBytes } = opened := rfl
  rw [WriteOp.applyAll, WriteOp.apply, FrameStreamEncoder.writeBytes,
    (FrameStreamEncoder.new_isOpen _ _).writeError]
  simp only [FrameStreamEncoder.new] at buffered ⊢
  rw [buffered, waits]
  rfl

/-- A writer puts its header and all answers up to a final one into frames. -/
theorem writeResponses_opened (streamId : UInt32) {size : Nat} {header : RpcHeader}
    (short : header.toBytes.length < size) (given : List (List UInt8 × Bool)) :
    let opened := RpcStreamEncoder.new streamId size header
    opened.frames ++ (writeResponses opened.encoder given).1 =
      answerFrames streamId size header given := by
  intro opened
  have positive : 0 < size := Nat.zero_lt_of_lt short
  have written := writeResponses_eq streamId positive [.writeBytes header.toBytes] given
  have start : opened.frames ++ (writeResponses opened.encoder given).1 = _ :=
    (congrArg (· ++ _) (List.append_nil opened.frames).symm).trans written
  rw [start]
  by_cases none : given = []
  · subst none
    rw [if_neg (by decide)]
    exact congrArg Prod.fst (encoder_opened streamId short)
  · let encoder := (FrameStreamEncoder.new streamId size).advance [] header.toBytes
    have isOpen : encoder.IsOpen := (FrameStreamEncoder.new_isOpen _ _).advance _ _
    have run := applyAll_respondOps isOpen positive (throughFinal_ne_nil none)
    have applied : WriteOp.applyAll (FrameStreamEncoder.new streamId size)
        ([.writeBytes header.toBytes] ++ respondOps ((throughFinal given).map Prod.fst)) =
          WriteOp.applyAll encoder (respondOps ((throughFinal given).map Prod.fst)) := by
      rw [WriteOp.applyAll_append, encoder_opened streamId short]
      rfl
    rw [answerFrames, WriteOp.emitStream]
    simp only [applied, run]
    split
    · apply congrArg (_ ++ ·)
      rw [FrameStreamEncoder.endStream, (isOpen.advance _ _).writeError]
      simp [encoder, FrameStreamEncoder.advance, FrameStreamEncoder.new]
    · rfl

end Muxio.Service
