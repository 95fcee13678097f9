import Muxio.Rpc.Link

/-!
# Headers longer than their length field

The length of the metadata travels in 16 bits, and the encoder writes all of the
metadata behind it.  What a peer reads of a header is therefore the header on
the wire, with the metadata cut to the low 16 bits of its length, and the rest
of the metadata arrives as payload.
-/

namespace Muxio.Rpc

open Muxio.Framing

namespace RpcHeader

/-- What a stream carries once its header has been flushed. -/
def flushed (header : RpcHeader) (streamId : UInt32) (maxChunkSize : Nat) : EncoderOutcome :=
  (RpcStreamEncoder.new streamId maxChunkSize header).andThen FrameStreamEncoder.flush

theorem new_ok (header : RpcHeader) (streamId : UInt32) {maxChunkSize : Nat}
    (positive : 0 < maxChunkSize) :
    ∃ emitted, (RpcStreamEncoder.new streamId maxChunkSize header).result = .ok emitted :=
  (WriteOp.apply_ok (FrameStreamEncoder.new_isOpen streamId maxChunkSize) positive
    (.writeBytes header.toBytes)).1

/-- A flushed header is cut into open and data frames. -/
theorem flushed_frames (header : RpcHeader) (streamId : UInt32) {maxChunkSize : Nat}
    (positive : 0 < maxChunkSize) :
    ∃ payloads, (header.flushed streamId maxChunkSize).frames =
        framesFrom streamId 0 .open payloads ∧ payloads.flatten = header.toBytes ∧
      ∀ payload ∈ payloads, payload ≠ [] := by
  obtain ⟨emitted, succeeded⟩ := header.new_ok streamId positive
  have empty : (FrameStreamEncoder.new streamId maxChunkSize).buffer.length =
      0 % (FrameStreamEncoder.new streamId maxChunkSize).maxChunkSize :=
    (Nat.zero_mod _).symm
  obtain ⟨payloads, rest, writtenEq, restLength, sizes, applied⟩ :=
    WriteOp.applyAll_eq (FrameStreamEncoder.new_isOpen streamId maxChunkSize) positive
      [.writeBytes header.toBytes, .flush] empty
  have noRest : rest = [] := by
    apply List.eq_nil_of_length_eq_zero
    rw [restLength]
    exact Nat.zero_mod _
  refine ⟨payloads, ?_, ?_, fun payload member => (sizes payload member).1⟩
  · have framesEq := congrArg Prod.fst applied
    simp only [WriteOp.applyAll, List.append_nil] at framesEq
    rw [flushed, EncoderOutcome.andThen_of_ok succeeded]
    exact framesEq
  · rw [noRest, List.append_nil] at writtenEq
    rw [← writtenEq]
    simp [WriteOp.written, WriteOp.data, FrameStreamEncoder.new]

/-- The peer reads the header on the wire, and the rest of the metadata as payload. -/
theorem decodeFrames_flushed (header : RpcHeader) (streamId : UInt32) {maxChunkSize : Nat}
    (positive : 0 < maxChunkSize) :
    ∃ chunks : List (List UInt8),
      RpcStreamDecoder.new.decodeFrames (header.flushed streamId maxChunkSize).frames =
        .ok (header.onWire.headerEvent :: chunks.map header.onWire.chunkEvent) ∧
      chunks.flatten =
        header.rpcMetadataBytes.drop (header.rpcMetadataBytes.length % 2 ^ 16) ∧
      ∀ chunk ∈ chunks, chunk ≠ [] := by
  obtain ⟨payloads, framesEq, written, nonempty⟩ := header.flushed_frames streamId positive
  rw [toBytes_eq_onWire] at written
  have plain : ∀ frame ∈ framesFrom streamId 0 .open payloads,
      frame.kind ≠ .end ∧ frame.kind ≠ .cancel := fun frame member => mem_framesFrom member
  have agrees : ([] ++ (framesFrom streamId 0 .open payloads).map Frame.payload).flatten ++ [] =
      header.onWire.toBytes ++
        header.rpcMetadataBytes.drop (header.rpcMetadataBytes.length % 2 ^ 16) := by
    rw [List.nil_append, framesFrom_payloads, List.append_nil, written]
  obtain ⟨events, decoded, eventsEq⟩ := RpcStreamDecoder.Stands.decodeFrames header.onWire_fits
    plain (RpcStreamDecoder.new_stands header.onWire) agrees
  obtain ⟨chunks, complete, opens, -, flattens⟩ := openEvents_flushed written.symm
  refine ⟨chunks, ?_, flattens, pieces_ne_nil complete nonempty⟩
  rw [List.nil_append, framesFrom_payloads, opens] at eventsEq
  rw [framesEq, decoded, eventsEq]
  rfl

/-- Opening a stream fails, or the peer reads the header as it was given and nothing else. -/
def SentIntact (header : RpcHeader) (streamId : UInt32) (maxChunkSize : Nat) : Prop :=
  (∃ error, (RpcStreamEncoder.new streamId maxChunkSize header).result = .error error) ∨
    RpcStreamDecoder.new.decodeFrames (header.flushed streamId maxChunkSize).frames =
      .ok [header.headerEvent]

/-- A header is sent intact exactly if the length of its metadata fits the length field. -/
theorem sent_intact_iff (header : RpcHeader) (streamId : UInt32) (maxChunkSize : Nat)
    (positive : 1 ≤ maxChunkSize) :
    header.SentIntact streamId maxChunkSize ↔ header.rpcMetadataBytes.length < 2 ^ 16 := by
  obtain ⟨emitted, succeeded⟩ := header.new_ok streamId positive
  obtain ⟨chunks, decoded, rest, nonempty⟩ := header.decodeFrames_flushed streamId positive
  constructor
  · rintro (⟨error, failed⟩ | intact)
    · rw [succeeded] at failed
      contradiction
    · rw [decoded] at intact
      have noChunks : chunks = [] := by
        simpa using congrArg List.tail (Except.ok.inj intact)
      rw [noChunks, List.flatten_nil] at rest
      have short := List.drop_eq_nil_iff.mp rest.symm
      have bounded := Nat.mod_lt header.rpcMetadataBytes.length (show 0 < 2 ^ 16 by decide)
      omega
  · intro small
    right
    rw [Nat.mod_eq_of_lt small, List.drop_length, List.flatten_eq_nil_iff] at rest
    have noChunks : chunks = [] := by
      apply List.eq_nil_iff_forall_not_mem.mpr
      intro chunk member
      exact nonempty chunk member (rest chunk member)
    rw [decoded, noChunks, onWire_of_fits (Nat.le_of_lt_succ small), List.map_nil]

/-- Two bytes of metadata arrive over frames of four bytes. -/
theorem sent_intact_small : RpcHeader.SentIntact ⟨.call, 7, 5, [1, 2]⟩ 1 4 :=
  (sent_intact_iff ⟨.call, 7, 5, [1, 2]⟩ 1 4 (by decide)).mpr (by decide)

/-- Metadata of 65536 bytes arrives as no metadata and 65536 bytes of payload. -/
theorem long_metadata_becomes_payload :
    let header : RpcHeader := ⟨.call, 7, 5, List.replicate 65536 0⟩
    let received : RpcHeader := ⟨.call, 7, 5, []⟩
    (∃ emitted, (RpcStreamEncoder.new 1 64 header).result = .ok emitted) ∧
      ∃ chunks : List (List UInt8),
        RpcStreamDecoder.new.decodeFrames (header.flushed 1 64).frames =
          .ok (received.headerEvent :: chunks.map received.chunkEvent) ∧
        chunks.flatten = List.replicate 65536 0 := by
  intro header received
  have length : header.rpcMetadataBytes.length % 2 ^ 16 = 0 := by
    rw [List.length_replicate]
    rfl
  have onWire : header.onWire = received := by
    rw [RpcHeader.onWire, length, List.take_zero]
  obtain ⟨chunks, decoded, rest, -⟩ := header.decodeFrames_flushed 1 (show 0 < 64 by decide)
  rw [onWire] at decoded
  rw [length, List.drop_zero] at rest
  exact ⟨header.new_ok 1 (by decide), chunks, decoded, rest⟩

end RpcHeader

end Muxio.Rpc
