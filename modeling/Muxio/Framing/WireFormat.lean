import Muxio.Framing.PointerWidth

/-!
# The frame format as a whole

The codec is exact in both directions.  An encoded frame is decoded whatever
follows it, and a buffer is rejected, reported as corrupt or decoded according
to its length, its length field and its kind byte alone; what is decoded is the
frame whose encoding stands at the front.

A frame with a consistent length field and an unknown kind is skipped as a
whole: the decoder reports it and goes on as if it had not been there.
-/

namespace Muxio.Framing

open Muxio.Encoding
open Muxio.Transition

/-! ## The codec in both directions -/

namespace FrameCodec

/-- The bytes of a frame that was decoded stand at the front of the buffer. -/
theorem encode_frameIn {buf : List UInt8} {kind : FrameKind}
    (whole : frameHeaderSize + lengthField buf ≤ buf.length)
    (known : FrameKind.tryFrom (buf.getD frameKindOffset 0) = some kind) :
    encode (frameIn buf kind) = buf.take (frameHeaderSize + lengthField buf) := by
  have inside : ∀ {stop : Nat}, stop ≤ frameHeaderSize → stop ≤ buf.length := by
    omega
  have payloadLength : (slice buf frameHeaderSize (frameHeaderSize + lengthField buf)).length =
      lengthField buf := by
    rw [slice_length whole, Nat.add_sub_cancel_left]
  have lengthBytes : u32ToLeBytes (UInt32.ofNat (lengthField buf)) =
      slice buf 0 frameStreamIdOffset := by
    have four : (buf.take frameLengthFieldSize).length = 4 :=
      List.length_take_of_le (inside (by decide))
    rw [lengthField, UInt32.ofNat_toNat, u32ToLeBytes_fromLeBytes four]
    rfl
  have streamIdBytes := u32ToLeBytes_fromLeBytes
    (slice_length (inside (show frameSeqIdOffset ≤ frameHeaderSize by decide)) frameStreamIdOffset)
  have seqIdBytes := u32ToLeBytes_fromLeBytes
    (slice_length (inside (show frameKindOffset ≤ frameHeaderSize by decide)) frameSeqIdOffset)
  have kindByte : [kind.toUInt8] = slice buf frameKindOffset frameHeaderSize := by
    have within : frameKindOffset < buf.length := inside (le_refl frameHeaderSize)
    rw [FrameKind.toUInt8_of_tryFrom known]
    exact (slice_one within).symm
  calc
    encode (frameIn buf kind) =
        slice buf 0 frameStreamIdOffset ++ slice buf frameStreamIdOffset frameSeqIdOffset ++
          slice buf frameSeqIdOffset frameKindOffset ++ slice buf frameKindOffset frameHeaderSize ++
          slice buf frameHeaderSize (frameHeaderSize + lengthField buf) := by
      rw [encode, frameIn]
      simp only [payloadLength, lengthBytes, streamIdBytes, seqIdBytes, kindByte]
    _ = slice buf 0 (frameHeaderSize + lengthField buf) := by
      rw [slice_join buf (Nat.zero_le _) (by decide), slice_join buf (Nat.zero_le _) (by decide),
        slice_join buf (Nat.zero_le _) (by decide),
        slice_join buf (Nat.zero_le _) (Nat.le_add_right _ _)]
    _ = buf.take (frameHeaderSize + lengthField buf) := List.drop_zero

/-- A buffer without a whole frame is rejected. -/
theorem decode_short {buf : List UInt8} (short : buf.length < frameHeaderSize ∨
    buf.length < frameHeaderSize + lengthField buf) :
    decode usizeBits buf = .error .incompleteHeader := by
  rw [decode]
  by_cases noHeader : buf.length < frameHeaderSize
  · rw [if_pos noHeader]
  · rw [if_neg noHeader]
    simp only [usizeAdd_lengthField, if_pos (short.resolve_left noHeader)]

/-- What decoding does, by the length of a buffer and its kind byte. -/
theorem decode_cases (buf : List UInt8) :
    let short := buf.length < frameHeaderSize ∨ buf.length < frameHeaderSize + lengthField buf
    let kindByte := buf.getD frameKindOffset 0
    (short ∧ decode usizeBits buf = .error .incompleteHeader) ∨
      (¬ short ∧ 5 < kindByte ∧ decode usizeBits buf = .error .corruptFrame) ∨
      (¬ short ∧ ¬ 5 < kindByte ∧ ∃ kind, FrameKind.tryFrom kindByte = some kind ∧
        decode usizeBits buf = .ok ⟨(frameIn buf kind).received, none⟩) := by
  intro short kindByte
  have noWrap := header_lt_usize (lengthField_lt buf)
  have unknown_iff := FrameKind.tryFrom_eq_none_iff kindByte
  by_cases isShort : short
  · exact .inl ⟨isShort, decode_short isShort⟩
  · have whole := Nat.not_lt.mp (not_or.mp isShort).2
    cases known : FrameKind.tryFrom kindByte with
    | none => exact .inr (.inl ⟨isShort, unknown_iff.mp known, decode_unknown noWrap whole known⟩)
    | some kind =>
        have notUnknown : ¬ 5 < kindByte := by
          intro unknown
          rw [unknown_iff.mpr unknown] at known
          contradiction
        exact .inr (.inr ⟨isShort, notUnknown, kind, rfl, decode_known noWrap whole known⟩)

/-- Every frame whose payload fits the length field is decoded from the front of a buffer, on
every target whose memory holds the frame.  With 64-bit pointers a buffer is rejected exactly
if it is too short, is corrupt otherwise exactly if its kind byte is unknown, and is otherwise
decoded to the frame that is encoded at its front, except that a cancel frame is decoded
without its payload. -/
theorem decode_exact (width : PointerWidth) (frame : Frame) (rest : List UInt8)
    (fits : frame.payload.length < 2 ^ 32)
    (inMemory : width = .bits32 → frameHeaderSize + frame.payload.length < 2 ^ 32)
    (buf : List UInt8) :
    let received : Frame := ⟨frame.streamId, frame.seqId, frame.kind,
      if frame.kind = .cancel then [] else frame.payload⟩
    let short := buf.length < frameHeaderSize ∨ buf.length < frameHeaderSize + lengthField buf
    let kindByte := buf.getD frameKindOffset 0
    decode width.bits (encode frame ++ rest) = .ok ⟨received, none⟩ ∧
      (decode usizeBits buf = .error .incompleteHeader ↔ short) ∧
      (¬ short → (decode usizeBits buf = .error .corruptFrame ↔ 5 < kindByte)) ∧
      (¬ short → ¬ 5 < kindByte → ∃ decoded : Frame, decode usizeBits buf = .ok ⟨decoded, none⟩ ∧
        (decoded.kind ≠ .cancel →
          encode decoded = buf.take (frameHeaderSize + lengthField buf))) := by
  intro received short kindByte
  constructor
  · have noWrapFrame : frameHeaderSize + frame.payload.length < 2 ^ width.bits := by
      cases width with
      | bits64 => exact header_lt_usize fits
      | bits32 => exact inMemory rfl
    rw [decode_encode_append fits noWrapFrame]
    rcases frame with ⟨streamId, seqId, kind, payload⟩
    cases kind <;> rfl
  · rcases decode_cases buf with ⟨isShort, rejected⟩ | ⟨long, unknown, corrupt⟩ |
      ⟨long, notUnknown, kind, known, decoded⟩
    · exact ⟨iff_of_true rejected isShort, fun long => absurd isShort long,
        fun long => absurd isShort long⟩
    · rw [corrupt]
      exact ⟨iff_of_false (by simp) long, fun _ => iff_of_true rfl unknown,
        fun _ notUnknown => absurd unknown notUnknown⟩
    · rw [decoded]
      refine ⟨iff_of_false (by simp) long, fun _ => iff_of_false (by simp) notUnknown, ?_⟩
      intro _ _
      refine ⟨(frameIn buf kind).received, rfl, ?_⟩
      intro notCancel
      have kept : (frameIn buf kind).kind ≠ .cancel := by
        intro isCancel
        have receivedCancel : (frameIn buf kind).received.kind = .cancel := by
          rw [Frame.received, isCancel]
        exact notCancel receivedCancel
      have whole := Nat.not_lt.mp (not_or.mp long).2
      rw [Frame.received_eq_self kept, encode_frameIn whole known]

/-- A cancel frame with a payload in front of other bytes, and the same bytes read back. -/
theorem decode_exact_cancel :
    let frame : Frame := ⟨1, 5, .cancel, [7, 8]⟩
    decode 32 (encode frame ++ [9]) = .ok ⟨⟨1, 5, .cancel, []⟩, none⟩ ∧
      ∃ decoded : Frame, decode usizeBits (encode frame ++ [9]) = .ok ⟨decoded, none⟩ := by
  intro frame
  have whole := decode_exact .bits32 frame [9] (by decide) (fun _ => by decide)
    (encode frame ++ [9])
  obtain ⟨decoded, isDecoded, -⟩ := whole.2.2.2 (by decide) (by decide)
  exact ⟨whole.1, decoded, isDecoded⟩

end FrameCodec

/-! ## Corrupt frames -/

/-- A frame with a consistent length field whose kind byte names no kind. -/
structure CorruptFrame where
  streamId : UInt32
  seqId : UInt32
  kind : UInt8
  payload : List UInt8
  unknown : 5 < kind
  fits : payload.length < 2 ^ 32

/-- What stands on the wire between two frame boundaries. -/
inductive WireFrame where
  | frame (frame : Frame)
  | corrupt (frame : CorruptFrame)

namespace CorruptFrame

/-- The bytes of a corrupt frame: those of a frame, but for the kind. -/
def toBytes (frame : CorruptFrame) : List UInt8 :=
  FrameCodec.layout frame.streamId frame.seqId frame.kind frame.payload

theorem toBytes_length (frame : CorruptFrame) :
    frame.toBytes.length = frameHeaderSize + frame.payload.length :=
  FrameCodec.layout_length _ _ _ _

theorem lengthField_toBytes (frame : CorruptFrame) (rest : List UInt8) :
    FrameCodec.lengthField (frame.toBytes ++ rest) = frame.payload.length :=
  FrameCodec.lengthField_layout _ _ _ _ frame.fits rest

/-- The codec reports a corrupt frame. -/
theorem decode_toBytes (frame : CorruptFrame) :
    FrameCodec.decode usizeBits frame.toBytes = .error .corruptFrame := by
  have field := frame.lengthField_toBytes []
  rw [List.append_nil] at field
  apply FrameCodec.decode_unknown
  · rw [field]
    exact FrameCodec.header_lt_usize frame.fits
  · rw [field, toBytes_length]
  · rw [toBytes, FrameCodec.getD_layout]
    exact (FrameKind.tryFrom_eq_none_iff frame.kind).mpr frame.unknown

end CorruptFrame

namespace WireFrame

def toBytes : WireFrame → List UInt8
  | frame sent => FrameCodec.encode sent
  | corrupt sent => sent.toBytes

/-- The frames among what is sent. -/
def frames (sent : List WireFrame) : List Frame :=
  sent.filterMap fun
    | frame sent => some sent
    | corrupt _ => none

/-- An error for every corrupt frame, put between the items that the frames lead to. -/
def withErrors : List WireFrame → List (List Item) → List Item
  | frame _ :: sent, items :: later => items ++ withErrors sent later
  | corrupt _ :: sent, items => .error .corruptFrame :: withErrors sent items
  | _, _ => []

end WireFrame

namespace FrameMuxStreamDecoder

/-- The items of each frame when the frames are read one by one. -/
def emissions : FrameMuxStreamDecoder → List Frame → List (List Item)
  | _, [] => []
  | decoder, frame :: rest =>
      let read := decoder.readBytes (FrameCodec.encode frame)
      read.1 :: emissions read.2 rest

/-- A corrupt frame at the front of the buffer is reported and removed. -/
theorem readFrame_corrupt (frame : CorruptFrame) (rest : List UInt8) (streams : Streams) :
    readFrame usizeBits ⟨frame.toBytes ++ rest, streams⟩ =
      some ([.error .corruptFrame], ⟨rest, streams⟩) := by
  have length := frame.toBytes_length
  have cut : frameLength (frame.toBytes ++ rest) = frameHeaderSize + frame.payload.length := by
    rw [frameLength, frame.lengthField_toBytes]
  have complete : ¬ Incomplete (frame.toBytes ++ rest) := by
    rw [Incomplete, not_or, List.length_append, length, frame.lengthField_toBytes]
    simp only [frameHeaderSize, frameLengthFieldSize]
    omega
  rw [readFrame_complete complete]
  simp only [cut, List.take_left' length, List.drop_left' length, frame.decode_toBytes]

/-- The frames are accepted one by one. -/
theorem emissions_flatten {frames : List Frame} (fits : Fits frames) (streams : Streams) :
    (emissions ⟨[], streams⟩ frames).flatten =
      (acceptAll streams (frames.map Frame.decoded)).1 := by
  induction frames generalizing streams with
  | nil => rfl
  | cons frame rest ih =>
      have boundary : (⟨[], streams⟩ : FrameMuxStreamDecoder).buffer = [] := rfl
      rw [emissions, readBytes_encode boundary (fits frame List.mem_cons_self), List.flatten_cons,
        ih fits.tail, List.map_cons, acceptAll_cons]

/-- The loop over frames and corrupt frames, up to a frame that has not arrived as a whole. -/
theorem exhaust_sent {sent : List WireFrame} (fits : Fits (WireFrame.frames sent))
    {unread : List UInt8} (waiting : Incomplete unread) (streams : Streams) :
    exhaust (readFrame usizeBits) (fun state => state.buffer.length)
        ⟨sent.flatMap WireFrame.toBytes ++ unread, streams⟩ =
      (WireFrame.withErrors sent (emissions ⟨[], streams⟩ (WireFrame.frames sent)),
        ⟨unread, (acceptAll streams ((WireFrame.frames sent).map Frame.decoded)).2⟩) := by
  induction sent generalizing streams with
  | nil => exact exhaust_of_none _ ((readFrame_eq_none_iff ⟨unread, streams⟩).mpr waiting)
  | cons first rest ih =>
      rw [List.flatMap_cons, List.append_assoc]
      cases first with
      | frame frame =>
          have split : WireFrame.frames (.frame frame :: rest) =
              frame :: WireFrame.frames rest := rfl
          rw [split] at fits ⊢
          have frameFits := fits frame List.mem_cons_self
          have boundary : (⟨[], streams⟩ : FrameMuxStreamDecoder).buffer = [] := rfl
          have step := readFrame_encode frameFits (rest.flatMap WireFrame.toBytes ++ unread) streams
          rw [WireFrame.toBytes, exhaust_of_some readFrame_decreasing step, ih fits.tail, emissions,
            readBytes_encode boundary frameFits, List.map_cons, acceptAll_cons]
          rfl
      | corrupt frame =>
          have split : WireFrame.frames (.corrupt frame :: rest) = WireFrame.frames rest := rfl
          rw [split] at fits ⊢
          have step := readFrame_corrupt frame (rest.flatMap WireFrame.toBytes ++ unread) streams
          rw [WireFrame.toBytes, exhaust_of_some readFrame_decreasing step, ih fits]
          rfl

/-- Whatever corrupt frames stand between the frames, and however the bytes are cut, the
decoder emits the items it emits without them, with one error in the place of each corrupt
frame, and ends in the same state. -/
theorem corrupt_frames_skipped (streams : Streams) (sent : List WireFrame)
    (fits : Fits (WireFrame.frames sent)) (unread : List UInt8) (waiting : Incomplete unread)
    (chunks without : List (List UInt8))
    (cut : chunks.flatten = sent.flatMap WireFrame.toBytes ++ unread)
    (cutWithout : without.flatten = frameBytes (WireFrame.frames sent) ++ unread) :
    let decoder : FrameMuxStreamDecoder := ⟨[], streams⟩
    let items := decoder.emissions (WireFrame.frames sent)
    (decoder.readChunks without).1 = items.flatten ∧
      (decoder.readChunks chunks).1 = WireFrame.withErrors sent items ∧
      (decoder.readChunks chunks).2 = (decoder.readChunks without).2 := by
  intro decoder items
  have boundary : Incomplete decoder.buffer := incomplete_nil
  have read : decoder.readChunks chunks =
      (WireFrame.withErrors sent items,
        ⟨unread, (acceptAll streams ((WireFrame.frames sent).map Frame.decoded)).2⟩) := by
    rw [readChunks_eq_readBytes boundary, cut]
    exact exhaust_sent fits waiting streams
  have readWithout : decoder.readChunks without =
      ((acceptAll streams ((WireFrame.frames sent).map Frame.decoded)).1,
        ⟨unread, (acceptAll streams ((WireFrame.frames sent).map Frame.decoded)).2⟩) := by
    rw [readChunks_eq_readBytes boundary, cutWithout]
    exact exhaust_frameBytes fits waiting streams
  refine ⟨?_, ?_, ?_⟩
  · rw [readWithout, emissions_flatten fits]
  · rw [read]
  · rw [read, readWithout]

/-- Two corrupt frames between the frames of a stream that arrives out of order. -/
theorem corrupt_frames_skipped_between :
    let sent : List WireFrame := [.frame ⟨1, 1, .end, [8]⟩,
      .corrupt ⟨1, 0, 9, [3, 4], by decide, by decide⟩,
      .corrupt ⟨2, 7, 255, [], by decide, by decide⟩, .frame ⟨1, 0, .open, [7]⟩]
    let bytes := sent.flatMap WireFrame.toBytes
    (new.readChunks [bytes.take 20, bytes.drop 20]).1 =
        [.error .corruptFrame, .error .corruptFrame, .ok ⟨⟨1, 0, .open, [7]⟩, none⟩,
          .ok ⟨⟨1, 1, .end, [8]⟩, none⟩] ∧
      (new.readChunks [bytes.take 20, bytes.drop 20]).2 =
        (new.readChunks [frameBytes (WireFrame.frames sent)]).2 := by
  intro sent bytes
  have fits : Fits (WireFrame.frames sent) := by
    rw [Fits]
    decide
  have skipped := corrupt_frames_skipped ∅ sent fits [] incomplete_nil
    [bytes.take 20, bytes.drop 20] [frameBytes (WireFrame.frames sent)] (by decide +kernel)
    (List.append_nil _ ▸ List.append_nil _)
  exact ⟨skipped.2.1.trans (by decide +kernel), skipped.2.2⟩

end FrameMuxStreamDecoder

end Muxio.Framing
