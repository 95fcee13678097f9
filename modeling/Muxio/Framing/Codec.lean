import Muxio.Framing.Core

/-!
# The frame codec as a self-delimiting code

The decoder recovers every encoded frame whose payload length fits the 32-bit
length field, whatever follows it, and the header tells how many bytes the
frame takes.  These are the only facts about the byte layout that the layers
above use.
-/

namespace Muxio.Framing

open Muxio.Encoding

/-- The pointer width of the targets the layers above are modelled for. -/
@[simp] def usizeBits : Nat := 64

theorem usizeAdd_eq {w first second : Nat} (fits : first + second < 2 ^ w) :
    usizeAdd w first second = first + second :=
  Nat.mod_eq_of_lt fits

theorem slice_middle (before middle after : List UInt8) :
    slice (before ++ middle ++ after) before.length (before.length + middle.length) = middle := by
  simp [slice, List.append_assoc, List.take_append, List.take_of_length_le]

/-- A slice within the first part of two joined buffers reads that part alone. -/
theorem slice_append {buffer : List UInt8} {stop : Nat} (inFront : stop ≤ buffer.length)
    (rest : List UInt8) (start : Nat) :
    slice (buffer ++ rest) start stop = slice buffer start stop := by
  rw [slice, slice, List.take_append_of_le_length inFront]

/-- Slices that meet join up. -/
theorem slice_join (buf : List UInt8) {start middle stop : Nat} (first : start ≤ middle)
    (second : middle ≤ stop) :
    slice buf start middle ++ slice buf middle stop = slice buf start stop := by
  have front : slice buf start middle = ((buf.take stop).drop start).take (middle - start) := by
    rw [slice, List.take_drop, Nat.add_sub_cancel' first, List.take_take, Nat.min_eq_left second]
  have back : slice buf middle stop = ((buf.take stop).drop start).drop (middle - start) := by
    rw [slice, List.drop_drop, Nat.add_sub_cancel' first]
  rw [front, back, List.take_append_drop, slice]

theorem slice_length {buf : List UInt8} {stop : Nat} (within : stop ≤ buf.length) (start : Nat) :
    (slice buf start stop).length = stop - start := by
  rw [slice, List.length_drop, List.length_take_of_le within]

/-- A slice of one byte. -/
theorem slice_one {buf : List UInt8} {position : Nat} (within : position < buf.length) :
    slice buf position (position + 1) = [buf.getD position 0] := by
  rw [slice, List.take_add_one, List.getElem?_eq_getElem within, Option.toList_some,
    List.drop_left' (List.length_take_of_le within.le), List.getD_eq_getElem _ _ within]

/-- A kind that is read is the one its byte stands for. -/
theorem FrameKind.toUInt8_of_tryFrom {value : UInt8} {kind : FrameKind}
    (known : FrameKind.tryFrom value = some kind) : kind.toUInt8 = value := by
  unfold FrameKind.tryFrom at known
  repeat' split at known
  all_goals first
    | contradiction
    | rename_i isValue
      rw [← Option.some.inj known, isValue]
      rfl

/-- The bytes above 5 name no kind. -/
theorem FrameKind.tryFrom_eq_none_iff (value : UInt8) :
    FrameKind.tryFrom value = none ↔ 5 < value := by
  constructor
  · intro unknown
    unfold FrameKind.tryFrom at unknown
    repeat' split at unknown
    all_goals first
      | contradiction
      | rw [UInt8.lt_iff_toNat_lt]
        simp only [← UInt8.toNat_inj] at *
        simp at *
        omega
  · intro above
    cases known : FrameKind.tryFrom value with
    | none => rfl
    | some kind =>
        rw [← FrameKind.toUInt8_of_tryFrom known] at above
        cases kind <;> exact absurd above (by decide)

namespace FrameCodec

/-- The bytes of a frame with any byte in the place of its kind. -/
def layout (streamId seqId : UInt32) (kind : UInt8) (payload : List UInt8) : List UInt8 :=
  u32ToLeBytes (UInt32.ofNat payload.length) ++ u32ToLeBytes streamId ++ u32ToLeBytes seqId ++
    [kind] ++ payload

section Layout

variable (streamId seqId : UInt32) (kind : UInt8) (payload : List UInt8)

theorem layout_length :
    (layout streamId seqId kind payload).length = frameHeaderSize + payload.length := by
  simp [layout]
  omega

theorem lengthField_layout (fits : payload.length < 2 ^ 32) (rest : List UInt8) :
    lengthField (layout streamId seqId kind payload ++ rest) = payload.length := by
  have front : (layout streamId seqId kind payload ++ rest).take frameLengthFieldSize =
      u32ToLeBytes (UInt32.ofNat payload.length) := by
    simp only [layout, List.append_assoc]
    exact List.take_left' (u32ToLeBytes_length _)
  rw [lengthField, front, u32FromLeBytes_toLeBytes]
  exact UInt32.toNat_ofNat_of_lt' fits

theorem getD_layout : (layout streamId seqId kind payload).getD frameKindOffset 0 = kind := by
  have front : (u32ToLeBytes (UInt32.ofNat payload.length) ++ u32ToLeBytes streamId ++
      u32ToLeBytes seqId).length = frameKindOffset := by
    simp
  rw [layout, List.append_assoc, List.getD_append_right _ _ _ _ front.le, front]
  simp

end Layout

@[simp]
theorem encode_length (frame : Frame) :
    (encode frame).length = frameHeaderSize + frame.payload.length :=
  layout_length frame.streamId frame.seqId frame.kind.toUInt8 frame.payload

/-- The length field is read from the first four bytes alone. -/
theorem lengthField_append (buf data : List UInt8) (long : frameLengthFieldSize ≤ buf.length) :
    lengthField (buf ++ data) = lengthField buf := by
  rw [lengthField, lengthField, List.take_append_of_le_length long]

theorem lengthField_lt (buf : List UInt8) : lengthField buf < 2 ^ 32 :=
  UInt32.toNat_lt _

/-- Header plus payload never overflows a 64-bit `usize`. -/
theorem header_lt_usize {length : Nat} (fits : length < 2 ^ 32) :
    frameHeaderSize + length < 2 ^ usizeBits := by
  simp only [usizeBits, frameHeaderSize]
  omega

theorem usizeAdd_lengthField (buf : List UInt8) :
    usizeAdd usizeBits frameHeaderSize (lengthField buf) = frameHeaderSize + lengthField buf := by
  exact usizeAdd_eq (header_lt_usize (lengthField_lt buf))

theorem lengthField_encode {frame : Frame} (fits : frame.payload.length < 2 ^ 32)
    (rest : List UInt8) : lengthField (encode frame ++ rest) = frame.payload.length :=
  lengthField_layout frame.streamId frame.seqId frame.kind.toUInt8 frame.payload fits rest

end FrameCodec

/-- What the decoder makes of a frame: a cancel frame loses its payload. -/
def Frame.received (frame : Frame) : Frame :=
  match frame.kind with
  | .cancel => { frame with payload := [] }
  | _ => frame

theorem Frame.received_eq_self {frame : Frame} (notCancel : frame.kind ≠ .cancel) :
    frame.received = frame := by
  rcases frame with ⟨streamId, seqId, kind, payload⟩
  cases kind <;> first | rfl | exact absurd rfl notCancel

namespace FrameCodec

private theorem slice_streamId (frame : Frame) :
    slice (encode frame) frameStreamIdOffset frameSeqIdOffset = u32ToLeBytes frame.streamId := by
  have middle := slice_middle (u32ToLeBytes (UInt32.ofNat frame.payload.length))
    (u32ToLeBytes frame.streamId)
    (u32ToLeBytes frame.seqId ++ [frame.kind.toUInt8] ++ frame.payload)
  simpa [encode, List.append_assoc] using middle

private theorem slice_seqId (frame : Frame) :
    slice (encode frame) frameSeqIdOffset frameKindOffset = u32ToLeBytes frame.seqId := by
  have middle := slice_middle
    (u32ToLeBytes (UInt32.ofNat frame.payload.length) ++ u32ToLeBytes frame.streamId)
    (u32ToLeBytes frame.seqId) ([frame.kind.toUInt8] ++ frame.payload)
  simpa [encode, List.append_assoc] using middle

private theorem slice_payload (frame : Frame) :
    slice (encode frame) frameHeaderSize (frameHeaderSize + frame.payload.length) =
      frame.payload := by
  have middle := slice_middle
    (u32ToLeBytes (UInt32.ofNat frame.payload.length) ++ u32ToLeBytes frame.streamId ++
      u32ToLeBytes frame.seqId ++ [frame.kind.toUInt8]) frame.payload []
  simpa [encode, List.append_assoc] using middle

/-- The frame at the front of a buffer, once its kind is known. -/
def frameIn (buf : List UInt8) (kind : FrameKind) : Frame where
  streamId := u32FromLeBytes (slice buf frameStreamIdOffset frameSeqIdOffset)
  seqId := u32FromLeBytes (slice buf frameSeqIdOffset frameKindOffset)
  kind := kind
  payload := slice buf frameHeaderSize (frameHeaderSize + lengthField buf)

section Whole

variable {w : Nat} {buf : List UInt8} (noWrap : frameHeaderSize + lengthField buf < 2 ^ w)
  (whole : frameHeaderSize + lengthField buf ≤ buf.length)

include noWrap whole

/-- A whole frame of no known kind is reported. -/
theorem decode_unknown (unknown : FrameKind.tryFrom (buf.getD frameKindOffset 0) = none) :
    decode w buf = .error .corruptFrame := by
  have hasHeader : ¬ buf.length < frameHeaderSize := by omega
  rw [decode, if_neg hasHeader]
  simp only [usizeAdd_eq noWrap, if_neg (Nat.not_lt.mpr whole), unknown]

/-- A whole frame of a known kind is decoded. -/
theorem decode_known {kind : FrameKind}
    (known : FrameKind.tryFrom (buf.getD frameKindOffset 0) = some kind) :
    decode w buf = .ok ⟨(frameIn buf kind).received, none⟩ := by
  have hasHeader : ¬ buf.length < frameHeaderSize := by omega
  rw [decode, if_neg hasHeader]
  simp only [usizeAdd_eq noWrap, if_neg (Nat.not_lt.mpr whole), known]
  cases kind <;> rfl

end Whole

theorem frameIn_encode {frame : Frame} (fits : frame.payload.length < 2 ^ 32)
    (rest : List UInt8) : frameIn (encode frame ++ rest) frame.kind = frame := by
  have length := encode_length frame
  have inside : ∀ {stop : Nat}, stop ≤ frameHeaderSize → stop ≤ (encode frame).length := by
    omega
  rw [frameIn, lengthField_encode fits, slice_append (inside (by decide)),
    slice_append (inside (by decide)), slice_append length.ge, slice_streamId, slice_seqId,
    slice_payload, u32FromLeBytes_toLeBytes, u32FromLeBytes_toLeBytes]

/-- Decoding inverts encoding on frames whose payload fits the length field, whatever
follows them. -/
theorem decode_encode_append {w : Nat} {frame : Frame} (fits : frame.payload.length < 2 ^ 32)
    (noWrap : frameHeaderSize + frame.payload.length < 2 ^ w) (rest : List UInt8) :
    decode w (encode frame ++ rest) = .ok ⟨frame.received, none⟩ := by
  have length := encode_length frame
  have field := lengthField_encode fits rest
  have kindByte : (encode frame ++ rest).getD frameKindOffset 0 = frame.kind.toUInt8 := by
    have inside : frameKindOffset < (encode frame).length := by
      rw [length, frameKindOffset, frameHeaderSize]
      omega
    rw [List.getD_append _ _ _ _ inside]
    exact getD_layout frame.streamId frame.seqId frame.kind.toUInt8 frame.payload
  have whole : frameHeaderSize + lengthField (encode frame ++ rest) ≤
      (encode frame ++ rest).length := by
    rw [field, List.length_append, length]
    exact Nat.le_add_right _ _
  have known : FrameKind.tryFrom ((encode frame ++ rest).getD frameKindOffset 0) =
      some frame.kind := by
    rw [kindByte, FrameKind.tryFrom_toUInt8]
  rw [decode_known (field.symm ▸ noWrap) whole known, frameIn_encode fits]

theorem decode_encode {frame : Frame} (fits : frame.payload.length < 2 ^ 32) :
    decode usizeBits (encode frame) = .ok ⟨frame.received, none⟩ := by
  simpa using decode_encode_append fits (header_lt_usize fits) []

end FrameCodec

/-- A frame as it leaves the codec, before the reassembly table marks it. -/
def Frame.decoded (frame : Frame) : DecodedFrame := ⟨frame.received, none⟩

/-- Frames whose payload length survives the 32-bit length field. -/
def Fits (frames : List Frame) : Prop := ∀ frame ∈ frames, frame.payload.length < 2 ^ 32

theorem Fits.tail {frame : Frame} {rest : List Frame} (fits : Fits (frame :: rest)) : Fits rest :=
  fun other member => fits other (List.mem_cons_of_mem frame member)

theorem Fits.left {first second : List Frame} (fits : Fits (first ++ second)) : Fits first :=
  fun frame member => fits frame (List.mem_append_left second member)

theorem Fits.right {first second : List Frame} (fits : Fits (first ++ second)) : Fits second :=
  fun frame member => fits frame (List.mem_append_right first member)

/-- The bytes of a list of frames sent one after another. -/
def frameBytes (frames : List Frame) : List UInt8 := frames.flatMap FrameCodec.encode

@[simp]
theorem frameBytes_nil : frameBytes [] = [] :=
  rfl

@[simp]
theorem frameBytes_cons (frame : Frame) (rest : List Frame) :
    frameBytes (frame :: rest) = FrameCodec.encode frame ++ frameBytes rest :=
  rfl

@[simp]
theorem frameBytes_append (first second : List Frame) :
    frameBytes (first ++ second) = frameBytes first ++ frameBytes second :=
  List.flatMap_append

end Muxio.Framing
