import Muxio.Encoding.LittleEndian

/-!
# Frames and the frame codec

A frame is a 13-byte header (payload length, stream id, sequence id and kind)
followed by its payload.  The codec is modelled on byte lists.  Sums of
`usize` values are taken modulo `2 ^ w`, where `w` is the pointer width of the
target, since the length field comes from the peer; all other arithmetic on
lengths stays far below any width.
-/

namespace Muxio.Framing

open Muxio.Encoding

/-! ## Wire constants -/

/-- `FRAME_LENGTH_FIELD_SIZE` -/
@[simp] def frameLengthFieldSize : Nat := 4

/-- `FRAME_STREAM_ID_OFFSET` -/
@[simp] def frameStreamIdOffset : Nat := 4

/-- `FRAME_SEQ_ID_OFFSET` -/
@[simp] def frameSeqIdOffset : Nat := 8

/-- `FRAME_KIND_OFFSET` -/
@[simp] def frameKindOffset : Nat := 12

/-- `FRAME_HEADER_SIZE` -/
@[simp] def frameHeaderSize : Nat := 13

/-! ## Frames -/

/-- The role of a frame within its logical stream. -/
inductive FrameKind where
  | «open»
  | data
  | «end»
  | cancel
  | pong
  | ping
  deriving DecidableEq, Repr

/-- The discriminant written on the wire. -/
def FrameKind.toUInt8 : FrameKind → UInt8
  | .open => 0
  | .data => 1
  | .end => 2
  | .cancel => 3
  | .pong => 4
  | .ping => 5

/-- Read a discriminant back; bytes above 5 name no kind. -/
def FrameKind.tryFrom (value : UInt8) : Option FrameKind :=
  if value = 0 then some .open
  else if value = 1 then some .data
  else if value = 2 then some .end
  else if value = 3 then some .cancel
  else if value = 4 then some .pong
  else if value = 5 then some .ping
  else none

@[simp]
theorem FrameKind.tryFrom_toUInt8 (kind : FrameKind) :
    FrameKind.tryFrom kind.toUInt8 = some kind := by
  cases kind <;> decide

inductive FrameEncodeError where
  | corruptFrame
  | writeAfterEnd
  | writeAfterCancel
  deriving DecidableEq, Repr

inductive FrameDecodeError where
  | corruptFrame
  | readAfterEnd
  | readAfterCancel
  | incompleteHeader
  | transport (message : String)
  deriving DecidableEq, Repr

/-- A single frame of a logical stream. -/
structure Frame where
  streamId : UInt32
  seqId : UInt32
  kind : FrameKind
  payload : List UInt8
  deriving DecidableEq, Repr

/-- A frame as the decoder hands it on, possibly marked with an error. -/
structure DecodedFrame where
  inner : Frame
  decodeError : Option FrameDecodeError
  deriving DecidableEq, Repr

/-! ## Machine arithmetic and slices -/

/-- Addition of `usize` values on a target with `w`-bit pointers. -/
def usizeAdd (w first second : Nat) : Nat := (first + second) % 2 ^ w

/-- The slice `buf[start..stop]`. -/
def slice (buf : List UInt8) (start stop : Nat) : List UInt8 := (buf.take stop).drop start

/-! ## The codec -/

namespace FrameCodec

/-- Serialize a frame.  The length field keeps the low 32 bits of the payload
length. -/
def encode (frame : Frame) : List UInt8 :=
  u32ToLeBytes (UInt32.ofNat frame.payload.length) ++
    u32ToLeBytes frame.streamId ++
    u32ToLeBytes frame.seqId ++
    [frame.kind.toUInt8] ++
    frame.payload

/-- The length field at the front of a buffer. -/
def lengthField (buf : List UInt8) : Nat :=
  (u32FromLeBytes (buf.take frameLengthFieldSize)).toNat

/-- Parse one frame from the front of a buffer.  The payload of a cancel frame
is discarded. -/
def decode (w : Nat) (buf : List UInt8) : Except FrameDecodeError DecodedFrame :=
  if buf.length < frameHeaderSize then
    .error .incompleteHeader
  else
    let len := lengthField buf
    if buf.length < usizeAdd w frameHeaderSize len then
      .error .incompleteHeader
    else
      let streamId := u32FromLeBytes (slice buf frameStreamIdOffset frameSeqIdOffset)
      let seqId := u32FromLeBytes (slice buf frameSeqIdOffset frameKindOffset)
      match FrameKind.tryFrom (buf.getD frameKindOffset 0) with
      | none => .error .corruptFrame
      | some kind =>
          let payload := match kind with
            | .cancel => []
            | _ => slice buf frameHeaderSize (usizeAdd w frameHeaderSize len)
          .ok ⟨⟨streamId, seqId, kind, payload⟩, none⟩

end FrameCodec

end Muxio.Framing
