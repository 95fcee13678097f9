import Muxio.Framing.Decoder

/-!
# Slices within bounds

Indexing a byte slice outside its bounds panics.  Here the frame decoder is
written once more with every index and every range checked, a panic being
`none`, and the checked functions are shown to agree with the model that the
rest of the development uses.  With 64-bit pointers none of them panics on any
input.
-/

namespace Muxio.Framing

open Muxio.Encoding
open Muxio.Transition

/-- The range `buf[start..stop]`. -/
def sliceChecked (buf : List UInt8) (start stop : Nat) : Option (List UInt8) :=
  if start ≤ stop ∧ stop ≤ buf.length then some (slice buf start stop) else none

/-- What `buf.drain(..stop)` leaves. -/
def dropChecked (buf : List UInt8) (stop : Nat) : Option (List UInt8) :=
  if stop ≤ buf.length then some (buf.drop stop) else none

theorem sliceChecked_eq {buf : List UInt8} {start stop : Nat} (ordered : start ≤ stop)
    (within : stop ≤ buf.length) : sliceChecked buf start stop = some (slice buf start stop) :=
  if_pos ⟨ordered, within⟩

theorem dropChecked_eq {buf : List UInt8} {stop : Nat} (within : stop ≤ buf.length) :
    dropChecked buf stop = some (buf.drop stop) :=
  if_pos within

theorem getElem?_eq_getD {buf : List UInt8} {index : Nat} (within : index < buf.length) :
    buf[index]? = some (buf.getD index 0) := by
  rw [List.getD_eq_getElem?_getD, List.getElem?_eq_getElem within, Option.getD_some]

namespace FrameCodec

/-- `decode` with its ranges checked. -/
def decodeChecked (w : Nat) (buf : List UInt8) :
    Option (Except FrameDecodeError DecodedFrame) :=
  if buf.length < frameHeaderSize then
    some (.error .incompleteHeader)
  else do
    let len := (u32FromLeBytes (← sliceChecked buf 0 frameLengthFieldSize)).toNat
    if buf.length < usizeAdd w frameHeaderSize len then
      some (.error .incompleteHeader)
    else
      let streamId := u32FromLeBytes (← sliceChecked buf frameStreamIdOffset frameSeqIdOffset)
      let seqId := u32FromLeBytes (← sliceChecked buf frameSeqIdOffset frameKindOffset)
      match FrameKind.tryFrom (← buf[frameKindOffset]?) with
      | none => some (.error .corruptFrame)
      | some kind =>
          let payload ← match kind with
            | .cancel => some []
            | _ => sliceChecked buf frameHeaderSize (usizeAdd w frameHeaderSize len)
          some (.ok ⟨⟨streamId, seqId, kind, payload⟩, none⟩)

theorem decodeChecked_eq (buf : List UInt8) :
    decodeChecked usizeBits buf = some (decode usizeBits buf) := by
  rw [decodeChecked, decode]
  by_cases short : buf.length < frameHeaderSize
  · rw [if_pos short, if_pos short]
  · have long : frameHeaderSize ≤ buf.length := Nat.not_lt.mp short
    have field : sliceChecked buf 0 frameLengthFieldSize = some (buf.take frameLengthFieldSize) :=
      sliceChecked_eq (Nat.zero_le _) (le_trans (by decide) long)
    have total := usizeAdd_lengthField buf
    rw [lengthField] at total
    rw [if_neg short, if_neg short, field]
    simp only [lengthField, Option.bind_eq_bind, Option.bind_some, total]
    split
    · rfl
    · rename_i complete
      have kindByte : buf[frameKindOffset]? = some (buf.getD frameKindOffset 0) :=
        getElem?_eq_getD long
      rw [sliceChecked_eq (by decide) (le_trans (by decide) long),
        sliceChecked_eq (by decide) (le_trans (by decide) long), kindByte,
        sliceChecked_eq (Nat.le_add_right _ _) (Nat.not_lt.mp complete)]
      simp only [Option.bind_some]
      cases FrameKind.tryFrom (buf.getD frameKindOffset 0) with
      | none => rfl
      | some kind => cases kind <;> rfl

end FrameCodec

namespace FrameMuxStreamDecoder

/-- One iteration of the read loop with its ranges checked. -/
def readFrameChecked (w : Nat) (decoder : FrameMuxStreamDecoder) :
    Option (Option (List Item × FrameMuxStreamDecoder)) :=
  if decoder.buffer.length < frameLengthFieldSize then
    some none
  else
    let len := FrameCodec.lengthField decoder.buffer
    let total := usizeAdd w frameHeaderSize len
    if decoder.buffer.length < total then
      some none
    else do
      match ← FrameCodec.decodeChecked w (← sliceChecked decoder.buffer 0 total) with
      | .ok frame =>
          let buffer ← dropChecked decoder.buffer total
          let accepted := acceptFrame decoder.streams frame
          some (some (accepted.1, ⟨buffer, accepted.2⟩))
      | .error error =>
          let buffer ← dropChecked decoder.buffer total
          some (some ([.error error], { decoder with buffer := buffer }))

theorem readFrameChecked_eq (decoder : FrameMuxStreamDecoder) :
    readFrameChecked usizeBits decoder = some (readFrame usizeBits decoder) := by
  rw [readFrameChecked, readFrame]
  by_cases short : decoder.buffer.length < frameLengthFieldSize
  · rw [if_pos short, if_pos short]
  · rw [if_neg short, if_neg short]
    dsimp only
    split
    · rfl
    · rename_i complete
      have within := Nat.not_lt.mp complete
      have front : sliceChecked decoder.buffer 0
          (usizeAdd usizeBits frameHeaderSize (FrameCodec.lengthField decoder.buffer)) =
          some (decoder.buffer.take
            (usizeAdd usizeBits frameHeaderSize (FrameCodec.lengthField decoder.buffer))) :=
        sliceChecked_eq (Nat.zero_le _) within
      rw [front, dropChecked_eq within]
      simp only [Option.bind_eq_bind, Option.bind_some, FrameCodec.decodeChecked_eq]
      cases FrameCodec.decode usizeBits (decoder.buffer.take
        (usizeAdd usizeBits frameHeaderSize (FrameCodec.lengthField decoder.buffer))) <;> rfl

/-- `read_bytes` with its ranges checked. -/
def readBytesChecked (decoder : FrameMuxStreamDecoder) (data : List UInt8) :
    Option (List Item × FrameMuxStreamDecoder) :=
  drainChecked (readFrameChecked usizeBits) (decoder.feed data).buffer.length (decoder.feed data)

theorem readBytesChecked_eq (decoder : FrameMuxStreamDecoder) (data : List UInt8) :
    decoder.readBytesChecked data = some (decoder.readBytes data) :=
  drainChecked_eq readFrameChecked_eq _ _

end FrameMuxStreamDecoder

end Muxio.Framing
