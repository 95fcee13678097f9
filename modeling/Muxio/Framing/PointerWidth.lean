import Muxio.Framing.Decoder

/-!
# The read loop on every target

The length of a frame is the sum of the header size and a length field that the
peer chooses.  With 64-bit pointers the sum is exact.  With 32-bit pointers,
as on `wasm32`, a length field within a header of `2 ^ 32` makes the sum wrap to
fewer bytes than a header has; the iteration then reports an incomplete header
and removes just those bytes, in the worst case none at all.

Cutting the input by exact sums tells whether a read meets such a length field.
-/

namespace Muxio.Framing

open Muxio.Transition

/-- The pointer widths of the supported targets. -/
inductive PointerWidth where
  | bits64
  | bits32
  deriving DecidableEq, Repr

def PointerWidth.bits : PointerWidth → Nat
  | bits64 => 64
  | bits32 => 32

/-- Bytes that are as long as the length field at their front says. -/
def Delimited (piece : List UInt8) : Prop :=
  piece.length = frameHeaderSize + FrameCodec.lengthField piece

/-- The sum computed for the frame at the front wraps, and as many bytes as the
wrapped sum counts are there. -/
def Overflows (w : Nat) (buf : List UInt8) : Prop :=
  frameLengthFieldSize ≤ buf.length ∧ 2 ^ w ≤ frameHeaderSize + FrameCodec.lengthField buf ∧
    frameHeaderSize + FrameCodec.lengthField buf ≤ 2 ^ w + buf.length

/-- Wherever exact cuts lead to in the input, the sum computed there is exact. -/
def NeverOverflows (w : Nat) (buf : List UInt8) : Prop :=
  ∀ (pieces : List (List UInt8)) (rest : List UInt8), (∀ piece ∈ pieces, Delimited piece) →
    buf = pieces.flatten ++ rest → ¬ Overflows w rest

theorem NeverOverflows.front {w : Nat} {buf : List UInt8} (never : NeverOverflows w buf) :
    ¬ Overflows w buf := by
  apply never [] buf
  · intro piece member
    contradiction
  · rfl

theorem NeverOverflows.cut {w : Nat} {piece buf : List UInt8} (delimited : Delimited piece)
    (never : NeverOverflows w (piece ++ buf)) : NeverOverflows w buf := by
  intro pieces rest allDelimited bufEq
  apply never (piece :: pieces) rest
  · intro other member
    rcases List.mem_cons.mp member with rfl | later
    · exact delimited
    · exact allDelimited other later
  · rw [bufEq, List.flatten_cons, List.append_assoc]

theorem Delimited.lengthField_append {piece : List UInt8} (delimited : Delimited piece)
    (data : List UInt8) :
    FrameCodec.lengthField (piece ++ data) = FrameCodec.lengthField piece := by
  apply FrameCodec.lengthField_append
  rw [delimited, frameLengthFieldSize, frameHeaderSize]
  omega

namespace FrameMuxStreamDecoder

/-- An iteration removes the computed sum, which is at most what is buffered. -/
theorem readFrame_removes {w : Nat} {decoder next : FrameMuxStreamDecoder} {out : List Item}
    (runs : readFrame w decoder = some (out, next)) :
    frameLengthFieldSize ≤ decoder.buffer.length ∧
      usizeAdd w frameHeaderSize (FrameCodec.lengthField decoder.buffer) ≤
        decoder.buffer.length ∧
      next.buffer = decoder.buffer.drop
        (usizeAdd w frameHeaderSize (FrameCodec.lengthField decoder.buffer)) := by
  unfold readFrame at runs
  split at runs
  · contradiction
  · rename_i long
    dsimp only at runs
    split at runs
    · contradiction
    · rename_i complete
      refine ⟨Nat.not_lt.mp long, Nat.not_lt.mp complete, ?_⟩
      split at runs
      · obtain ⟨-, rfl⟩ := Prod.mk.inj (Option.some.inj runs)
        rfl
      · obtain ⟨-, rfl⟩ := Prod.mk.inj (Option.some.inj runs)
        rfl

/-- An iteration runs as soon as the computed sum is buffered. -/
theorem exists_readFrame {w : Nat} {decoder : FrameMuxStreamDecoder}
    (long : frameLengthFieldSize ≤ decoder.buffer.length)
    (complete : usizeAdd w frameHeaderSize (FrameCodec.lengthField decoder.buffer) ≤
      decoder.buffer.length) :
    ∃ out next, readFrame w decoder = some (out, next) := by
  unfold readFrame
  rw [if_neg (Nat.not_lt.mpr long)]
  dsimp only
  rw [if_neg (Nat.not_lt.mpr complete)]
  split
  · exact ⟨_, _, rfl⟩
  · exact ⟨_, _, rfl⟩

/-- An iteration that takes at least a header's worth of bytes off the buffer. -/
def RemovesHeader (before after : FrameMuxStreamDecoder) : Prop :=
  after.buffer.length + frameHeaderSize ≤ before.buffer.length

/-- A sum that does not wrap is removed as a whole. -/
theorem removesHeader_of_exact {w : Nat} {decoder next : FrameMuxStreamDecoder}
    {out : List Item} (runs : readFrame w decoder = some (out, next))
    (exact : frameHeaderSize + FrameCodec.lengthField decoder.buffer < 2 ^ w) :
    RemovesHeader decoder next := by
  obtain ⟨-, complete, bufferEq⟩ := readFrame_removes runs
  rw [usizeAdd_eq exact] at complete bufferEq
  rw [RemovesHeader, bufferEq, List.length_drop]
  omega

/-- A sum that wraps is less than a header. -/
theorem usizeAdd_of_wraps {w : Nat} (wide : 32 ≤ w) {buf : List UInt8}
    (wraps : 2 ^ w ≤ frameHeaderSize + FrameCodec.lengthField buf) :
    usizeAdd w frameHeaderSize (FrameCodec.lengthField buf) =
        frameHeaderSize + FrameCodec.lengthField buf - 2 ^ w ∧
      usizeAdd w frameHeaderSize (FrameCodec.lengthField buf) < frameHeaderSize := by
  have field := FrameCodec.lengthField_lt buf
  have powers : 2 ^ 32 ≤ 2 ^ w := Nat.pow_le_pow_right (by decide) wide
  have wrapped : usizeAdd w frameHeaderSize (FrameCodec.lengthField buf) =
      frameHeaderSize + FrameCodec.lengthField buf - 2 ^ w := by
    rw [usizeAdd, Nat.mod_eq_sub_mod wraps]
    apply Nat.mod_eq_of_lt
    simp only [frameHeaderSize] at wraps ⊢
    omega
  constructor
  · exact wrapped
  · rw [wrapped]
    omega

/-- At a length field that makes the sum wrap, an iteration runs and removes less than a
header. -/
theorem not_removesHeader_of_overflows {w : Nat} (wide : 32 ≤ w)
    {decoder : FrameMuxStreamDecoder} (overflows : Overflows w decoder.buffer) :
    ∃ out next, readFrame w decoder = some (out, next) ∧ ¬ RemovesHeader decoder next := by
  obtain ⟨long, wraps, present⟩ := overflows
  obtain ⟨wrapped, short⟩ := usizeAdd_of_wraps wide wraps
  have complete : usizeAdd w frameHeaderSize (FrameCodec.lengthField decoder.buffer) ≤
      decoder.buffer.length := by
    rw [wrapped]
    omega
  obtain ⟨out, next, runs⟩ := exists_readFrame long complete
  refine ⟨out, next, runs, ?_⟩
  obtain ⟨-, -, bufferEq⟩ := readFrame_removes runs
  rw [RemovesHeader, bufferEq, List.length_drop]
  omega

/-- A whole piece whose length is computed exactly is cut off. -/
theorem readFrame_piece {w : Nat} {decoder : FrameMuxStreamDecoder} {piece rest : List UInt8}
    (bufferEq : decoder.buffer = piece ++ rest) (delimited : Delimited piece)
    (exact : frameHeaderSize + FrameCodec.lengthField decoder.buffer < 2 ^ w) :
    ∃ out next, readFrame w decoder = some (out, next) ∧ next.buffer = rest := by
  have field : FrameCodec.lengthField decoder.buffer = FrameCodec.lengthField piece := by
    rw [bufferEq, delimited.lengthField_append]
  have total : usizeAdd w frameHeaderSize (FrameCodec.lengthField decoder.buffer) =
      piece.length := by
    rw [usizeAdd_eq exact, field, ← delimited]
  have long : frameLengthFieldSize ≤ decoder.buffer.length := by
    rw [bufferEq, List.length_append, delimited, frameLengthFieldSize, frameHeaderSize]
    omega
  have complete : usizeAdd w frameHeaderSize (FrameCodec.lengthField decoder.buffer) ≤
      decoder.buffer.length := by
    rw [total, bufferEq, List.length_append]
    omega
  obtain ⟨out, next, runs⟩ := exists_readFrame long complete
  obtain ⟨-, -, nextEq⟩ := readFrame_removes runs
  rw [total, bufferEq, List.drop_left] at nextEq
  exact ⟨out, next, runs, nextEq⟩

/-- Where an iteration runs without wrapping, it cuts off a whole piece. -/
theorem readFrame_cuts {w : Nat} {decoder next : FrameMuxStreamDecoder} {out : List Item}
    (runs : readFrame w decoder = some (out, next))
    (exact : frameHeaderSize + FrameCodec.lengthField decoder.buffer < 2 ^ w) :
    ∃ piece, Delimited piece ∧ decoder.buffer = piece ++ next.buffer := by
  obtain ⟨-, complete, bufferEq⟩ := readFrame_removes runs
  rw [usizeAdd_eq exact] at complete bufferEq
  have split := List.take_append_drop
    (frameHeaderSize + FrameCodec.lengthField decoder.buffer) decoder.buffer
  have long : frameLengthFieldSize ≤ (decoder.buffer.take
      (frameHeaderSize + FrameCodec.lengthField decoder.buffer)).length := by
    rw [List.length_take, min_eq_left complete, frameLengthFieldSize, frameHeaderSize]
    omega
  have field := FrameCodec.lengthField_append _ (decoder.buffer.drop
    (frameHeaderSize + FrameCodec.lengthField decoder.buffer)) long
  rw [split] at field
  refine ⟨_, ?_, by rw [bufferEq, split]⟩
  rw [Delimited, List.length_take, min_eq_left complete, ← field]

theorem exact_of_not_overflows {w : Nat} {decoder next : FrameMuxStreamDecoder}
    {out : List Item} (wide : 32 ≤ w) (runs : readFrame w decoder = some (out, next))
    (fits : ¬ Overflows w decoder.buffer) :
    frameHeaderSize + FrameCodec.lengthField decoder.buffer < 2 ^ w := by
  obtain ⟨long, complete, -⟩ := readFrame_removes runs
  by_contra notExact
  have wraps := Nat.not_lt.mp notExact
  apply fits
  refine ⟨long, wraps, ?_⟩
  rw [(usizeAdd_of_wraps wide wraps).1] at complete
  omega

/-- Without overflow every iteration removes at least a header. -/
theorem throughout_of_neverOverflows {w : Nat} (wide : 32 ≤ w) {decoder : FrameMuxStreamDecoder}
    (never : NeverOverflows w decoder.buffer) :
    Throughout (readFrame w) RemovesHeader decoder := by
  induction sizeEq : decoder.buffer.length using Nat.strong_induction_on
    generalizing decoder with
  | _ size ih =>
      cases runs : readFrame w decoder with
      | none => exact throughout_of_none runs
      | some result =>
          obtain ⟨out, next⟩ := result
          have exact := exact_of_not_overflows wide runs never.front
          have removes := removesHeader_of_exact runs exact
          obtain ⟨piece, delimited, bufferEq⟩ := readFrame_cuts runs exact
          rw [bufferEq] at never
          have smaller : next.buffer.length < size := by
            rw [RemovesHeader, frameHeaderSize] at removes
            omega
          exact throughout_of_some runs removes (ih _ smaller (never.cut delimited) rfl)

/-- An iteration that removes less than a header comes up wherever exact cuts lead to a sum
that wraps. -/
theorem neverOverflows_of_throughout {w : Nat} (wide : 32 ≤ w) {decoder : FrameMuxStreamDecoder}
    (throughout : Throughout (readFrame w) RemovesHeader decoder) :
    NeverOverflows w decoder.buffer := by
  have atFront : ∀ {state : FrameMuxStreamDecoder},
      Throughout (readFrame w) RemovesHeader state → ¬ Overflows w state.buffer := by
    intro state progresses overflows
    obtain ⟨out, next, runs, keeps⟩ := not_removesHeader_of_overflows wide overflows
    exact keeps (progresses.first runs)
  intro pieces rest allDelimited bufferEq
  induction pieces generalizing decoder with
  | nil =>
      have front := atFront throughout
      rw [bufferEq] at front
      exact front
  | cons piece others ih =>
      have delimited := allDelimited piece List.mem_cons_self
      rw [List.flatten_cons, List.append_assoc] at bufferEq
      have exact : frameHeaderSize + FrameCodec.lengthField decoder.buffer < 2 ^ w := by
        by_contra notExact
        apply atFront throughout
        refine ⟨?_, Nat.not_lt.mp notExact, ?_⟩
        · rw [bufferEq, List.length_append, delimited, frameLengthFieldSize, frameHeaderSize]
          omega
        · rw [bufferEq, delimited.lengthField_append, List.length_append, ← delimited]
          exact Nat.le_trans (Nat.le_add_right _ _) (Nat.le_add_left _ _)
      obtain ⟨out, next, runs, nextEq⟩ := readFrame_piece bufferEq delimited exact
      apply ih (throughout.later runs)
      · intro other member
        exact allDelimited other (List.mem_cons_of_mem _ member)
      · exact nextEq

theorem neverOverflows_bits64 (buf : List UInt8) : NeverOverflows 64 buf := by
  rintro pieces rest - - ⟨-, wraps, -⟩
  have field := FrameCodec.lengthField_lt rest
  rw [frameHeaderSize] at wraps
  omega

/-- On every target, every iteration of a read removes at least a header, and so the read
comes to an end, exactly when the pointers have 64 bits or no length field met in the input
makes the 32-bit sum wrap to a count of bytes that are there. -/
theorem read_progresses_iff (width : PointerWidth) (decoder : FrameMuxStreamDecoder)
    (data : List UInt8) :
    Throughout (readFrame width.bits) RemovesHeader (decoder.feed data) ∧
        Terminates (readFrame width.bits) (decoder.feed data) ↔
      width = .bits64 ∨ NeverOverflows 32 (decoder.buffer ++ data) := by
  have wide : 32 ≤ width.bits := by
    cases width <;> decide
  have lower : ∀ ⦃before after : FrameMuxStreamDecoder⦄, RemovesHeader before after →
      after.buffer.length < before.buffer.length := by
    intro before after removes
    rw [RemovesHeader, frameHeaderSize] at removes
    omega
  have progress : Throughout (readFrame width.bits) RemovesHeader (decoder.feed data) ↔
      NeverOverflows width.bits (decoder.feed data).buffer := by
    constructor
    · exact neverOverflows_of_throughout wide
    · exact throughout_of_neverOverflows wide
  rw [and_iff_left_of_imp (Throughout.terminates lower), progress]
  cases width with
  | bits64 => exact iff_of_true (neverOverflows_bits64 _) (Or.inl rfl)
  | bits32 =>
      constructor
      · exact Or.inr
      · rintro (impossible | never)
        · contradiction
        · exact never

/-- With 32-bit pointers the length field `2 ^ 32 - 13` makes the loop report an incomplete
header for ever and leave the buffer as it is. -/
theorem read_stuck_bits32 :
    let decoder := new.feed [0xf3, 0xff, 0xff, 0xff]
    readFrame PointerWidth.bits32.bits decoder = some ([.error .incompleteHeader], decoder) ∧
      ¬ Terminates (readFrame PointerWidth.bits32.bits) decoder := by
  intro decoder
  have noBytes : usizeAdd PointerWidth.bits32.bits frameHeaderSize
      (FrameCodec.lengthField decoder.buffer) = 0 := by
    decide
  have stuck : readFrame PointerWidth.bits32.bits decoder =
      some ([.error .incompleteHeader], decoder) := by
    unfold readFrame
    simp only [noBytes]
    rfl
  constructor
  · exact stuck
  · rintro ⟨iterations, declines⟩
    have same : (drain (readFrame PointerWidth.bits32.bits) iterations decoder).2 = decoder := by
      induction iterations with
      | zero => rfl
      | succ iterations ih =>
          rw [drain_succ_of_some stuck]
          apply ih
          rw [drain_succ_of_some stuck] at declines
          exact declines
    rw [same, stuck] at declines
    contradiction

end FrameMuxStreamDecoder

end Muxio.Framing
