import Muxio.Framing.Leftovers
import Muxio.Rpc.Lifetime

/-!
# What a lost connection leaves behind

`fail_all_pending_requests` settles every call and empties the request queue.  It does
not touch the read path: the bytes of an unfinished frame, the streams under
reassembly and the stream decoders stay as the old connection left them.

Reads of a new connection then yield what a new dispatcher would yield exactly when
the read path is as new.  Each kind of leftover shows in some reads.
-/

namespace Muxio.Rpc

open Std
open Muxio.Framing
open Muxio.Transition

universe u

/-! ## Stream decoders between reads -/

namespace RpcStreamDecoder

/-- A stored stream decoder waits for the rest of its header, or knows its header. -/
def Settled (decoder : RpcStreamDecoder) : Prop :=
  (decoder.state = .awaitHeader ∧ (decoder.buffer = [] → decoder = new)) ∨
    ∃ header, Streaming header decoder

theorem new_settled : new.Settled :=
  .inl ⟨rfl, fun _ => rfl⟩

end RpcStreamDecoder

namespace RpcSession

theorem decodeEntry_settled {entry : Option RpcStreamDecoder}
    (settled : (entry.getD RpcStreamDecoder.new).Settled) (frame : DecodedFrame) :
    ((decodeEntry entry frame).2.getD RpcStreamDecoder.new).Settled := by
  generalize decoderEq : entry.getD RpcStreamDecoder.new = decoder at settled
  have kept : ∀ {events : List RpcStreamEvent} {next : RpcStreamDecoder},
      decoder.decodeRpcFrame frame = (.ok events, next) → next.Settled →
        ((decodeEntry entry frame).2.getD RpcStreamDecoder.new).Settled := by
    intro events next decoded settled
    rw [decodeEntry, decoderEq, decoded]
    dsimp only
    split
    · exact RpcStreamDecoder.new_settled
    · exact settled
  have removed : ∀ {error : FrameDecodeError} {next : RpcStreamDecoder},
      decoder.decodeRpcFrame frame = (.error error, next) →
        ((decodeEntry entry frame).2.getD RpcStreamDecoder.new).Settled := by
    intro error next decoded
    rw [decodeEntry, decoderEq, decoded]
    exact RpcStreamDecoder.new_settled
  rcases settled with ⟨awaiting, unread⟩ | ⟨header, streaming⟩
  · have decodes : decoder.decodeRpcFrame frame = decoder.decodeHeaderFrame frame := by
      rw [RpcStreamDecoder.decodeRpcFrame, awaiting]
    rcases decoder.decodeHeaderFrame_cases frame with
      ⟨next, decoded⟩ | ⟨next, decoded, stays, buffer, idle, -⟩ |
      ⟨header, rest, next, decoded, -, reads⟩
    · exact removed (decodes.trans decoded)
    · refine kept (decodes.trans decoded) (.inl ⟨stays.trans awaiting, fun empty => ?_⟩)
      rw [idle empty]
      rw [buffer] at empty
      exact unread (List.append_eq_nil_iff.mp empty).1
    · exact kept (decodes.trans decoded) (.inr ⟨header, reads⟩)
  · by_cases isEnd : frame.inner.kind = .end
    · rcases answer : decoder.decodeRpcFrame frame with ⟨result, next⟩
      have decoded : result = .ok [header.endEvent] := by
        rw [← streaming.decode_end isEnd, answer]
      rw [decodeEntry, decoderEq, answer, decoded]
      dsimp only
      rw [if_pos (.inr (.inr isEnd))]
      exact RpcStreamDecoder.new_settled
    · by_cases isCancel : frame.inner.kind = .cancel
      · exact removed (streaming.decode_cancel isCancel)
      · exact kept (streaming.decode_data isEnd isCancel) (.inr ⟨header, streaming⟩)

/-- Every stream decoder of the table is between reads. -/
def DecodersSettled (decoders : Decoders) : Prop :=
  ∀ streamId : UInt32, (decoders[streamId]?.getD RpcStreamDecoder.new).Settled

theorem setEntry_settled {decoders : Decoders} (settled : DecodersSettled decoders)
    (frame : DecodedFrame) :
    DecodersSettled (setEntry decoders frame.inner.streamId
      (decodeEntry decoders[frame.inner.streamId]? frame).2) := by
  intro streamId
  rw [getElem?_setEntry]
  split
  · exact decodeEntry_settled (settled _) frame
  · exact settled streamId

theorem decodeItems_settled {decoders : Decoders} (settled : DecodersSettled decoders)
    (items : List Item) : DecodersSettled (decodeItems decoders items).2.2 := by
  induction items generalizing decoders with
  | nil => exact settled
  | cons item rest ih =>
      cases item with
      | error error => exact ih settled
      | ok frame =>
          unfold decodeItems
          dsimp only
          split
          · exact setEntry_settled settled frame
          · exact ih (setEntry_settled settled frame)

/-- A session between reads. -/
structure Settled (session : RpcSession) : Prop where
  frames : session.frameMuxStreamDecoder.Settled
  decoders : DecodersSettled session.rpcStreamDecoders

theorem new_settled (idSpace : IdSpace) (handedOut : Nat) :
    (new idSpace handedOut).1.Settled where
  frames := FrameMuxStreamDecoder.new_settled
  decoders := by
    intro streamId
    have empty : (∅ : Decoders)[streamId]? = none := ExtTreeMap.getElem?_empty
    have fresh : (new idSpace handedOut).1.rpcStreamDecoders[streamId]? = none := empty
    rw [fresh]
    exact RpcStreamDecoder.new_settled

theorem Settled.decodeBytes {session : RpcSession} (settled : session.Settled)
    (input : List UInt8) : (session.decodeBytes input).2.2.Settled where
  frames := settled.frames.readBytes input
  decoders := decodeItems_settled settled.decoders _

/-! ## Sessions that read alike -/

/-- Sessions that differ at most in which streams they store as new. -/
structure Alike (first second : RpcSession) : Prop where
  frames : first.frameMuxStreamDecoder.Alike second.frameMuxStreamDecoder
  decoders : ∀ streamId : UInt32, first.rpcStreamDecoders[streamId]?.getD RpcStreamDecoder.new =
    second.rpcStreamDecoders[streamId]?.getD RpcStreamDecoder.new

theorem decodeItems_alike {first second : Decoders}
    (alike : ∀ streamId : UInt32, first[streamId]?.getD RpcStreamDecoder.new =
      second[streamId]?.getD RpcStreamDecoder.new) (items : List Item) :
    (decodeItems first items).1 = (decodeItems second items).1 ∧
      (decodeItems first items).2.1 = (decodeItems second items).2.1 ∧
      ∀ streamId : UInt32,
        (decodeItems first items).2.2[streamId]?.getD RpcStreamDecoder.new =
          (decodeItems second items).2.2[streamId]?.getD RpcStreamDecoder.new := by
  induction items generalizing first second with
  | nil => exact ⟨rfl, rfl, alike⟩
  | cons item rest ih =>
      cases item with
      | error error =>
          obtain ⟨events, results⟩ := ih alike
          exact ⟨congrArg (List.cons _) events, results⟩
      | ok frame =>
          have sameStep : decodeEntry first[frame.inner.streamId]? frame =
              decodeEntry second[frame.inner.streamId]? frame := by
            rw [decodeEntry, decodeEntry, alike]
          have sameEvents := congrArg Prod.fst sameStep
          have sameRejection : rejection first[frame.inner.streamId]? frame =
              rejection second[frame.inner.streamId]? frame := by
            rw [rejection, rejection, alike]
          have next : ∀ streamId : UInt32,
              (setEntry first frame.inner.streamId
                (decodeEntry first[frame.inner.streamId]? frame).2)[streamId]?.getD
                  RpcStreamDecoder.new =
              (setEntry second frame.inner.streamId
                (decodeEntry second[frame.inner.streamId]? frame).2)[streamId]?.getD
                  RpcStreamDecoder.new := by
            intro streamId
            rw [getElem?_setEntry, getElem?_setEntry, sameStep]
            split
            · rfl
            · exact alike streamId
          unfold decodeItems
          dsimp only
          rw [sameRejection]
          cases rejection second[frame.inner.streamId]? frame with
          | some error => exact ⟨sameEvents, rfl, next⟩
          | none =>
              obtain ⟨events, results⟩ := ih next
              dsimp only
              rw [events, sameEvents]
              exact ⟨rfl, results⟩

/-- Sessions that are alike yield the same events and results, and stay alike. -/
theorem Alike.decodeBytes {first second : RpcSession} (alike : first.Alike second)
    (input : List UInt8) :
    (first.decodeBytes input).1 = (second.decodeBytes input).1 ∧
      (first.decodeBytes input).2.1 = (second.decodeBytes input).2.1 ∧
      (first.decodeBytes input).2.2.Alike (second.decodeBytes input).2.2 := by
  obtain ⟨items, frames⟩ := alike.frames.readBytes input
  obtain ⟨events, results, decoders⟩ := decodeItems_alike alike.decoders
    (first.frameMuxStreamDecoder.readBytes input).1
  unfold RpcSession.decodeBytes
  dsimp only
  rw [← items]
  exact ⟨events, results, frames, decoders⟩

/-- A session whose read path is as new. -/
structure Clean (session : RpcSession) : Prop where
  bytes : session.frameMuxStreamDecoder.buffer = []
  streams : ∀ streamId : UInt32,
    session.frameMuxStreamDecoder.streams[streamId]?.getD StreamReassembly.fresh =
      StreamReassembly.fresh
  decoders : ∀ streamId : UInt32,
    session.rpcStreamDecoders[streamId]?.getD RpcStreamDecoder.new = RpcStreamDecoder.new

theorem new_clean (idSpace : IdSpace) (handedOut : Nat) : (new idSpace handedOut).1.Clean where
  bytes := rfl
  streams := fun streamId => by
    have empty : (∅ : Streams)[streamId]? = none := ExtTreeMap.getElem?_empty
    exact congrArg (Option.getD · StreamReassembly.fresh) empty
  decoders := fun streamId => by
    have empty : (∅ : Decoders)[streamId]? = none := ExtTreeMap.getElem?_empty
    exact congrArg (Option.getD · RpcStreamDecoder.new) empty

theorem Clean.alike {first second : RpcSession} (clean : first.Clean) (cleanToo : second.Clean) :
    first.Alike second where
  frames := ⟨clean.bytes.trans cleanToo.bytes.symm,
    fun streamId => (clean.streams streamId).trans (cleanToo.streams streamId).symm⟩
  decoders := fun streamId => (clean.decoders streamId).trans (cleanToo.decoders streamId).symm

/-! ## Leftovers show -/

/-- A header that takes part in no call. -/
def probe : RpcHeader := ⟨.call, 0, 0, []⟩

/-- The first frame of a stream, with the probe and data behind it. -/
def probeFrame (streamId : UInt32) (kind : FrameKind) (data : List UInt8) : Frame :=
  ⟨streamId, 0, kind, probe.toBytes ++ data⟩

/-- Enough data to complete any header. -/
def longData : List UInt8 := List.replicate (2 ^ 16 - 1) 0

theorem longData_length : longData.length = 2 ^ 16 - 1 :=
  List.length_replicate

theorem probeFrame_decoded {kind : FrameKind} (notCancel : kind ≠ .cancel) (streamId : UInt32)
    (data : List UInt8) :
    (probeFrame streamId kind data).decoded = ⟨probeFrame streamId kind data, none⟩ := by
  rw [Frame.decoded, Frame.received_eq_self notCancel]

/-- A stream decoder that is as new yields the probe. -/
theorem decodeEntry_probe {entry : Option RpcStreamDecoder}
    (asNew : entry.getD RpcStreamDecoder.new = RpcStreamDecoder.new) {kind : FrameKind}
    (notCancel : kind ≠ .cancel) (streamId : UInt32) (data : List UInt8) :
    ∃ next, RpcStreamDecoder.Streaming probe next ∧
      rejection entry (probeFrame streamId kind data).decoded = none ∧
      decodeEntry entry (probeFrame streamId kind data).decoded =
        (probe.headerEvent :: if data.isEmpty then [] else [probe.chunkEvent data],
          if kind = .end then none else some next) := by
  rw [probeFrame_decoded notCancel]
  have complete : probe.toBytes.length ≤
      (RpcStreamDecoder.new.buffer ++ (probe.toBytes ++ data)).length := by
    rw [List.length_append, List.length_append]
    omega
  obtain ⟨next, decoded, streaming⟩ := @RpcStreamDecoder.decodeHeaderFrame_of_complete probe
    RpcStreamDecoder.new ⟨probeFrame streamId kind data, none⟩ [] data (by decide)
    (List.append_nil _) complete
  have rest : (RpcStreamDecoder.new.buffer ++ (probe.toBytes ++ data)).drop
      probe.toBytes.length = data :=
    List.drop_left
  have decodes : RpcStreamDecoder.new.decodeRpcFrame ⟨probeFrame streamId kind data, none⟩ =
      (.ok (probe.headerEvent :: if data.isEmpty then [] else [probe.chunkEvent data]), next) := by
    rw [← rest]
    exact decoded
  refine ⟨next, streaming, ?_, ?_⟩
  · rw [rejection, asNew, decodes]
  · have noEnd : (probe.headerEvent :: if data.isEmpty then [] else [probe.chunkEvent data]).any
        RpcStreamEvent.isEnd = false := by
      cases data.isEmpty <;> rfl
    have notCanceled : (probeFrame streamId kind data).kind ≠ .cancel := notCancel
    rw [decodeEntry, asNew, decodes]
    simp only [noEnd, Bool.false_eq_true, notCanceled, false_or]
    rfl

/-- A stream decoder that is not as new does not yield the probe first. -/
theorem decodeEntry_busy {entry : Option RpcStreamDecoder}
    (settled : (entry.getD RpcStreamDecoder.new).Settled)
    (busy : entry.getD RpcStreamDecoder.new ≠ RpcStreamDecoder.new) (streamId : UInt32)
    (more : List RpcStreamEvent) :
    (decodeEntry entry (probeFrame streamId .open longData).decoded).1 ++ more ≠
      [probe.headerEvent, probe.chunkEvent longData] := by
  rw [probeFrame_decoded (by decide)]
  generalize decoderEq : entry.getD RpcStreamDecoder.new = decoder at settled busy
  rcases settled with ⟨awaiting, unread⟩ | ⟨header, streaming⟩
  · have partly : decoder.buffer ≠ [] := fun empty => busy (unread empty)
    have positive := List.length_pos_of_ne_nil partly
    have probeLength : probe.toBytes.length = rpcFrameFrameHeaderSize := rfl
    have length : (decoder.buffer ++ (probe.toBytes ++ longData)).length =
        decoder.buffer.length + (rpcFrameFrameHeaderSize + (2 ^ 16 - 1)) := by
      rw [List.length_append, List.length_append, probeLength, longData_length]
    rcases decoder.decodeHeaderFrame_cases ⟨probeFrame streamId .open longData, none⟩ with
      ⟨next, decoded⟩ | ⟨next, -, -, buffer, -, short⟩ | ⟨header, rest, next, decoded, lengths, -⟩
    · have events : (decodeEntry entry ⟨probeFrame streamId .open longData, none⟩).1 =
          [.failure .corruptFrame] := by
        rw [decodeEntry, decoderEq, RpcStreamDecoder.decodeRpcFrame, awaiting]
        dsimp only
        rw [decoded]
      rw [events]
      exact fun same => RpcStreamEvent.noConfusion (List.cons.inj same).1
    · rw [buffer] at short
      have long := length.symm.trans_lt short
      omega
    · have events : (decodeEntry entry ⟨probeFrame streamId .open longData, none⟩).1 =
          header.headerEvent :: if rest.isEmpty then [] else [header.chunkEvent rest] := by
        rw [decodeEntry, decoderEq, RpcStreamDecoder.decodeRpcFrame, awaiting]
        dsimp only
        rw [decoded]
      rw [events]
      intro same
      obtain ⟨headers, chunks⟩ := List.cons.inj same
      obtain rfl : header = probe := by
        injection headers
      have rests : rest = longData := by
        cases rest with
        | nil =>
            rw [probeLength] at lengths
            have shorter := lengths.trans length
            rw [List.length_nil] at shorter
            omega
        | cons byte bytes =>
            injection (List.cons.inj chunks).1
      rw [rests, probeLength, longData_length] at lengths
      have same := lengths.trans length
      omega
  · have notEnd : (probeFrame streamId .open longData).kind ≠ .end := FrameKind.noConfusion
    have notCancel : (probeFrame streamId .open longData).kind ≠ .cancel := FrameKind.noConfusion
    have events : (decodeEntry entry ⟨probeFrame streamId .open longData, none⟩).1 =
        [header.chunkEvent (probe.toBytes ++ longData)] := by
      rw [decodeEntry, decoderEq, streaming.decode_data notEnd notCancel]
      rfl
    rw [events]
    exact fun same => RpcStreamEvent.noConfusion (List.cons.inj same).1

/-- A stream decoder that knows its header makes something of every frame. -/
theorem decodeEntry_streaming {header : RpcHeader} {decoder : RpcStreamDecoder}
    (streaming : RpcStreamDecoder.Streaming header decoder) (frame : DecodedFrame) :
    (decodeEntry (some decoder) frame).1 ≠ [] := by
  unfold decodeEntry
  rw [Option.getD_some]
  by_cases isEnd : frame.inner.kind = .end
  · rcases answer : decoder.decodeRpcFrame frame with ⟨result, next⟩
    have decoded : result = .ok [header.endEvent] := by
      rw [← streaming.decode_end isEnd, answer]
    rw [decoded]
    exact List.cons_ne_nil _ _
  · by_cases isCancel : frame.inner.kind = .cancel
    · rw [streaming.decode_cancel isCancel]
      exact List.cons_ne_nil _ _
    · rw [streaming.decode_data isEnd isCancel]
      exact List.cons_ne_nil _ _

/-- Frames that are all accepted yield no error event. -/
theorem decodeItems_isError {decoders : Decoders} {items : List Item}
    (frames : ∀ item ∈ items, ∃ frame, item = .ok frame)
    (accepted : (decodeItems decoders items).2.1 = .ok ()) :
    ∀ event ∈ (decodeItems decoders items).1, event.isError = false := by
  induction items generalizing decoders with
  | nil => exact fun event member => absurd member List.not_mem_nil
  | cons item rest ih =>
      obtain ⟨frame, rfl⟩ := frames item List.mem_cons_self
      have later := fun item member => frames item (List.mem_cons_of_mem _ member)
      rcases decoded : (decoders[frame.inner.streamId]?.getD RpcStreamDecoder.new).decodeRpcFrame
        frame with ⟨result, next⟩
      cases result with
      | error error =>
          simp only [decodeItems, rejection, decoded] at accepted
          contradiction
      | ok events =>
          simp only [decodeItems, rejection, decodeEntry, decoded] at accepted ⊢
          intro event member
          rcases List.mem_append.mp member with first | others
          · exact RpcStreamDecoder.decodeRpcFrame_isError (congrArg Prod.fst decoded) event first
          · exact ih later accepted event others

/-- Reading one frame when no unfinished one is buffered. -/
theorem decodeBytes_frame {session : RpcSession}
    (bytes : session.frameMuxStreamDecoder.buffer = []) {frame : Frame}
    (fits : frame.payload.length < 2 ^ 32) :
    let accepted := FrameMuxStreamDecoder.acceptFrame session.frameMuxStreamDecoder.streams
      frame.decoded
    let decoded := decodeItems session.rpcStreamDecoders accepted.1
    session.decodeBytes (FrameCodec.encode frame) =
      (decoded.1, decoded.2.1,
        { session with
          frameMuxStreamDecoder := ⟨[], accepted.2⟩
          rpcStreamDecoders := decoded.2.2 }) := by
  intro accepted decoded
  rw [decodeBytes, FrameMuxStreamDecoder.readBytes_encode bytes fits]

/-- Two sessions yield the same events and results in all reads. -/
def Indistinguishable (first second : RpcSession) : Prop :=
  ∀ chunks, (first.decodeChunks chunks).1 = (second.decodeChunks chunks).1 ∧
    (first.decodeChunks chunks).2.1 = (second.decodeChunks chunks).2.1

theorem Alike.indistinguishable {first second : RpcSession} (alike : first.Alike second) :
    first.Indistinguishable second := by
  intro chunks
  induction chunks generalizing first second with
  | nil => exact ⟨rfl, rfl⟩
  | cons chunk rest ih =>
      obtain ⟨events, results, next⟩ := alike.decodeBytes chunk
      obtain ⟨laterEvents, laterResults⟩ := ih next
      unfold decodeChunks
      dsimp only
      rw [events, results, laterEvents, laterResults]
      exact ⟨rfl, rfl⟩

theorem Indistinguishable.decodeBytes {first second : RpcSession}
    (same : first.Indistinguishable second) (input : List UInt8) :
    (first.decodeBytes input).1 = (second.decodeBytes input).1 ∧
      (first.decodeBytes input).2.1 = (second.decodeBytes input).2.1 ∧
      (first.decodeBytes input).2.2.Indistinguishable (second.decodeBytes input).2.2 := by
  have read : ∀ session : RpcSession,
      (session.decodeChunks [input]).1 = (session.decodeBytes input).1 :=
    fun session => List.append_nil _
  obtain ⟨events, results⟩ := same [input]
  rw [read, read] at events
  refine ⟨events, (List.cons.inj results).1, fun chunks => ?_⟩
  obtain ⟨laterEvents, laterResults⟩ := same (input :: chunks)
  unfold decodeChunks at laterEvents laterResults
  dsimp only at laterEvents laterResults
  rw [events] at laterEvents
  exact ⟨List.append_cancel_left laterEvents, (List.cons.inj laterResults).2⟩

theorem probeFrame_fits (streamId : UInt32) (kind : FrameKind) {data : List UInt8}
    (short : data.length < 2 ^ 16) : (probeFrame streamId kind data).payload.length < 2 ^ 32 := by
  have length : (probeFrame streamId kind data).payload.length = 15 + data.length :=
    List.length_append
  omega

theorem longData_short : longData.length < 2 ^ 16 := by
  rw [longData_length]
  omega

theorem decodeBytes_probe {session : RpcSession}
    (bytes : session.frameMuxStreamDecoder.buffer = []) {kind : FrameKind}
    (notCancel : kind ≠ .cancel) (streamId : UInt32) {data : List UInt8}
    (short : data.length < 2 ^ 16) :
    let accepted := StreamReassembly.accept session.frameMuxStreamDecoder.streams[streamId]?
      ⟨probeFrame streamId kind data, none⟩
    let decoded := decodeItems session.rpcStreamDecoders accepted.1
    session.decodeBytes (FrameCodec.encode (probeFrame streamId kind data)) =
      (decoded.1, decoded.2.1,
        { session with
          frameMuxStreamDecoder :=
            ⟨[], setEntry session.frameMuxStreamDecoder.streams streamId accepted.2⟩
          rpcStreamDecoders := decoded.2.2 }) := by
  have read := decodeBytes_frame bytes (probeFrame_fits streamId kind short)
  rw [probeFrame_decoded notCancel] at read
  exact read

/-- A read begins with the events of its first frame. -/
theorem decodeItems_front (decoders : Decoders) (frame : DecodedFrame) (rest : List Item) :
    ∃ more, (decodeItems decoders (.ok frame :: rest)).1 =
      (decodeEntry decoders[frame.inner.streamId]? frame).1 ++ more := by
  unfold decodeItems
  dsimp only
  split
  · exact ⟨[], (List.append_nil _).symm⟩
  · exact ⟨_, rfl⟩

/-- The events of the probe on a stream whose decoder is as new. -/
theorem decodeItems_probe {decoders : Decoders} {streamId : UInt32}
    (asNew : decoders[streamId]?.getD RpcStreamDecoder.new = RpcStreamDecoder.new)
    {kind : FrameKind} (notCancel : kind ≠ .cancel) (data : List UInt8) (rest : List Item) :
    ∃ next, RpcStreamDecoder.Streaming probe next ∧
      let later := decodeItems
        (setEntry decoders streamId (if kind = .end then none else some next)) rest
      decodeItems decoders (.ok ⟨probeFrame streamId kind data, none⟩ :: rest) =
        ((probe.headerEvent :: if data.isEmpty then [] else [probe.chunkEvent data]) ++ later.1,
          later.2) := by
  obtain ⟨next, streaming, accepted, decoded⟩ := decodeEntry_probe asNew notCancel streamId data
  rw [probeFrame_decoded notCancel] at accepted decoded
  refine ⟨next, streaming, ?_⟩
  have onStream : (probeFrame streamId kind data).streamId = streamId := rfl
  simp only [decodeItems, onStream, accepted, decoded]

/-- A clean session yields the probe, and is clean again if that ended the stream. -/
theorem Clean.decodeBytes_probe {fresh : RpcSession} (clean : fresh.Clean) {kind : FrameKind}
    (notCancel : kind ≠ .cancel) (streamId : UInt32) {data : List UInt8}
    (short : data.length < 2 ^ 16) :
    (fresh.decodeBytes (FrameCodec.encode (probeFrame streamId kind data))).1 =
        (probe.headerEvent :: if data.isEmpty then [] else [probe.chunkEvent data]) ∧
      (kind = .end →
        (fresh.decodeBytes (FrameCodec.encode (probeFrame streamId kind data))).2.2.Clean) := by
  have accepted := @StreamReassembly.accept_next fresh.frameMuxStreamDecoder.streams[streamId]?
    ⟨probeFrame streamId kind data, none⟩ (clean.streams streamId) notCancel
  obtain ⟨next, -, decoded⟩ := decodeItems_probe (clean.decoders streamId) notCancel data []
  have read := RpcSession.decodeBytes_probe clean.bytes notCancel streamId short
  rw [accepted] at read
  dsimp only at read decoded
  rw [decoded] at read
  rw [read]
  refine ⟨List.append_nil _, fun isEnd => ⟨rfl, fun other => ?_, fun other => ?_⟩⟩
  · have ended : (probeFrame streamId kind data).kind = .end := isEnd
    dsimp only
    rw [getElem?_setEntry, if_pos ended]
    split
    · rfl
    · exact clean.streams other
  · dsimp only
    rw [decodeItems, getElem?_setEntry, if_pos isEnd]
    split
    · rfl
    · exact clean.decoders other

section Leftovers

variable {session fresh : RpcSession} (settled : session.Settled) (clean : fresh.Clean)
  (same : session.Indistinguishable fresh)

include settled clean same

theorem Indistinguishable.bytes : session.frameMuxStreamDecoder.buffer = [] := by
  apply Classical.byContradiction
  intro unfinished
  have asNew : fresh.frameMuxStreamDecoder.Alike FrameMuxStreamDecoder.new :=
    (clean.alike (new_clean .client 0)).frames
  rcases FrameMuxStreamDecoder.unfinished_frame_shows settled.frames.waiting unfinished with
    ⟨data, shows, hidden⟩ | passed
  · have events := (same.decodeBytes data).1
    unfold RpcSession.decodeBytes at events
    dsimp only at events
    rw [shows, (asNew.readBytes data).1, hidden] at events
    exact List.cons_ne_nil _ _ events
  · obtain ⟨events, results, -⟩ := same.decodeBytes FrameMuxStreamDecoder.unknownFrame
    unfold RpcSession.decodeBytes at events results
    dsimp only at events results
    rw [(asNew.readBytes _).1, FrameMuxStreamDecoder.new_readBytes_unknownFrame] at events results
    have noError := decodeItems_isError passed results
    rw [events] at noError
    exact absurd (noError _ List.mem_cons_self) (by decide)

/-- The first frame of a stream under way is held back. -/
theorem Indistinguishable.nextExpected (streamId : UInt32) :
    (session.frameMuxStreamDecoder.streams[streamId]?.getD
      StreamReassembly.fresh).nextExpected = 0 := by
  apply Classical.byContradiction
  intro underWay
  have notCancel : FrameKind.open ≠ .cancel := FrameKind.noConfusion
  have events := (same.decodeBytes
    (FrameCodec.encode (probeFrame streamId .open longData))).1
  rw [(clean.decodeBytes_probe notCancel streamId longData_short).1,
    decodeBytes_probe (same.bytes settled clean) notCancel streamId longData_short] at events
  have heldBack : (StreamReassembly.accept session.frameMuxStreamDecoder.streams[streamId]?
      ⟨probeFrame streamId .open longData, none⟩).1 = [] :=
    (settled.frames.entries streamId).accept_later notCancel (Ne.symm underWay)
  rw [heldBack] at events
  exact List.cons_ne_nil _ _ events.symm

/-- The first frame of any other stream is passed on, with those that waited for it. -/
theorem Indistinguishable.accept {kind : FrameKind} (notCancel : kind ≠ .cancel)
    (streamId : UInt32) (data : List UInt8) :
    let stream := session.frameMuxStreamDecoder.streams[streamId]?.getD StreamReassembly.fresh
    (StreamReassembly.accept session.frameMuxStreamDecoder.streams[streamId]?
      ⟨probeFrame streamId kind data, none⟩).1 =
        .ok ⟨probeFrame streamId kind data, none⟩ ::
          (stream.advance ⟨probeFrame streamId kind data, none⟩).release.1 :=
  (settled.frames.entries streamId).accept_next notCancel
    (same.nextExpected settled clean streamId).symm

/-- A stream decoder in use takes the first frame of a new stream for something else. -/
theorem Indistinguishable.decoders (streamId : UInt32) :
    session.rpcStreamDecoders[streamId]?.getD RpcStreamDecoder.new = RpcStreamDecoder.new := by
  apply Classical.byContradiction
  intro busy
  have notCancel : FrameKind.open ≠ .cancel := FrameKind.noConfusion
  have events := (same.decodeBytes
    (FrameCodec.encode (probeFrame streamId .open longData))).1
  rw [(clean.decodeBytes_probe notCancel streamId longData_short).1,
    decodeBytes_probe (same.bytes settled clean) notCancel streamId longData_short,
    same.accept settled clean notCancel] at events
  obtain ⟨more, front⟩ := decodeItems_front session.rpcStreamDecoders
    ⟨probeFrame streamId .open longData, none⟩ _
  have shown := decodeEntry_busy (settled.decoders streamId) busy streamId more
  rw [probeFrame_decoded notCancel] at shown
  exact shown (front.symm.trans events)

/-- Frames that wait for the first frame of a new stream are taken for its own. -/
theorem Indistinguishable.streams (streamId : UInt32) :
    session.frameMuxStreamDecoder.streams[streamId]?.getD StreamReassembly.fresh =
      StreamReassembly.fresh := by
  apply Classical.byContradiction
  intro underWay
  have entry := settled.frames.entries streamId
  have waits := same.nextExpected settled clean streamId
  have asNew := same.decoders settled clean streamId
  have bytes := same.bytes settled clean
  cases held : (session.frameMuxStreamDecoder.streams[streamId]?.getD
      StreamReassembly.fresh).buffer[(session.frameMuxStreamDecoder.streams[streamId]?.getD
        StreamReassembly.fresh).nextExpected + 1]? with
  | some other =>
      have notCancel : FrameKind.open ≠ .cancel := FrameKind.noConfusion
      have events := (same.decodeBytes
        (FrameCodec.encode (probeFrame streamId .open longData))).1
      obtain ⟨more, released, onStream⟩ := entry.running.release_advance held
        ⟨probeFrame streamId .open longData, none⟩
      rw [(clean.decodeBytes_probe notCancel streamId longData_short).1,
        decodeBytes_probe bytes notCancel streamId longData_short,
        same.accept settled clean notCancel, released] at events
      obtain ⟨next, streaming, decoded⟩ := decodeItems_probe asNew notCancel longData
        (.ok other :: more)
      dsimp only at decoded events
      rw [decoded] at events
      have nothing := List.append_right_eq_self.mp events
      rw [if_neg FrameKind.noConfusion] at nothing
      obtain ⟨rest, front⟩ := decodeItems_front
        (setEntry session.rpcStreamDecoders streamId (some next)) other more
      rw [nothing, getElem?_setEntry, if_pos onStream.symm] at front
      exact decodeEntry_streaming streaming other (List.append_eq_nil_iff.mp front.symm).1
  | none =>
      have notCancel : FrameKind.end ≠ .cancel := FrameKind.noConfusion
      have later := (same.decodeBytes (FrameCodec.encode (probeFrame streamId .end []))).2.2
      have nextClean := (clean.decodeBytes_probe notCancel streamId
        (List.length_nil.trans_lt (by decide))).2 rfl
      have moved := later.nextExpected (settled.decodeBytes _) nextClean streamId
      have accepted := @StreamReassembly.EntrySettled.accept_only _ _
        ⟨probeFrame streamId .end [], none⟩ entry notCancel waits.symm held
        (entry.buffer_ne_empty underWay waits)
      rw [decodeBytes_probe bytes notCancel streamId (List.length_nil.trans_lt (by decide)),
        accepted] at moved
      dsimp only at moved
      rw [getElem?_setEntry, if_pos rfl, Option.getD_some, StreamReassembly.advance, waits]
        at moved
      have one : (0 : UInt32) + 1 ≠ 0 := by decide
      exact one moved

end Leftovers

/-- Of the sessions between reads, those that read like a clean one are clean. -/
theorem Settled.indistinguishable_iff {session fresh : RpcSession} (settled : session.Settled)
    (clean : fresh.Clean) : session.Indistinguishable fresh ↔ session.Clean := by
  constructor
  · intro same
    exact ⟨same.bytes settled clean, same.streams settled clean, same.decoders settled clean⟩
  · intro cleanToo
    exact (cleanToo.alike clean).indistinguishable

end RpcSession

/-! ## Dispatchers across a reconnection -/

namespace RpcDispatcher

variable {H : Type u}

/-- Dispatchers that route alike and whose sessions are alike. -/
structure Alike (first second : RpcDispatcher H) : Prop where
  session : first.session.Alike second.session
  routing : first.rpcRespondableSession.routing = second.rpcRespondableSession.routing
  router : first.rpcRespondableSession.streamMethodRouter =
    second.rpcRespondableSession.streamMethodRouter
  catchAll : first.rpcRespondableSession.catchAllResponseHandler =
    second.rpcRespondableSession.catchAllResponseHandler
  queue : first.rpcRequestQueue = second.rpcRequestQueue

theorem Alike.readBytes {first second : RpcDispatcher H} (alike : first.Alike second)
    (bytes : List UInt8) :
    (first.readBytes bytes).1 = (second.readBytes bytes).1 ∧
      (first.readBytes bytes).2.1.Alike (second.readBytes bytes).2.1 ∧
      (first.readBytes bytes).2.2 = (second.readBytes bytes).2.2 := by
  obtain ⟨events, results, next⟩ := alike.session.decodeBytes bytes
  have actions : ∀ events, first.actionsOf events = second.actionsOf events := by
    intro events
    rw [actionsOf, actionsOf, alike.routing, alike.router, alike.catchAll]
  rw [readBytes_eq, readBytes_eq, events, results, actions, alike.queue]
  refine ⟨rfl, ⟨next, ?_, alike.router, alike.catchAll, ?_⟩, rfl⟩
  · exact congrArg Prod.fst (actions _)
  · rw [afterEvents, afterEvents, actions, alike.queue]

/-- Two dispatchers do the same in a sequence of reads: they raise the same events,
return the same results, call the same handlers and queue the same requests. -/
structure SameReads (first second : RpcDispatcher H) (chunks : List (List UInt8)) : Prop where
  events : (first.session.decodeChunks chunks).1 = (second.session.decodeChunks chunks).1
  results : (first.readChunks chunks).1 = (second.readChunks chunks).1
  actions : (first.readChunks chunks).2.2 = (second.readChunks chunks).2.2
  queue : (first.readChunks chunks).2.1.rpcRequestQueue =
    (second.readChunks chunks).2.1.rpcRequestQueue

theorem Alike.sameReads {first second : RpcDispatcher H} (alike : first.Alike second)
    (chunks : List (List UInt8)) : first.SameReads second chunks := by
  have events := (alike.session.indistinguishable chunks).1
  suffices reads : (first.readChunks chunks).1 = (second.readChunks chunks).1 ∧
      (first.readChunks chunks).2.2 = (second.readChunks chunks).2.2 ∧
      (first.readChunks chunks).2.1.rpcRequestQueue =
        (second.readChunks chunks).2.1.rpcRequestQueue from
    ⟨events, reads.1, reads.2.1, reads.2.2⟩
  clear events
  induction chunks generalizing first second with
  | nil => exact ⟨rfl, rfl, alike.queue⟩
  | cons chunk rest ih =>
      obtain ⟨results, next, actions⟩ := alike.readBytes chunk
      obtain ⟨laterResults, laterActions, queue⟩ := ih next
      unfold readChunks
      dsimp only
      rw [results, actions, laterResults, laterActions]
      exact ⟨rfl, rfl, queue⟩

theorem SameReads.results_unit {first second : RpcDispatcher H} {chunks : List (List UInt8)}
    (same : first.SameReads second chunks) :
    (first.session.decodeChunks chunks).2.1 = (second.session.decodeChunks chunks).2.1 := by
  rw [← (first.readChunks_eq chunks).1, same.results, (second.readChunks_eq chunks).1]

/-- A new dispatcher for the same end of the connection, with the same router. -/
def replacement (dispatcher : RpcDispatcher H) (handedOut : Nat) : RpcDispatcher H :=
  let fresh := (newWithIdSpace dispatcher.idSpace handedOut).1
  match dispatcher.rpcRespondableSession.streamMethodRouter with
  | none => fresh
  | some router => fresh.setStreamMethodRouter router

theorem replacement_eq (dispatcher : RpcDispatcher H) (handedOut : Nat) :
    let fresh := (newWithIdSpace dispatcher.idSpace handedOut).1
    dispatcher.replacement handedOut =
      { fresh with
        rpcRespondableSession :=
          { fresh.rpcRespondableSession with
            streamMethodRouter := dispatcher.rpcRespondableSession.streamMethodRouter } } := by
  unfold replacement
  cases dispatcher.rpcRespondableSession.streamMethodRouter with
  | none => rfl
  | some router => rfl

end RpcDispatcher

namespace Lifetime

variable {H : Type u}

/-- Between steps the session is between reads, and the catch-all handler stays. -/
structure ReadReady (life : Lifetime H) : Prop where
  session : life.dispatcher.session.Settled
  catchAll : life.dispatcher.rpcRespondableSession.catchAllResponseHandler = true

theorem new_readReady (idSpace : IdSpace) (start : Nat) :
    (new idSpace start : Lifetime H).ReadReady where
  session := RpcSession.new_settled idSpace start
  catchAll := rfl

theorem ReadReady.step {life : Lifetime H} (ready : life.ReadReady) (handedOut : Nat)
    (step : DispatcherStep H) : (life.step handedOut step).1.ReadReady := by
  cases step with
  | readBytes bytes =>
      have read := life.dispatcher.readBytes_eq bytes
      constructor
      · rw [Lifetime.step, after, read]
        exact ready.session.decodeBytes bytes
      · rw [Lifetime.step, after, read]
        exact ready.catchAll
  | _ => exact ⟨⟨ready.session.frames, ready.session.decoders⟩, ready.catchAll⟩

theorem ReadReady.run {life : Lifetime H} (ready : life.ReadReady) (handedOut : Nat)
    (steps : List (DispatcherStep H)) : (life.run handedOut steps).1.ReadReady := by
  induction steps generalizing life handedOut with
  | nil => exact ready
  | cons first rest ih => exact ih (ready.step handedOut first) _

/-- After a lost connection, a dispatcher reads what a new one would read exactly when
the old connection left the read path as new: no bytes of an unfinished frame, no stream
under reassembly, no stream decoder in use. -/
theorem reads_like_new_iff (idSpace : IdSpace) (start : Nat) (steps : List (DispatcherStep H))
    (error : FrameDecodeError) (handedOut : Nat) :
    let life := ((new idSpace start : Lifetime H).run (start + 2) steps).1
    let failed := (life.dispatcher.failAllPendingRequests error).1
    (∀ chunks, failed.SameReads (life.dispatcher.replacement handedOut) chunks) ↔
      life.dispatcher.session.Clean := by
  intro life failed
  have ready : life.ReadReady := (new_readReady idSpace start).run (start + 2) steps
  have asNew := life.dispatcher.replacement_eq handedOut
  have fresh : (life.dispatcher.replacement handedOut).session.Clean := by
    rw [asNew]
    exact RpcSession.new_clean _ _
  constructor
  · intro same
    have indistinguishable : failed.session.Indistinguishable
        (life.dispatcher.replacement handedOut).session :=
      fun chunks => ⟨(same chunks).events, (same chunks).results_unit⟩
    exact (ready.session.indistinguishable_iff fresh).mp indistinguishable
  · intro clean
    apply RpcDispatcher.Alike.sameReads
    refine ⟨clean.alike fresh, ?_, ?_, ?_, ?_⟩
    · rw [asNew]
      rfl
    · rw [asNew]
      rfl
    · rw [asNew]
      exact ready.catchAll
    · rw [asNew]
      rfl

/-- A connection that is lost after one byte of a frame.  The byte stays in the buffer
and shifts all that the new connection sends: a request that a new dispatcher queues
is not seen. -/
theorem lost_byte_shifts_reads :
    let life := ((new .client 0 : Lifetime Unit).run 2 [.readBytes [0]]).1
    let failed := (life.dispatcher.failAllPendingRequests .readAfterCancel).1
    let fresh := life.dispatcher.replacement 2
    let request := FrameCodec.encode ⟨2, 0, .open, (RpcHeader.mk .call 7 5 []).toBytes⟩
    (failed.session.decodeChunks [request]).1 = [] ∧
      (fresh.session.decodeChunks [request]).1 = [(RpcHeader.mk .call 7 5 []).headerEvent] ∧
      (failed.readChunks [request]).1 = [.ok []] ∧
      (fresh.readChunks [request]).1 = [.ok [7]] ∧
      (failed.readChunks [request]).2.1.rpcRequestQueue = [] ∧
      (fresh.readChunks [request]).2.1.rpcRequestQueue = [(7, ⟨5, none, none, false⟩)] := by
  decide

end Lifetime

end Muxio.Rpc
