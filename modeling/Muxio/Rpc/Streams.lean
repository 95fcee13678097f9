import Muxio.Framing.Delivery
import Muxio.Rpc.Session

/-!
# Whole RPC streams through a session

The frames of one stream, decoded in sequence, give the events described by
`RpcHeader.openEvents` and `RpcHeader.closedEvents`.  Streams do not interfere,
so a read whose frames are all accepted delivers an interleaving of the events
of its streams.

For a single stream this settles the streaming round trip: it holds exactly when
the end frame is empty, that is when the bytes written since the last flush fill
whole chunks.
-/

namespace Muxio.Rpc

open Std
open Muxio.Framing
open Muxio.Transition

/-! ## One stream -/

namespace RpcHeader

/-- The events of an unfinished stream all name its request, and none ends it. -/
theorem mem_openEvents {header : RpcHeader} {payloads : List (List UInt8)}
    {event : RpcStreamEvent} (member : event ∈ header.openEvents payloads) :
    event.isEnd = false ∧ event.isError = false ∧
      event.requestId = some header.rpcRequestId ∧ event.rpcHeader = some header := by
  unfold openEvents at member
  split at member
  · contradiction
  · rcases List.mem_cons.mp member with rfl | later
    · exact ⟨rfl, rfl, rfl, rfl⟩
    · rcases List.mem_map.mp later with ⟨piece, -, rfl⟩
      exact ⟨rfl, rfl, rfl, rfl⟩

/-- The events of a closed stream all name its request. -/
theorem mem_closedEvents {header : RpcHeader} {payloads : List (List UInt8)} {last : List UInt8}
    {event : RpcStreamEvent} (member : event ∈ header.closedEvents payloads last) :
    event.isError = false ∧ event.requestId = some header.rpcRequestId ∧
      event.rpcHeader = some header := by
  unfold closedEvents at member
  split at member
  · exact (mem_openEvents member).2
  · rcases List.mem_append.mp member with early | late
    · exact (mem_openEvents early).2
    · rw [List.mem_singleton.mp late]
      exact ⟨rfl, rfl, rfl⟩

/-- Frames that carry the whole header lead to its event and to chunks with the rest of
their bytes. -/
theorem openEvents_flushed {header : RpcHeader} {payloads : List (List UInt8)}
    {data : List UInt8} (writtenEq : header.toBytes ++ data = payloads.flatten) :
    ∃ chunks : List (List UInt8), pieces header.toBytes.length payloads = some chunks ∧
      header.openEvents payloads = header.headerEvent :: chunks.map header.chunkEvent ∧
      header.closedEvents payloads [] = header.streamEvents chunks ∧ chunks.flatten = data := by
  cases complete : pieces header.toBytes.length payloads with
  | none =>
      have short := (pieces_eq_none_iff header.toBytes_pos payloads).mp complete
      rw [← writtenEq, List.length_append] at short
      omega
  | some kept =>
      refine ⟨kept, rfl, ?_, ?_, ?_⟩
      · simp only [openEvents, complete]
      · simp only [closedEvents, openEvents, complete, streamEvents]
      · rw [pieces_flatten complete, ← writtenEq, List.drop_left]

/-- A closed stream with an empty end frame has the events of a whole message. -/
theorem closedEvents_flushed {header : RpcHeader} {payloads : List (List UInt8)}
    {data : List UInt8} (writtenEq : header.toBytes ++ data = payloads.flatten)
    (nonempty : ∀ payload ∈ payloads, payload ≠ []) :
    ∃ chunks : List (List UInt8), header.closedEvents payloads [] = header.streamEvents chunks ∧
      chunks.flatten = data ∧ ∀ chunk ∈ chunks, chunk ≠ [] := by
  obtain ⟨chunks, complete, -, closes, flattens⟩ := openEvents_flushed writtenEq
  exact ⟨chunks, closes, flattens, pieces_ne_nil complete nonempty⟩

end RpcHeader

/-- The payloads of a list of frames. -/
def payloadsOf (frames : List DecodedFrame) : List (List UInt8) :=
  frames.map fun frame => frame.inner.payload

namespace RpcSession

/-- Open and data frames, decoded in sequence. -/
theorem runEntry_open {header : RpcHeader} (fits : header.Fits) {frames : List DecodedFrame}
    (plain : ∀ frame ∈ frames, frame.inner.kind ≠ .end ∧ frame.inner.kind ≠ .cancel)
    {before : List (List UInt8)} {entry : Option RpcStreamDecoder}
    (stands : RpcStreamDecoder.Stands header before (entry.getD RpcStreamDecoder.new))
    {tail data : List UInt8}
    (agrees : (before ++ payloadsOf frames).flatten ++ tail = header.toBytes ++ data) :
    header.openEvents (before ++ payloadsOf frames) =
        header.openEvents before ++ (runEntry decodeEntry entry frames).1 ∧
      RpcStreamDecoder.Stands header (before ++ payloadsOf frames)
        ((runEntry decodeEntry entry frames).2.getD RpcStreamDecoder.new) := by
  induction frames generalizing before entry with
  | nil => simpa [payloadsOf] using stands
  | cons frame rest ih =>
      rcases plain frame List.mem_cons_self with ⟨notEnd, notCancel⟩
      have split : before ++ payloadsOf (frame :: rest) =
          (before ++ [frame.inner.payload]) ++ payloadsOf rest := by
        simp [payloadsOf]
      rw [split] at agrees ⊢
      have firstAgrees : (before ++ [frame.inner.payload]).flatten ++
          ((payloadsOf rest).flatten ++ tail) = header.toBytes ++ data := by
        rw [← agrees]
        simp only [List.flatten_append, List.append_assoc]
      rcases stands.decode_data fits notEnd notCancel firstAgrees with
        ⟨events, next, decoded, eventsEq, standsNext⟩
      have noEnd : events.any RpcStreamEvent.isEnd = false := by
        rw [List.any_eq_false]
        intro event member
        have inStream : event ∈ header.openEvents (before ++ [frame.inner.payload]) := by
          rw [eventsEq]
          exact List.mem_append_right _ member
        simp [(RpcHeader.mem_openEvents inStream).1]
      have step : decodeEntry entry frame = (events, some next) := by
        simp [decodeEntry, decoded, noEnd, notEnd, notCancel]
      have nextStands : RpcStreamDecoder.Stands header (before ++ [frame.inner.payload])
          ((some next).getD RpcStreamDecoder.new) := standsNext
      rcases ih (fun other member => plain other (List.mem_cons_of_mem _ member)) nextStands
        agrees with ⟨restEvents, restStands⟩
      rw [runEntry_cons, step]
      refine ⟨?_, restStands⟩
      rw [restEvents, eventsEq, List.append_assoc]

/-- A stream that has just been opened. -/
theorem runEntry_open_new {header : RpcHeader} (fits : header.Fits) {frames : List DecodedFrame}
    (plain : ∀ frame ∈ frames, frame.inner.kind ≠ .end ∧ frame.inner.kind ≠ .cancel)
    {tail data : List UInt8}
    (agrees : (payloadsOf frames).flatten ++ tail = header.toBytes ++ data) :
    (runEntry decodeEntry none frames).1 = header.openEvents (payloadsOf frames) ∧
      RpcStreamDecoder.Stands header (payloadsOf frames)
        ((runEntry decodeEntry none frames).2.getD RpcStreamDecoder.new) := by
  have fresh : RpcStreamDecoder.Stands header []
      ((none : Option RpcStreamDecoder).getD RpcStreamDecoder.new) :=
    RpcStreamDecoder.new_stands header
  rcases runEntry_open fits plain fresh agrees with ⟨eventsEq, stands⟩
  exact ⟨eventsEq.symm, stands⟩

/-- A whole stream, decoded in sequence, gives its events and is forgotten. -/
theorem runEntry_closed {header : RpcHeader} (fits : header.Fits) {frames : List DecodedFrame}
    (plain : ∀ frame ∈ frames, frame.inner.kind ≠ .end ∧ frame.inner.kind ≠ .cancel)
    {last : DecodedFrame} (isEnd : last.inner.kind = .end) {data : List UInt8}
    (agrees : (payloadsOf frames).flatten ++ last.inner.payload = header.toBytes ++ data) :
    runEntry decodeEntry none (frames ++ [last]) =
      (header.closedEvents (payloadsOf frames) last.inner.payload, none) := by
  rcases runEntry_open_new fits plain agrees with ⟨openEq, stands⟩
  have endAgrees : (payloadsOf frames ++ [last.inner.payload]).flatten ++ [] =
      header.toBytes ++ data := by
    rw [← agrees]
    simp
  rcases stands.decode_end fits isEnd endAgrees with ⟨events, decoded, closedEq⟩
  have step : decodeEntry (runEntry decodeEntry none frames).2 last = (events, none) := by
    rcases whole : (((runEntry decodeEntry none frames).2.getD
      RpcStreamDecoder.new).decodeRpcFrame last) with ⟨result, next⟩
    rw [whole] at decoded
    simp only at decoded
    subst decoded
    simp [decodeEntry, whole, isEnd]
  rw [runEntry_append, runEntry_cons, runEntry_nil, step, openEq, closedEq, List.append_nil]

section Frames

variable {header : RpcHeader} {payloads : List (List UInt8)} {data : List UInt8}
  (streamId : UInt32)

private theorem payloadsOf_framesFrom (payloads : List (List UInt8)) :
    payloadsOf ((framesFrom streamId 0 .open payloads).map fun frame => ⟨frame, none⟩) =
      payloads := by
  rw [payloadsOf, List.map_map]
  exact framesFrom_payloads streamId 0 .open payloads

private theorem framesFrom_plain (payloads : List (List UInt8)) :
    ∀ frame ∈ (framesFrom streamId 0 .open payloads).map
      fun frame => (⟨frame, none⟩ : DecodedFrame),
      frame.inner.kind ≠ .end ∧ frame.inner.kind ≠ .cancel := by
  intro frame member
  rcases List.mem_map.mp member with ⟨sent, sentMem, rfl⟩
  exact mem_framesFrom sentMem

/-- The first chunks an encoder emits decode to the events of an unfinished stream. -/
theorem runEntry_framesFrom (fits : header.Fits) {tail : List UInt8}
    (agrees : payloads.flatten ++ tail = header.toBytes ++ data) :
    (runEntry decodeEntry none ((framesFrom streamId 0 .open payloads).map
      fun frame => ⟨frame, none⟩)).1 = header.openEvents payloads := by
  rw [← payloadsOf_framesFrom streamId payloads] at agrees
  have run := (runEntry_open_new fits (framesFrom_plain streamId payloads) agrees).1
  rw [payloadsOf_framesFrom] at run
  exact run

/-- The frames of a closed stream decode to its events. -/
theorem runEntry_streamFrames (fits : header.Fits) {last : List UInt8}
    (agrees : payloads.flatten ++ last = header.toBytes ++ data) :
    runEntry decodeEntry none ((streamFrames streamId payloads last).map
      fun frame => ⟨frame, none⟩) = (header.closedEvents payloads last, none) := by
  rw [← payloadsOf_framesFrom streamId payloads] at agrees
  have run := runEntry_closed fits (framesFrom_plain streamId payloads)
    (show (⟨⟨streamId, UInt32.ofNat payloads.length, .end, last⟩, none⟩ :
      DecodedFrame).inner.kind = .end from rfl) agrees
  rw [payloadsOf_framesFrom] at run
  rw [streamFrames, List.map_append]
  exact run

end Frames

/-! ## Reads without errors -/

/-- A frame whose events contain no error is accepted. -/
theorem rejection_eq_none {entry : Option RpcStreamDecoder} {frame : DecodedFrame}
    (noError : ∀ event ∈ (decodeEntry entry frame).1, event.isError = false) :
    rejection entry frame = none := by
  rcases decoded : (entry.getD RpcStreamDecoder.new).decodeRpcFrame frame with ⟨result, next⟩
  cases result with
  | ok events => simp only [rejection, decoded]
  | error error =>
      have failed := noError (.failure error) (by simp [decodeEntry, decoded])
      contradiction

theorem decodeItems_of_no_error {decoders : Decoders} {items : List Item}
    (noError : ∀ event ∈ (decodeAll decoders items).1, event.isError = false) :
    decodeItems decoders items =
      ((decodeAll decoders items).1, .ok (), (decodeAll decoders items).2) := by
  induction items generalizing decoders with
  | nil => rfl
  | cons item rest ih =>
      cases item with
      | error error =>
          have failed := noError (.failure error) List.mem_cons_self
          contradiction
      | ok frame =>
          simp only [decodeAll] at noError
          have accepted : rejection decoders[frame.inner.streamId]? frame = none :=
            rejection_eq_none fun event member => noError event (List.mem_append_left _ member)
          have later := ih fun event member => noError event (List.mem_append_right _ member)
          simp only [decodeItems, decodeAll, accepted, later]

/-- Reads whose events contain no error all succeed, and deliver the events of
their items in order. -/
theorem decodeChunks_of_no_error {session : RpcSession} {chunks : List (List UInt8)}
    (noError : ∀ event ∈ (decodeAll session.rpcStreamDecoders
      (session.frameMuxStreamDecoder.readChunks chunks).1).1, event.isError = false) :
    session.decodeChunks chunks =
      ((decodeAll session.rpcStreamDecoders
          (session.frameMuxStreamDecoder.readChunks chunks).1).1,
        List.replicate chunks.length (.ok ()),
        { session with
          frameMuxStreamDecoder := (session.frameMuxStreamDecoder.readChunks chunks).2
          rpcStreamDecoders := (decodeAll session.rpcStreamDecoders
            (session.frameMuxStreamDecoder.readChunks chunks).1).2 }) := by
  induction chunks generalizing session with
  | nil => rfl
  | cons chunk rest ih =>
      have items : session.frameMuxStreamDecoder.readChunks (chunk :: rest) =
          ((session.frameMuxStreamDecoder.readBytes chunk).1 ++
              ((session.frameMuxStreamDecoder.readBytes chunk).2.readChunks rest).1,
            ((session.frameMuxStreamDecoder.readBytes chunk).2.readChunks rest).2) := rfl
      rw [items] at noError ⊢
      simp only [decodeAll_append] at noError ⊢
      have first := decodeItems_of_no_error fun event member =>
        noError event (List.mem_append_left _ member)
      have read : session.decodeBytes chunk =
          ((decodeAll session.rpcStreamDecoders
              (session.frameMuxStreamDecoder.readBytes chunk).1).1, .ok (),
            { session with
              frameMuxStreamDecoder := (session.frameMuxStreamDecoder.readBytes chunk).2
              rpcStreamDecoders := (decodeAll session.rpcStreamDecoders
                (session.frameMuxStreamDecoder.readBytes chunk).1).2 }) := by
        simp only [decodeBytes, first]
      rw [decodeChunks, read]
      simp only
      rw [ih fun event member => noError event (List.mem_append_right _ member)]
      rfl

/-- Frames in sequence are demultiplexed over the stream decoders. -/
theorem decodeAll_frames (decoders : Decoders) (frames : List DecodedFrame) :
    decodeAll decoders (frames.map Except.ok) =
      ((demux decodeEntry (fun frame => frame.inner.streamId) decoders frames).1.map Prod.snd,
        (demux decodeEntry (fun frame => frame.inner.streamId) decoders frames).2) := by
  induction frames generalizing decoders with
  | nil => rfl
  | cons frame rest ih =>
      rw [List.map_cons, decodeAll, ih, demux_cons]
      simp [List.map_map, Function.comp_def]

end RpcSession

/-! ## Families of RPC streams -/

/-- One RPC message: `RpcStreamEncoder::new`, writes and flushes, then
`end_stream`. -/
structure RpcScript where
  streamId : UInt32
  maxChunkSize : Nat
  header : RpcHeader
  ops : List WriteOp
  positive : 0 < maxChunkSize
  bounded : maxChunkSize < 2 ^ 32
  fits : header.Fits
  few : (WriteOp.emitStream streamId maxChunkSize
    (.writeBytes header.toBytes :: ops)).length < 2 ^ 32

namespace RpcScript

/-- The frame-level script of a message. -/
def toStreamScript (script : RpcScript) : StreamScript where
  streamId := script.streamId
  maxChunkSize := script.maxChunkSize
  ops := .writeBytes script.header.toBytes :: script.ops
  positive := script.positive
  bounded := script.bounded
  few := script.few

/-- The frames emitted for a message, in order. -/
def frames (script : RpcScript) : List Frame :=
  let opened := RpcStreamEncoder.new script.streamId script.maxChunkSize script.header
  let writes := WriteOp.applyAll opened.encoder script.ops
  opened.frames ++ writes.1 ++ writes.2.endStream.frames

theorem frames_eq_toStreamScript (script : RpcScript) :
    script.frames = script.toStreamScript.frames := by
  rw [frames, StreamScript.frames, WriteOp.emitStream, toStreamScript, WriteOp.applyAll]
  rfl

/-- A message is cut into nonempty chunks, and the end frame carries what
remains of the bytes since the last flush. -/
theorem frames_eq (script : RpcScript) :
    ∃ payloads last, script.frames = streamFrames script.streamId payloads last ∧
      script.header.toBytes ++ WriteOp.written script.ops = payloads.flatten ++ last ∧
      last.length = WriteOp.unflushed script.header.toBytes.length script.ops %
        script.maxChunkSize ∧
      ∀ payload ∈ payloads, payload ≠ [] := by
  rcases script.toStreamScript.frames_eq with
    ⟨payloads, last, framesEq, writtenEq, lastLength, nonempty, -, -⟩
  refine ⟨payloads, last, script.frames_eq_toStreamScript.trans framesEq, ?_, ?_, nonempty⟩
  · rw [← writtenEq]
    rfl
  · rw [lastLength, toStreamScript, WriteOp.unflushed, Nat.zero_add]

/-- What reading a message delivers. -/
def events (script : RpcScript) : List RpcStreamEvent :=
  script.header.closedEvents (script.frames.dropLast.map Frame.payload)
    ((script.frames.getLast?.map Frame.payload).getD [])

theorem events_eq {script : RpcScript} {payloads : List (List UInt8)} {last : List UInt8}
    (framesEq : script.frames = streamFrames script.streamId payloads last) :
    script.events = script.header.closedEvents payloads last := by
  rw [events, framesEq, streamFrames, List.dropLast_concat, framesFrom_payloads]
  simp

/-- The stream decoder makes the events of a message out of its frames. -/
theorem runEntry_frames (script : RpcScript) :
    runEntry RpcSession.decodeEntry none (script.frames.map fun frame => ⟨frame, none⟩) =
      (script.events, none) := by
  rcases script.frames_eq with ⟨payloads, last, framesEq, writtenEq, -, -⟩
  rw [events_eq framesEq, framesEq]
  exact RpcSession.runEntry_streamFrames script.streamId script.fits writtenEq.symm

theorem mem_events {script : RpcScript} {event : RpcStreamEvent} (member : event ∈ script.events) :
    event.isError = false ∧ event.requestId = some script.header.rpcRequestId :=
  ⟨(RpcHeader.mem_closedEvents member).1, (RpcHeader.mem_closedEvents member).2.1⟩

/-- The frames of a family of messages, in any order of arrival and in any
reads, give a fresh session an interleaving of the events of the messages.  The
session ends as it began. -/
theorem decodeChunks_perm {scripts : List RpcScript} (distinct : (scripts.map streamId).Nodup)
    {arrivals : List Frame} (perm : arrivals.Perm (scripts.flatMap frames))
    {chunks : List (List UInt8)} (cut : chunks.flatten = frameBytes arrivals)
    {session : RpcSession} (freshMux : session.frameMuxStreamDecoder = FrameMuxStreamDecoder.new)
    (freshDecoders : session.rpcStreamDecoders = ∅) :
    ∃ tagged : List (UInt32 × RpcStreamEvent),
      session.decodeChunks chunks =
        (tagged.map Prod.snd, List.replicate chunks.length (.ok ()), session) ∧
      (∀ script ∈ scripts, (tagged.filter fun output => output.1 = script.streamId) =
        script.events.map (Prod.mk script.streamId)) ∧
      ∀ output ∈ tagged, output.1 ∈ scripts.map streamId := by
  have sameFrames : scripts.flatMap frames =
      (scripts.map toStreamScript).flatMap StreamScript.frames := by
    rw [List.flatMap_map]
    exact List.flatMap_congr fun script _ => script.frames_eq_toStreamScript
  have sameIds : (scripts.map toStreamScript).map StreamScript.streamId = scripts.map streamId := by
    rw [List.map_map]
    rfl
  rw [sameFrames] at perm
  rw [← sameIds] at distinct
  rcases StreamScript.readChunks_perm distinct perm cut with ⟨released, read, perStream⟩
  have outputs := demux_outputs RpcSession.decodeEntry
    (fun frame : DecodedFrame => frame.inner.streamId) ∅ released
  have entries := demux_entry RpcSession.decodeEntry
    (fun frame : DecodedFrame => frame.inner.streamId) ∅ released
  have decoded := RpcSession.decodeAll_frames ∅ released
  simp only [ExtTreeMap.getElem?_empty, perStream] at outputs entries
  generalize demux RpcSession.decodeEntry (fun frame : DecodedFrame => frame.inner.streamId) ∅
    released = run at outputs entries decoded
  have ofScript : ∀ script ∈ scripts, runEntry RpcSession.decodeEntry none
      (StreamScript.sentOn (scripts.map toStreamScript) script.streamId) =
        (script.events, none) := by
    intro script member
    have sent := StreamScript.sentOn_eq distinct (List.mem_map_of_mem member)
    rw [show script.streamId = script.toStreamScript.streamId from rfl, sent,
      ← script.frames_eq_toStreamScript, script.runEntry_frames]
  have ofNone : ∀ id ∉ scripts.map streamId, runEntry RpcSession.decodeEntry none
      (StreamScript.sentOn (scripts.map toStreamScript) id) = ([], none) := by
    intro id absent
    rw [← sameIds] at absent
    rw [StreamScript.sentOn_absent absent]
    rfl
  have tags : ∀ output ∈ run.1, output.1 ∈ scripts.map streamId := by
    intro output member
    by_contra absent
    have selected : output ∈ run.1.filter fun tagged => tagged.1 = output.1 :=
      List.mem_filter.mpr ⟨member, by simp⟩
    rw [outputs, ofNone _ absent] at selected
    contradiction
  have perScript : ∀ script ∈ scripts, (run.1.filter fun output => output.1 = script.streamId) =
      script.events.map (Prod.mk script.streamId) := by
    intro script member
    rw [outputs, ofScript script member]
  have emptied : run.2 = ∅ := by
    refine ExtTreeMap.ext_getElem? fun {id} => ?_
    rw [entries, ExtTreeMap.getElem?_empty]
    by_cases used : id ∈ scripts.map streamId
    · rcases List.mem_map.mp used with ⟨script, member, rfl⟩
      rw [ofScript script member]
    · rw [ofNone id used]
  have noError : ∀ event ∈ (RpcSession.decodeAll session.rpcStreamDecoders
      (session.frameMuxStreamDecoder.readChunks chunks).1).1, event.isError = false := by
    intro event member
    rw [freshMux, freshDecoders, read] at member
    simp only [decoded] at member
    rcases List.mem_map.mp member with ⟨output, outputMem, rfl⟩
    rcases List.mem_map.mp (tags output outputMem) with ⟨script, scriptMem, tagEq⟩
    have selected : output ∈ run.1.filter fun tagged => tagged.1 = script.streamId :=
      List.mem_filter.mpr ⟨outputMem, by simp [tagEq]⟩
    rw [perScript script scriptMem] at selected
    rcases List.mem_map.mp selected with ⟨event, eventMem, rfl⟩
    exact (mem_events eventMem).1
  refine ⟨run.1, ?_, perScript, tags⟩
  rw [RpcSession.decodeChunks_of_no_error noError, freshMux, freshDecoders, read]
  simp only [decoded, emptied]
  rw [show (⟨[], ∅⟩ : FrameMuxStreamDecoder) = FrameMuxStreamDecoder.new from rfl, ← freshMux,
    ← freshDecoders]

/-- In an interleaving of messages with distinct request ids, a request id
selects the events of its message. -/
theorem filter_requestId {scripts : List RpcScript} {tagged : List (UInt32 × RpcStreamEvent)}
    (perScript : ∀ script ∈ scripts, (tagged.filter fun output => output.1 = script.streamId) =
      script.events.map (Prod.mk script.streamId))
    (tags : ∀ output ∈ tagged, output.1 ∈ scripts.map streamId)
    (distinctIds : (scripts.map fun script => script.header.rpcRequestId).Nodup) :
    (∀ script ∈ scripts, ((tagged.map Prod.snd).filter fun event =>
        event.requestId = some script.header.rpcRequestId) = script.events) ∧
      ∀ rpcRequestId ∉ scripts.map (fun script => script.header.rpcRequestId),
        ((tagged.map Prod.snd).filter fun event => event.requestId = some rpcRequestId) = [] := by
  have ofScript : ∀ output ∈ tagged, ∃ script ∈ scripts, output.1 = script.streamId ∧
      output.2.requestId = some script.header.rpcRequestId := by
    intro output member
    rcases List.mem_map.mp (tags output member) with ⟨script, scriptMem, tagEq⟩
    have selected : output ∈ tagged.filter fun other => other.1 = script.streamId :=
      List.mem_filter.mpr ⟨member, by simp [tagEq]⟩
    rw [perScript script scriptMem] at selected
    rcases List.mem_map.mp selected with ⟨event, eventMem, rfl⟩
    exact ⟨script, scriptMem, rfl, (mem_events eventMem).2⟩
  constructor
  · intro script member
    have sameSelection : (tagged.filter fun output =>
        output.2.requestId = some script.header.rpcRequestId) =
          tagged.filter fun output => output.1 = script.streamId := by
      apply List.filter_congr
      intro output outputMem
      rcases ofScript output outputMem with ⟨other, otherMem, tagEq, idEq⟩
      rw [tagEq, idEq]
      apply decide_eq_decide.mpr
      constructor
      · intro sameId
        rw [List.inj_on_of_nodup_map distinctIds otherMem member (Option.some.inj sameId)]
      · intro sameStream
        have selected : output ∈ tagged.filter fun other => other.1 = script.streamId :=
          List.mem_filter.mpr ⟨outputMem, by simp [tagEq, sameStream]⟩
        rw [perScript script member] at selected
        rcases List.mem_map.mp selected with ⟨event, eventMem, rfl⟩
        rw [← idEq]
        exact (mem_events eventMem).2
    rw [List.filter_map]
    change (tagged.filter fun output =>
      output.2.requestId = some script.header.rpcRequestId).map Prod.snd = _
    rw [sameSelection, perScript script member, List.map_map]
    exact List.map_id _
  · intro rpcRequestId absent
    apply List.filter_eq_nil_iff.mpr
    intro event eventMem
    rcases List.mem_map.mp eventMem with ⟨output, outputMem, rfl⟩
    rcases ofScript output outputMem with ⟨script, member, -, idEq⟩
    rw [idEq, decide_eq_true_eq, Option.some.injEq]
    rintro rfl
    exact absent (List.mem_map_of_mem member)

/-- A message whose end frame is empty arrives whole, in nonempty chunks. -/
theorem events_of_flushed {script : RpcScript}
    (flushed : WriteOp.unflushed script.header.toBytes.length script.ops %
      script.maxChunkSize = 0) :
    ∃ chunks : List (List UInt8),
      script.events = script.header.streamEvents chunks ∧
      chunks.flatten = WriteOp.written script.ops ∧ ∀ chunk ∈ chunks, chunk ≠ [] := by
  rcases script.frames_eq with ⟨payloads, last, framesEq, writtenEq, lastLength, nonempty⟩
  rw [flushed, List.length_eq_zero_iff] at lastLength
  rw [lastLength, List.append_nil] at writtenEq
  rw [events_eq framesEq, lastLength]
  exact RpcHeader.closedEvents_flushed writtenEq nonempty

end RpcScript

/-! ## The streaming round trip -/

/-- The events of a message that arrived whole: its header, chunks that join to
the data, and its end. -/
def RoundTrips (header : RpcHeader) (data : List UInt8) (events : List RpcStreamEvent) : Prop :=
  ∃ chunks : List (List UInt8),
    events = header.headerEvent :: chunks.map header.chunkEvent ++ [header.endEvent] ∧
      chunks.flatten = data

theorem chunkEvent_injective (header : RpcHeader) : Function.Injective header.chunkEvent := by
  intro first second same
  simpa [RpcHeader.chunkEvent] using same

/-- A closed stream arrives whole exactly when its end frame is empty: a
payload there is dropped, or, when the header ends in it, costs the end event. -/
theorem closedEvents_roundTrips_iff {header : RpcHeader} {payloads : List (List UInt8)}
    {data last : List UInt8} (writtenEq : header.toBytes ++ data = payloads.flatten ++ last) :
    RoundTrips header data (header.closedEvents payloads last) ↔ last = [] := by
  cases complete : pieces header.toBytes.length payloads with
  | none =>
      have short := (pieces_eq_none_iff header.toBytes_pos payloads).mp complete
      have lengths := congrArg List.length writtenEq
      rw [List.length_append, List.length_append] at lengths
      refine iff_of_false ?_ ?_
      · rintro ⟨chunks, eventsEq, -⟩
        have ends : header.endEvent ∈ header.openEvents (payloads ++ [last]) := by
          simp only [RpcHeader.closedEvents, complete] at eventsEq
          rw [eventsEq]
          exact List.mem_append_right _ (List.mem_singleton_self _)
        have noEnd := (RpcHeader.mem_openEvents ends).1
        contradiction
      · rintro rfl
        simp only [List.length_nil] at lengths
        omega
  | some kept =>
      have reached : header.toBytes.length ≤ payloads.flatten.length := by
        by_contra short
        rw [(pieces_eq_none_iff header.toBytes_pos payloads).mpr (Nat.lt_of_not_le short)]
          at complete
        contradiction
      have dataEq : data = kept.flatten ++ last := by
        have dropped := congrArg (List.drop header.toBytes.length) writtenEq
        rw [List.drop_left, List.drop_append_of_le_length reached] at dropped
        rw [dropped, pieces_flatten complete]
      have eventsEq : header.closedEvents payloads last =
          header.headerEvent :: kept.map header.chunkEvent ++ [header.endEvent] := by
        simp only [RpcHeader.closedEvents, RpcHeader.openEvents, complete]
      rw [eventsEq, dataEq]
      constructor
      · rintro ⟨chunks, sameEvents, joined⟩
        have sameChunks : kept = chunks := by
          rw [List.cons_append, List.cons_append, List.cons.injEq,
            List.append_left_inj] at sameEvents
          exact (chunkEvent_injective header).list_map sameEvents.2
        rw [← sameChunks] at joined
        exact List.self_eq_append_right.mp joined
      · rintro rfl
        exact ⟨kept, rfl, (List.append_nil _).symm⟩

/-- The events a fresh session delivers for one message, in any reads. -/
theorem RpcScript.decodeChunks_eq (script : RpcScript) {chunks : List (List UInt8)}
    (cut : chunks.flatten = frameBytes script.frames) (idSpace : IdSpace) (handedOut : Nat) :
    ((RpcSession.new idSpace handedOut).1.decodeChunks chunks).1 = script.events := by
  have distinct : ([script].map RpcScript.streamId).Nodup := List.nodup_singleton _
  have perm : script.frames.Perm ([script].flatMap RpcScript.frames) := by simp
  rcases RpcScript.decodeChunks_perm distinct perm cut
    (show (RpcSession.new idSpace handedOut).1.frameMuxStreamDecoder = _ from rfl) rfl with
    ⟨tagged, decoded, perScript, tags⟩
  have whole : (tagged.filter fun output => output.1 = script.streamId) = tagged :=
    List.filter_eq_self.mpr fun output member => by simpa using tags output member
  have all := perScript script (List.mem_singleton_self _)
  rw [whole] at all
  rw [decoded, all, List.map_map]
  exact List.map_id _

/-- Writes and flushes followed by `end_stream` reach a fresh session as one
header, chunks that join to the written data, and one end, exactly when the
bytes since the last flush, the header among them if there was none, fill whole
chunks. -/
theorem streaming_round_trip_iff (script : RpcScript) (idSpace : IdSpace) (handedOut : Nat)
    (chunks : List (List UInt8)) (cut : chunks.flatten = frameBytes script.frames) :
    RoundTrips script.header (WriteOp.written script.ops)
        (RpcSession.readChunks RpcSession.record (RpcSession.new idSpace handedOut).1 []
          chunks).2.2 ↔
      WriteOp.unflushed script.header.toBytes.length script.ops % script.maxChunkSize = 0 := by
  rcases script.frames_eq with ⟨payloads, last, framesEq, writtenEq, lastLength, -⟩
  rw [RpcSession.readChunks_record, List.nil_append, script.decodeChunks_eq cut,
    RpcScript.events_eq framesEq, closedEvents_roundTrips_iff writtenEq, ← lastLength,
    List.length_eq_zero_iff]

/-- A message that is flushed before its end, read in two parts. -/
theorem streaming_round_trip_iff_flushed :
    let script : RpcScript := ⟨1, 16, ⟨.call, 7, 5, []⟩, [.writeBytes [1, 2, 3], .flush],
      by decide, by decide, by decide, by decide⟩
    let bytes := frameBytes script.frames
    RoundTrips script.header (WriteOp.written script.ops)
      (RpcSession.readChunks RpcSession.record (RpcSession.new .client 0).1 []
        [bytes.take 7, bytes.drop 7]).2.2 := by
  intro script bytes
  exact (streaming_round_trip_iff script .client 0 [bytes.take 7, bytes.drop 7]
    (by simp [bytes])).mpr (by decide)

/-- Without a flush, the three bytes written travel in the end frame.  If the
header has filled a chunk of its own they are dropped; if not, there is no end
event. -/
theorem end_stream_needs_flush :
    let header : RpcHeader := ⟨.call, 7, 5, []⟩
    let ops : List WriteOp := [.writeBytes [1, 2, 3]]
    let ownChunk : RpcScript :=
      ⟨1, 15, header, ops, by decide, by decide, by decide, by decide⟩
    let oneFrame : RpcScript :=
      ⟨1, 64, header, ops, by decide, by decide, by decide, by decide⟩
    let received (script : RpcScript) := (RpcSession.readChunks RpcSession.record
      (RpcSession.new .client 0).1 [] [frameBytes script.frames]).2.2
    (received ownChunk = [header.headerEvent, header.endEvent] ∧
        ¬ RoundTrips header (WriteOp.written ops) (received ownChunk)) ∧
      received oneFrame = [header.headerEvent, header.chunkEvent [1, 2, 3]] ∧
        ¬ RoundTrips header (WriteOp.written ops) (received oneFrame) := by
  intro header ops ownChunk oneFrame received
  have dropped : received ownChunk = [header.headerEvent, header.endEvent] := by decide
  have unended : received oneFrame = [header.headerEvent, header.chunkEvent [1, 2, 3]] := by
    decide
  refine ⟨⟨dropped, ?_⟩, unended, ?_⟩
  · rw [dropped]
    rintro ⟨chunks, sameEvents, joined⟩
    cases chunks with
    | nil => simp [ops, WriteOp.written, WriteOp.data] at joined
    | cons chunk rest => simp at sameEvents
  · rw [unended]
    rintro ⟨chunks, sameEvents, -⟩
    have lastEvents := congrArg List.getLast? sameEvents
    rw [List.getLast?_concat] at lastEvents
    simp [RpcHeader.chunkEvent, RpcHeader.endEvent] at lastEvents

end Muxio.Rpc
