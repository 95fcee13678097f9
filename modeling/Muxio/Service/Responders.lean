import Muxio.Service.AnswerStreams

/-!
# Responders and their writers

The router of an endpoint makes a responder for every streaming request, and
`decode_bytes` installs a writer on each of them once the bytes are decoded.  A
chunk given to a responder without writer waits in its buffer, and is sent when the
writer is installed.

When decoding fails, `decode_bytes` returns before the writers are installed, and
the list that remembers the new responders is gone.  What their handlers send is
then buffered for ever.
-/

namespace Muxio.Service

open Std
open Muxio.Framing
open Muxio.Rpc

universe u

/-! ## What handlers pass to their responders -/

/-- A streaming request: its id, and what its handler passes to the responder. -/
abbrev StartedStream := UInt32 × List (List UInt8 × Bool)

section Started

variable {R : Type u} (streamHandlers : ExtTreeMap UInt64 StreamHandler compare)

/-- Whether the router has made a responder for this request. -/
def routes (requestId : UInt32) : Action (EndpointHandler R) → Bool
  | .routed _ other _ => other = requestId
  | _ => false

/-- What a streaming handler passes to the responder of this request when it is called. -/
def replyTo (requestId : UInt32) : Action (EndpointHandler R) → List (List UInt8 × Bool)
  | .invoked (.stream rpcMethodId) event =>
      if event.requestId = some requestId then
        (streamHandlers[rpcMethodId]?.map fun handler => handler event).getD []
      else
        []
  | _ => []

/-- What the handler of a request passes to its responder, until the request is routed
again. -/
def repliesTo (requestId : UInt32) : List (Action (EndpointHandler R)) → List (List UInt8 × Bool)
  | [] => []
  | action :: rest =>
      if routes requestId action then []
      else replyTo streamHandlers requestId action ++ repliesTo requestId rest

/-- The streaming requests that a read has routed. -/
def startedStreams : List (Action (EndpointHandler R)) → List StartedStream
  | [] => []
  | .routed _ requestId _ :: rest =>
      (requestId, repliesTo streamHandlers requestId rest) :: startedStreams rest
  | _ :: rest => startedStreams rest

end Started

def isRouted {H : Type u} : Action H → Bool
  | .routed .. => true
  | _ => false

/-- A responder without writer that holds all it was given. -/
def StreamResponder.waiting (stream : StartedStream) : StreamResponder := ⟨stream.1, none, stream.2⟩

namespace Responders

variable {R : Type u} (streamHandlers : ExtTreeMap UInt64 StreamHandler compare)

theorem respond_made (responders : Responders) (requestId : UInt32)
    (chunks : List (List UInt8 × Bool)) :
    (responders.respond requestId chunks).2.current = responders.current ∧
      ∀ index : Nat, (responders.respond requestId chunks).2.made[index]? =
        if responders.current[requestId]? = some index then
          responders.made[index]?.map fun responder => (responder.respondAll chunks).2
        else responders.made[index]? := by
  unfold respond
  cases stored : responders.current[requestId]? with
  | none => exact ⟨rfl, fun index => (if_neg (by simp)).symm⟩
  | some position =>
      refine ⟨rfl, fun index => ?_⟩
      have modified : (responders.made.modify position fun responder =>
          (responder.respondAll chunks).2)[index]? = _ := List.getElem?_modify _ _ _ _
      dsimp only [withMade]
      rw [modified]
      by_cases here : position = index
      · simp [here]
      · simp [here]

theorem respond_length (responders : Responders) (requestId : UInt32)
    (chunks : List (List UInt8 × Bool)) :
    (responders.respond requestId chunks).2.made.length = responders.made.length := by
  unfold respond
  split
  · rfl
  · exact List.length_modify ..

/-- A responder without writer keeps what the handler of its request passes to it, as long as
it is the one of the request. -/
theorem respond_waiting {responders : Responders} {index : Nat} {stream : StartedStream}
    (isWaiting : responders.made[index]? = some (.waiting stream)) (requestId : UInt32)
    (chunks : List (List UInt8 × Bool)) :
    (responders.respond requestId chunks).2.made[index]? =
      some (.waiting (stream.1, stream.2 ++
        if requestId = stream.1 ∧ responders.current[stream.1]? = some index then chunks
        else [])) := by
  rw [(responders.respond_made requestId chunks).2 index, isWaiting]
  by_cases stored : responders.current[requestId]? = some index
  · have own := responders.owned requestId index stored
    rw [List.getElem?_map, isWaiting] at own
    obtain rfl : stream.1 = requestId := Option.some.inj own
    have kept := @StreamResponder.respondAll_waiting (.waiting stream) rfl chunks
    rw [if_pos stored, if_pos ⟨rfl, stored⟩, Option.map_some, kept]
    rfl
  · have other : ¬(requestId = stream.1 ∧ responders.current[stream.1]? = some index) := by
      rintro ⟨rfl, isStored⟩
      exact stored isStored
    rw [if_neg stored, if_neg other, List.append_nil]

/-- One action of the dispatcher, seen from a responder without writer. -/
theorem onAction_waiting {responders : Responders} {index : Nat} {stream : StartedStream}
    (isWaiting : responders.made[index]? = some (.waiting stream))
    (action : Action (EndpointHandler R)) :
    (responders.onAction streamHandlers action).2.made[index]? =
      some (.waiting (stream.1, stream.2 ++
        if responders.current[stream.1]? = some index then replyTo streamHandlers stream.1 action
        else [])) := by
  have unchanged : responders.made[index]? = some (.waiting (stream.1, stream.2 ++
      if responders.current[stream.1]? = some index then [] else [])) := by
    rw [ite_self, List.append_nil]
    exact isWaiting
  cases action with
  | routed rpcMethodId other handler =>
      obtain ⟨inside, -⟩ := List.getElem?_eq_some_iff.mp isWaiting
      exact (List.getElem?_append_left inside).trans unchanged
  | caught event => exact unchanged
  | invoked handler event =>
      cases handler with
      | response handler => exact unchanged
      | stream rpcMethodId =>
          rw [onAction, replyTo]
          cases streamHandlers[rpcMethodId]? with
          | none => simpa using unchanged
          | some handler =>
              cases named : event.requestId with
              | none => simpa using unchanged
              | some requestId =>
                  refine (respond_waiting isWaiting requestId (handler event)).trans ?_
                  by_cases stored : responders.current[stream.1]? = some index
                  · simp [stored]
                  · simp [stored]

theorem onAction_current (responders : Responders) (action : Action (EndpointHandler R))
    (requestId : UInt32) :
    (responders.onAction streamHandlers action).2.current[requestId]? =
      if routes requestId action then some responders.made.length
      else responders.current[requestId]? := by
  cases action with
  | routed rpcMethodId other handler =>
      rw [onAction, add, ExtTreeMap.getElem?_insert]
      simp [routes]
  | caught event => rfl
  | invoked handler event =>
      cases handler with
      | response handler => rfl
      | stream rpcMethodId =>
          rw [onAction]
          split
          · rename_i handler other _ _
            rw [(responders.respond_made other (handler event)).1]
            rfl
          · rfl

theorem onActions_waiting {responders : Responders} {index : Nat} {stream : StartedStream}
    (isWaiting : responders.made[index]? = some (.waiting stream))
    (actions : List (Action (EndpointHandler R))) :
    (responders.onActions streamHandlers actions).2.made[index]? =
      some (.waiting (stream.1, stream.2 ++
        if responders.current[stream.1]? = some index then
          repliesTo streamHandlers stream.1 actions
        else [])) := by
  induction actions generalizing responders stream with
  | nil =>
      rw [onActions, repliesTo, ite_self, List.append_nil]
      exact isWaiting
  | cons action rest ih =>
      refine (ih (onAction_waiting streamHandlers isWaiting action)).trans ?_
      rw [onAction_current, repliesTo, List.append_assoc]
      cases isRouted : routes stream.1 action with
      | true =>
          obtain ⟨inside, -⟩ := List.getElem?_eq_some_iff.mp isWaiting
          have elsewhere : some responders.made.length ≠ some index :=
            fun equal => Nat.ne_of_gt inside (Option.some.inj equal)
          have silent : replyTo streamHandlers stream.1 action = [] := by
            cases action with
            | routed => rfl
            | caught => rfl
            | invoked => contradiction
          simp [elsewhere, silent]
      | false =>
          by_cases stored : responders.current[stream.1]? = some index
          · simp [stored]
          · simp [stored]

theorem onAction_length (responders : Responders) (action : Action (EndpointHandler R)) :
    (responders.onAction streamHandlers action).2.made.length =
      responders.made.length + (isRouted action).toNat := by
  cases action with
  | routed => exact List.length_append
  | caught => rfl
  | invoked handler event =>
      cases handler with
      | response => rfl
      | stream rpcMethodId =>
          rw [onAction]
          split
          · exact responders.respond_length _ _
          · rfl

theorem length_le_onActions (responders : Responders)
    (actions : List (Action (EndpointHandler R))) :
    responders.made.length ≤ (responders.onActions streamHandlers actions).2.made.length := by
  induction actions generalizing responders with
  | nil => exact Nat.le_refl _
  | cons action rest ih =>
      refine Nat.le_trans ?_ (ih _)
      rw [onAction_length]
      exact Nat.le_add_right _ _

/-- The responders made during a read hold what their handlers have passed to them. -/
theorem onActions_made (responders : Responders) (actions : List (Action (EndpointHandler R))) :
    (responders.onActions streamHandlers actions).2.made.drop responders.made.length =
      (startedStreams streamHandlers actions).map .waiting := by
  induction actions generalizing responders with
  | nil => exact List.drop_length
  | cons action rest ih =>
      rw [onActions]
      cases action with
      | routed rpcMethodId requestId handler =>
          have isNew : (responders.add requestId).made[responders.made.length]? =
              some (.waiting (requestId, [])) := by
            rw [add, List.getElem?_append_right (Nat.le_refl _), Nat.sub_self]
            rfl
          have isCurrent : (responders.add requestId).current[requestId]? =
              some responders.made.length := ExtTreeMap.getElem?_insert_self
          have first := onActions_waiting streamHandlers isNew rest
          rw [if_pos isCurrent, List.nil_append] at first
          have later := ih (responders.add requestId)
          rw [show (responders.add requestId).made.length = responders.made.length + 1 from
            List.length_append] at later
          obtain ⟨inside, isFirst⟩ := List.getElem?_eq_some_iff.mp first
          rw [onAction, startedStreams, List.map_cons, ← later, ← isFirst]
          exact List.drop_eq_getElem_cons inside
      | caught event => exact ih responders
      | invoked handler event =>
          cases handler with
          | response handler => exact ih responders
          | stream rpcMethodId =>
              have sameLength : (responders.onAction streamHandlers
                  (.invoked (.stream rpcMethodId : EndpointHandler R) event)).2.made.length =
                    responders.made.length := onAction_length _ _ _
              rw [← sameLength]
              exact ih _

end Responders

/-! ## Requests routed during a read -/

/-- The header of a streaming request. -/
def RpcServiceEndpoint.startsStream (endpoint : RpcServiceEndpoint) : RpcStreamEvent → Bool
  | .header _ rpcMethodId _ => endpoint.streamHandlers.contains rpcMethodId
  | _ => false

section Routed

variable {H : Type u} (router : Option (StreamMethodRouter H)) (catchAll : Bool)

theorem slot_isRouted {rpcId : UInt32} (slot : Slot H) {event : RpcStreamEvent}
    (named : event.requestId = some rpcId) :
    (slot.onEvent router catchAll rpcId event).2.countP isRouted =
      if (offered router event).isSome then 1 else 0 := by
  have settled : ((slot.route router rpcId event).1.settle catchAll rpcId event).2.countP
      isRouted = 0 := by
    rw [List.countP_eq_zero]
    intro action member
    rcases Slot.mem_settle named member with ⟨_, _, -, rfl, -⟩ | rfl <;> exact Bool.false_ne_true
  rw [Slot.onEvent]
  dsimp only
  rw [List.countP_append, settled, Nat.add_zero]
  cases event with
  | header rpcRequestId rpcMethodId rpcHeader =>
      rw [← Option.some.inj named]
      cases offers : offered router (.header rpcRequestId rpcMethodId rpcHeader) with
      | some handler =>
          have takes : (router.bind fun routerFn => routerFn rpcMethodId rpcRequestId) =
              some handler := offers
          simp only [Slot.route, takes]
          rfl
      | none =>
          have leaves : (router.bind fun routerFn => routerFn rpcMethodId rpcRequestId) = none :=
            offers
          simp only [Slot.route, leaves]
          rfl
  | _ => rfl

theorem onEvent_isRouted (routing : Routing H) (event : RpcStreamEvent) :
    (routing.onEvent router catchAll event).2.countP isRouted =
      if (offered router event).isSome then 1 else 0 := by
  cases named : event.requestId with
  | none =>
      rw [Routing.onEvent_unnamed router catchAll routing named]
      cases event with
      | error => cases catchAll <;> rfl
      | _ => contradiction
  | some rpcId =>
      rw [(Routing.onEvent_slot router catchAll routing named).2]
      exact slot_isRouted router catchAll _ named

/-- Each header that the router takes makes one responder. -/
theorem onEvents_isRouted (routing : Routing H) (events : List RpcStreamEvent) :
    (routing.onEvents router catchAll events).2.countP isRouted =
      events.countP fun event => (offered router event).isSome := by
  induction events generalizing routing with
  | nil => rfl
  | cons event rest ih =>
      rw [Routing.onEvents]
      dsimp only
      rw [List.countP_append, ih, onEvent_isRouted, List.countP_cons, Nat.add_comm]

end Routed

theorem startedStreams_length {R : Type u}
    (streamHandlers : ExtTreeMap UInt64 StreamHandler compare)
    (actions : List (Action (EndpointHandler R))) :
    (startedStreams streamHandlers actions).length = actions.countP isRouted := by
  induction actions with
  | nil => rfl
  | cons action rest ih =>
      cases action with
      | routed =>
          rw [startedStreams, List.length_cons, ih, List.countP_cons_of_pos rfl]
      | caught => exact ih.trans (List.countP_cons_of_neg (by simp [isRouted])).symm
      | invoked => exact ih.trans (List.countP_cons_of_neg (by simp [isRouted])).symm

/-! ## Responders that write -/

/-- The responder of a streaming request has its writer.  The frames that were emitted for
it, with those of anything its handler answers later, are the ones of a stream that
carries all it was given. -/
structure StreamResponder.Answers (responder : StreamResponder) (stream : StartedStream)
    (emitted : List Frame) : Prop where
  request : responder.requestId = stream.1
  installed : responder.writer.isSome = true
  flushed : responder.buffer = []
  frames : ∃ streamId, ∀ later, emitted ++ (responder.respondAll later).1 =
    answerFrames streamId defaultServiceMaxChunkSize (RpcDispatcher.writerHeader stream.1)
      (stream.2 ++ later)

/-- A new writer sends what the responder holds. -/
theorem StreamResponder.answers_setWriter (streamId : UInt32) (stream : StartedStream) :
    let opened := RpcStreamEncoder.new streamId defaultServiceMaxChunkSize
      (RpcDispatcher.writerHeader stream.1)
    let installed := (waiting stream).setWriter opened.encoder
    installed.2.Answers stream (opened.frames ++ installed.1) := by
  intro opened installed
  have installedEq : installed = ((writeResponses opened.encoder stream.2).1,
      ⟨stream.1, some (writeResponses opened.encoder stream.2).2, []⟩) :=
    @respondAll_writing ⟨stream.1, some opened.encoder, []⟩ opened.encoder rfl stream.2
  have short : (RpcDispatcher.writerHeader stream.1).toBytes.length <
      defaultServiceMaxChunkSize := by
    rw [RpcHeader.toBytes_length]
    exact show rpcFrameFrameHeaderSize + 1 < defaultServiceMaxChunkSize by decide
  rw [installedEq]
  refine ⟨rfl, rfl, rfl, streamId, fun later => ?_⟩
  rw [respondAll_writing rfl, ← writeResponses_opened streamId short, writeResponses_append,
    List.append_assoc]

/-- Every responder gets its writer. -/
theorem installWriters_answers {H : Type u} (dispatcher : RpcDispatcher H) (handedOut : Nat)
    (streams : List StartedStream) :
    let installed := installWriters dispatcher handedOut (streams.map .waiting)
    ∃ answered : List (StreamResponder × List Frame),
      installed.2.1 = answered.map Prod.fst ∧ installed.1 = (answered.map Prod.snd).flatten ∧
        List.Forall₂ (fun entry stream => entry.1.Answers stream entry.2) answered streams := by
  induction streams generalizing dispatcher handedOut with
  | nil => exact ⟨[], rfl, rfl, .nil⟩
  | cons stream rest ih =>
      let opened := dispatcher.createResponseWriter stream.1 defaultServiceMaxChunkSize handedOut
      let installed := (StreamResponder.waiting stream).setWriter opened.outcome.encoder
      rcases ih opened.dispatcher opened.handedOut with ⟨answered, madeEq, framesEq, answers⟩
      have first : installed.2.Answers stream (opened.outcome.frames ++ installed.1) :=
        StreamResponder.answers_setWriter dispatcher.streamId stream
      refine ⟨(installed.2, opened.outcome.frames ++ installed.1) :: answered, ?_, ?_,
        .cons first answers⟩
      · exact congrArg (installed.2 :: ·) madeEq
      · exact congrArg (opened.outcome.frames ++ installed.1 ++ ·) framesEq

/-! ## When the writers are installed -/

/-- The error of the first frame that its stream decoder rejects. -/
def firstRejection : Decoders → List Item → Option FrameDecodeError
  | _, [] => none
  | decoders, .error _ :: rest => firstRejection decoders rest
  | decoders, .ok frame :: rest =>
      let entry := decoders[frame.inner.streamId]?
      match RpcSession.rejection entry frame with
      | some error => some error
      | none =>
          firstRejection
            (Transition.setEntry decoders frame.inner.streamId
              (RpcSession.decodeEntry entry frame).2)
            rest

theorem decodeItems_result (decoders : Decoders) (items : List Item) :
    (RpcSession.decodeItems decoders items).2.1 =
      match firstRejection decoders items with
      | some error => .error error
      | none => .ok () := by
  induction items generalizing decoders with
  | nil => rfl
  | cons item rest ih =>
      cases item with
      | error error => exact ih decoders
      | ok frame =>
          rw [RpcSession.decodeItems, firstRejection]
          dsimp only
          cases RpcSession.rejection decoders[frame.inner.streamId]? frame with
          | some error => rfl
          | none => exact ih _

/-- The frames that a chunk of bytes completes are all accepted by their stream
decoders. -/
def Accepted (session : RpcSession) (bytes : List UInt8) : Prop :=
  firstRejection session.rpcStreamDecoders (session.frameMuxStreamDecoder.readBytes bytes).1 = none

instance (session : RpcSession) (bytes : List UInt8) : Decidable (Accepted session bytes) :=
  inferInstanceAs (Decidable (_ = none))

theorem accepted_iff (session : RpcSession) (bytes : List UInt8) :
    Accepted session bytes ↔ (session.decodeBytes bytes).2.1 = .ok () := by
  have result := decodeItems_result session.rpcStreamDecoders
    (session.frameMuxStreamDecoder.readBytes bytes).1
  change (session.decodeBytes bytes).2.1 = _ at result
  rw [Accepted, result]
  cases firstRejection session.rpcStreamDecoders
    (session.frameMuxStreamDecoder.readBytes bytes).1 <;> simp

namespace RpcServiceEndpoint

variable {R : Type u} (endpoint : RpcServiceEndpoint) (state : EndpointState R)
  (bytes : List UInt8) (handedOut : Nat)

/-- Every responder made by a call of `decode_bytes` has its writer when the call returns:
what its handler has passed to it is among the frames that the call has emitted, and what
the handler passes to it later is emitted then. -/
def WritersInstalled : Prop :=
  let decoded := endpoint.decodeBytes state bytes handedOut
  ∃ (earlier : List Frame) (answered : List (StreamResponder × List Frame)),
    decoded.state.responders.made.drop state.responders.made.length = answered.map Prod.fst ∧
      decoded.frames = earlier ++ (answered.map Prod.snd).flatten ∧
      List.Forall₂ (fun entry stream => entry.1.Answers stream entry.2) answered
        (startedStreams endpoint.streamHandlers decoded.actions)

theorem installRouter_responders :
    (endpoint.installRouter state).responders = state.responders := by
  unfold installRouter
  split <;> rfl

/-- The router of an endpoint takes the headers of streaming requests. -/
theorem offered_router (event : RpcStreamEvent) :
    (offered (some (endpoint.router (R := R))) event).isSome = endpoint.startsStream event := by
  cases event with
  | header rpcRequestId rpcMethodId rpcHeader =>
      change (if endpoint.streamHandlers.contains rpcMethodId then _ else none).isSome =
        endpoint.streamHandlers.contains rpcMethodId
      cases endpoint.streamHandlers.contains rpcMethodId <;> rfl
  | _ => rfl

/-- While bytes are decoded, one responder is made for each streaming request. -/
theorem startedStreams_decoding (streams : endpoint.streamHandlers.isEmpty = false) :
    (startedStreams endpoint.streamHandlers
        ((endpoint.installRouter state).dispatcher.readBytes bytes).2.2).length =
      (state.dispatcher.session.decodeBytes bytes).1.countP endpoint.startsStream := by
  have installed :
      (endpoint.installRouter state).dispatcher.rpcRespondableSession.streamMethodRouter =
        some endpoint.router := by
    unfold installRouter
    rw [streams]
    rfl
  rw [startedStreams_length, RpcDispatcher.readBytes_eq, installRouter_session]
  refine (onEvents_isRouted _ _ _ _).trans ?_
  rw [installed]
  exact congrArg (List.countP · _) (funext endpoint.offered_router)

/-- The responders after a call of `decode_bytes`. -/
theorem decodeBytes_made :
    (endpoint.decodeBytes state bytes handedOut).state.responders.made =
      let routed := endpoint.installRouter state
      let read := routed.dispatcher.readBytes bytes
      let made := (routed.responders.onActions endpoint.streamHandlers read.2.2).2.made
      match read.1 with
      | .error _ => made
      | .ok _ =>
          made.take routed.responders.made.length ++
            (installWriters read.2.1 handedOut (made.drop routed.responders.made.length)).2.1 := by
  unfold decodeBytes
  dsimp only
  cases ((endpoint.installRouter state).dispatcher.readBytes bytes).1 <;> rfl

theorem decodeBytes_actions :
    (endpoint.decodeBytes state bytes handedOut).actions =
      ((endpoint.installRouter state).dispatcher.readBytes bytes).2.2 := by
  unfold decodeBytes
  dsimp only
  cases ((endpoint.installRouter state).dispatcher.readBytes bytes).1 <;> rfl

/-- A read that decodes installs all writers. -/
theorem writersInstalled_of_ok {requestIds : List UInt32}
    (reads : ((endpoint.installRouter state).dispatcher.readBytes bytes).1 = .ok requestIds) :
    endpoint.WritersInstalled state bytes handedOut := by
  have makes := endpoint.decodeBytes_made state bytes handedOut
  rcases endpoint.decodeBytes_ok state bytes handedOut reads with ⟨-, -, -, -, framesEq⟩
  dsimp only at makes framesEq
  rw [reads] at makes
  dsimp only at makes
  rw [Responders.onActions_made, installRouter_responders] at makes framesEq
  rcases installWriters_answers ((endpoint.installRouter state).dispatcher.readBytes bytes).2.1
    handedOut (startedStreams endpoint.streamHandlers
      ((endpoint.installRouter state).dispatcher.readBytes bytes).2.2) with
    ⟨answered, madeEq, sentEq, answers⟩
  refine ⟨_, answered, ?_, framesEq.trans (congrArg _ sentEq), ?_⟩
  · rw [makes, List.drop_left' (List.length_take_of_le ?_)]
    · exact madeEq
    · exact Responders.length_le_onActions _ _ _
  · rw [decodeBytes_actions]
    exact answers

/-- A read that fails leaves the responders it has made without writers. -/
theorem writersInstalled_of_error {error : FrameDecodeError}
    (reads : ((endpoint.installRouter state).dispatcher.readBytes bytes).1 = .error error) :
    endpoint.WritersInstalled state bytes handedOut ↔
      startedStreams endpoint.streamHandlers
        ((endpoint.installRouter state).dispatcher.readBytes bytes).2.2 = [] := by
  have makes := endpoint.decodeBytes_made state bytes handedOut
  dsimp only at makes
  rw [reads, installRouter_responders] at makes
  have created : (endpoint.decodeBytes state bytes handedOut).state.responders.made.drop
      state.responders.made.length = (startedStreams endpoint.streamHandlers
        ((endpoint.installRouter state).dispatcher.readBytes bytes).2.2).map .waiting := by
    rw [makes, Responders.onActions_made]
  unfold WritersInstalled
  dsimp only
  rw [created, decodeBytes_actions]
  constructor
  · rintro ⟨earlier, answered, madeEq, -, answers⟩
    generalize startedStreams endpoint.streamHandlers _ = started at madeEq answers
    cases answers with
    | nil => rfl
    | cons answers _ =>
        obtain ⟨sameResponder, -⟩ := List.cons.inj madeEq
        have installed := answers.installed
        rw [← sameResponder] at installed
        contradiction
  · intro noneStarted
    rw [noneStarted]
    exact ⟨_, [], rfl, (List.append_nil _).symm, .nil⟩

end RpcServiceEndpoint

/-- The writers of all streaming requests in a chunk are installed, and all that their
handlers answer is emitted, exactly when no frame of the chunk is rejected, or the chunk
starts no streaming request. -/
theorem RpcServiceEndpoint.writersInstalled_iff {R : Type u} (endpoint : RpcServiceEndpoint)
    (state : EndpointState R) (bytes : List UInt8) (handedOut : Nat)
    (streams : endpoint.streamHandlers.isEmpty = false) :
    endpoint.WritersInstalled state bytes handedOut ↔
      Accepted state.dispatcher.session bytes ∨
        ∀ event ∈ (state.dispatcher.session.decodeBytes bytes).1,
          endpoint.startsStream event = false := by
  have result : ((endpoint.installRouter state).dispatcher.readBytes bytes).1.map (fun _ => ()) =
      (state.dispatcher.session.decodeBytes bytes).2.1 := by
    rw [RpcDispatcher.readBytes_eq, installRouter_session]
    cases (state.dispatcher.session.decodeBytes bytes).2.1 <;> rfl
  rw [accepted_iff, ← result]
  cases reads : ((endpoint.installRouter state).dispatcher.readBytes bytes).1 with
  | ok requestIds =>
      have installed := endpoint.writersInstalled_of_ok state bytes handedOut reads
      exact iff_of_true installed (.inl rfl)
  | error error =>
      have noneStarts : (∀ event ∈ (state.dispatcher.session.decodeBytes bytes).1,
          endpoint.startsStream event = false) ↔
            (state.dispatcher.session.decodeBytes bytes).1.countP endpoint.startsStream = 0 := by
        rw [List.countP_eq_zero]
        simp only [Bool.not_eq_true]
      have failed : ¬ (Except.error error : Except FrameDecodeError (List UInt32)).map
          (fun _ => ()) = .ok () := by
        intro succeeds
        contradiction
      rw [endpoint.writersInstalled_of_error state bytes handedOut reads, or_iff_right failed,
        noneStarts, ← endpoint.startedStreams_decoding state bytes streams, List.length_eq_zero_iff]

/-- A streaming request alone in its chunk gets its writer, and its answer is sent. -/
theorem writersInstalled_of_single_request :
    let endpoint : RpcServiceEndpoint :=
      ⟨∅, (∅ : ExtTreeMap _ _ compare).insert 7 fun _ => [([9], true)], fun _ => []⟩
    let server : EndpointState Unit × Nat := EndpointState.new .server 0
    let chunk := frameBytes [⟨1, 0, .open, (RpcHeader.mk .call 11 7 []).toBytes⟩]
    endpoint.WritersInstalled server.1 chunk server.2 ∧
      (endpoint.decodeBytes server.1 chunk server.2).frames =
        answerFrames 2147483648 defaultServiceMaxChunkSize (RpcDispatcher.writerHeader 11)
          [([9], true)] := by
  intro endpoint server chunk
  constructor
  · exact (endpoint.writersInstalled_iff server.1 chunk server.2 (by decide)).mpr
      (.inl (by decide))
  · decide +kernel

/-- In one chunk a streaming request is followed by a stream that its sender cancels.
The answer to the request is never sent. -/
theorem responder_without_writer :
    let endpoint : RpcServiceEndpoint :=
      ⟨∅, (∅ : ExtTreeMap _ _ compare).insert 7 fun _ => [([9], true)], fun _ => []⟩
    let server : EndpointState Unit × Nat := EndpointState.new .server 0
    let chunk := frameBytes
      [⟨1, 0, .open, (RpcHeader.mk .call 11 7 []).toBytes⟩,
        ⟨2, 0, .open, (RpcHeader.mk .call 12 5 []).toBytes⟩, ⟨2, 1, .cancel, []⟩]
    let decoded := endpoint.decodeBytes server.1 chunk server.2
    decoded.result = .error (.decode .readAfterCancel) ∧ decoded.frames = [] ∧
      decoded.state.responders.made = [⟨11, none, [([9], true)]⟩] ∧
      ∀ responder ∈ decoded.state.responders.made, (responder.respond [8] true).1 = [] := by
  refine ⟨rfl, rfl, rfl, ?_⟩
  intro responder member
  rw [List.mem_singleton.mp member]
  rfl

end Muxio.Service
