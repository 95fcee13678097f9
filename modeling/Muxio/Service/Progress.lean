import Mathlib.Data.Prod.Lex
import Mathlib.Order.WellFounded
import Muxio.Service.RemoteCalls
import Muxio.Transition.Fairness

/-!
# Progress of a prebuffered service

Nothing that a prebuffered service does can keep a call from returning.  If every
stream gets the wire again and again, both ends read again and again and the oldest
request is served again and again, then all calls that were made return, whatever
the order in which this happens.
-/

universe u

namespace Muxio.Rpc.Link

open Muxio.Framing

/-! ## What is left to do on a link -/

variable {link : Link}

/-- The frames of a stream that are not on the wire yet. -/
def toSend (link : Link) (outgoing : Outgoing) : List Frame :=
  outgoing.frames.drop (link.sentOn outgoing.streamId).length

/-- A frame of the stream can be put on the wire. -/
def CanSend (link : Link) (streamId : UInt32) : Prop :=
  ∃ outgoing ∈ link.streams, outgoing.streamId = streamId ∧ link.toSend outgoing ≠ []

/-- The steps that a stream takes at most: one for each frame that is put on the wire
and one for each byte that is read. -/
def streamWork (link : Link) (outgoing : Outgoing) : Nat :=
  (link.toSend outgoing).length + (frameBytes (link.toSend outgoing)).length

/-- The steps that a link takes at most. -/
def work (link : Link) : Nat :=
  (link.streams.map link.streamWork).sum + link.inFlight.length

/-- A stream is found under its id. -/
theorem Sound.find_stream (sound : link.Sound) {outgoing : Outgoing}
    (member : outgoing ∈ link.streams) :
    (link.streams.find? fun other => other.streamId = outgoing.streamId) = some outgoing := by
  rw [List.find?_eq_some_iff_append]
  rcases List.append_of_mem member with ⟨before, after, split⟩
  refine ⟨by simp, before, after, split, ?_⟩
  intro other earlier
  have distinct := sound.distinct
  rw [split, List.map_append, List.map_cons, List.nodup_append] at distinct
  have different := distinct.2.2 _ (List.mem_map_of_mem earlier) _ List.mem_cons_self
  simpa using different

theorem Sound.send_eq (sound : link.Sound) {outgoing : Outgoing}
    (member : outgoing ∈ link.streams) {frame : Frame} {rest : List Frame}
    (next : link.toSend outgoing = frame :: rest) :
    link.send outgoing.streamId = { link with wire := link.wire ++ [frame] } := by
  have isNext : outgoing.frames[(link.sentOn outgoing.streamId).length]? = some frame := by
    have first := congrArg List.head? next
    rw [toSend, List.head?_drop] at first
    exact first
  rw [Link.send, sound.find_stream member]
  simp only [isNext]

theorem send_idle {streamId : UInt32}
    (idle : ¬ link.CanSend streamId) : link.send streamId = link := by
  rw [Link.send]
  cases found : link.streams.find? fun outgoing => outgoing.streamId = streamId with
  | none => rfl
  | some outgoing =>
      have member := List.mem_of_find?_eq_some found
      have ownId : outgoing.streamId = streamId := by
        simpa using List.find?_some found
      have allSent : link.toSend outgoing = [] := by
        by_contra more
        exact idle ⟨outgoing, member, ownId, more⟩
      rw [toSend, List.drop_eq_nil_iff, ownId] at allSent
      simp only [List.getElem?_eq_none allSent]

/-- Putting a frame on the wire leaves its bytes to be read. -/
theorem Sound.work_send (sound : link.Sound) {streamId : UInt32} (can : link.CanSend streamId) :
    (link.send streamId).work < link.work := by
  rcases can with ⟨outgoing, member, rfl, more⟩
  rcases List.exists_cons_of_ne_nil more with ⟨frame, rest, next⟩
  rw [sound.send_eq member next]
  let after : Link := { link with wire := link.wire ++ [frame] }
  have ownFrame : frame.streamId = outgoing.streamId := by
    apply Outgoing.streamId_of_mem
    exact List.mem_of_mem_drop (next ▸ List.mem_cons_self)
  have sentOn : ∀ streamId, after.sentOn streamId =
      link.sentOn streamId ++ if outgoing.streamId = streamId then [frame] else [] := by
    intro streamId
    by_cases own : outgoing.streamId = streamId <;> simp [after, Link.sentOn, ownFrame, own]
  have others : ∀ other : Outgoing, other.streamId ≠ outgoing.streamId →
      after.streamWork other = link.streamWork other := by
    intro other different
    simp only [streamWork, toSend, sentOn, if_neg different.symm, List.append_nil]
  have own : after.streamWork outgoing + (FrameCodec.encode frame).length + 1 =
      link.streamWork outgoing := by
    have remaining : after.toSend outgoing = rest := by
      rw [toSend, sentOn, if_pos rfl, List.length_append, ← List.drop_drop]
      exact congrArg (List.drop 1) next
    rw [streamWork, streamWork, remaining, next, frameBytes_cons, List.length_append,
      List.length_cons]
    omega
  have inFlight : after.inFlight.length =
      link.inFlight.length + (FrameCodec.encode frame).length := by
    have within := sound.within
    simp only [Link.inFlight, after, frameBytes_append, frameBytes_cons, frameBytes_nil,
      List.append_nil, List.length_drop, List.length_append]
    omega
  rcases List.append_of_mem member with ⟨earlier, later, split⟩
  have distinct := sound.distinct
  rw [split, List.map_append, List.map_cons, List.nodup_append, List.nodup_cons] at distinct
  have earlierWork : earlier.map after.streamWork = earlier.map link.streamWork :=
    List.map_congr_left fun other isEarlier => others other
      (distinct.2.2 _ (List.mem_map_of_mem isEarlier) _ List.mem_cons_self)
  have laterWork : later.map after.streamWork = later.map link.streamWork :=
    List.map_congr_left fun other isLater => others other fun same =>
      distinct.2.1.1 (same ▸ List.mem_map_of_mem isLater)
  show (link.streams.map after.streamWork).sum + after.inFlight.length < _
  rw [work, split, inFlight]
  simp only [List.map_append, List.map_cons, List.sum_append, List.sum_cons, earlierWork, laterWork]
  omega

/-- What has been read need not be read again. -/
theorem work_deliver (link : Link) (count : Nat) :
    (link.deliver count).work + (link.chunk count).length = link.work := by
  have split := congrArg List.length (link.chunk_append_inFlight count)
  rw [List.length_append] at split
  show (link.streams.map link.streamWork).sum + (link.deliver count).inFlight.length + _ = _
  rw [work]
  omega

theorem deliver_idle {count : Nat} (idle : link.chunk count = []) : link.deliver count = link := by
  rw [deliver, idle]
  rfl

theorem chunk_ne_nil {count : Nat} (positive : 0 < count) (more : link.inFlight ≠ []) :
    link.chunk count ≠ [] := by
  rw [chunk, ne_eq, List.take_eq_nil_iff, not_or]
  exact ⟨Nat.ne_of_gt positive, more⟩

/-- Everything has been put on the wire when no stream can send. -/
theorem Sound.all_sent (sound : link.Sound) (idle : ∀ streamId, ¬ link.CanSend streamId)
    {outgoing : Outgoing} (member : outgoing ∈ link.streams) :
    link.sentOn outgoing.streamId = outgoing.frames := by
  apply (sound.inSequence outgoing member).eq_of_length_le
  by_contra more
  apply idle outgoing.streamId
  refine ⟨outgoing, member, rfl, ?_⟩
  rw [toSend, ne_eq, List.drop_eq_nil_iff]
  exact more

end Muxio.Rpc.Link

namespace Muxio.Rpc.Connection

/-- A counter that goes on a little goes on a little for everyone who shares it. -/
theorem OneCounter.advance_le {H : Type u} {connection : Connection H}
    (oneCounter : connection.OneCounter) {side : Side} {handedOut more : Nat}
    (little : handedOut ≤ connection.handedOut side + more) (other : Side) :
    connection.advance side handedOut other ≤ connection.handedOut other + more := by
  unfold advance
  split
  · rename_i shared
    rw [oneCounter.sides shared other side]
    exact little
  · by_cases same : other = side
    · rw [same, Function.update_self]
      exact little
    · rw [Function.update_of_ne same]
      exact Nat.le_add_right _ _

end Muxio.Rpc.Connection

namespace Muxio.Service

open Muxio.Framing
open Muxio.Rpc
open Muxio.Transition

/-! ## Steps without new calls -/

/-- A step that puts a frame on the wire, reads, or serves a request. -/
def ServiceStep.Quiet : ServiceStep → Prop
  | .call _ _ => False
  | .draw _ => False
  | _ => True

theorem ServiceStep.Quiet.unstreamed {step : ServiceStep} (quiet : step.Quiet)
    (endpoint : Side → RpcServiceEndpoint) : step.Unstreamed endpoint := by
  cases step <;> trivial

/-- What would bring a service forward. -/
inductive ServiceWish where
  | send (side : Side) (streamId : UInt32)
  | read (side : Side)
  | serve

/-- The steps that grant a wish.  The request that has waited longest is served first. -/
def ServiceWish.GrantedBy : ServiceWish → ServiceStep → Prop
  | .send side streamId, step => step = .send side streamId
  | .read side, step => ∃ count, 0 < count ∧ step = .read side count
  | .serve, step => step = .serve .server 0

/-- Every stream is given the wire, both ends read, and requests are served, each of
these again and again. -/
def FairService (schedule : Nat → ServiceStep) : Prop :=
  ∀ wish : ServiceWish, Recurs schedule wish.GrantedBy

namespace PrebufferedService

variable {service : PrebufferedService} {endpoint : Side → RpcServiceEndpoint}
  {idSpace : Side → IdSpace}

def Wished (wish : ServiceWish) (service : PrebufferedService) : Prop :=
  match wish with
  | .send side streamId => (service.node side).link.CanSend streamId
  | .read side => (service.node side.peer).link.inFlight ≠ []
  | .serve => service.server.waiting ≠ []

/-- How many calls have not been served. -/
def unserved (service : PrebufferedService) : Nat :=
  service.client.made.length - service.server.served.length

/-- Serving a request may make any amount of work on the link, but there are only so
many requests. -/
def rank (service : PrebufferedService) : Nat ×ₗ Nat :=
  toLex (service.unserved, service.client.link.work + service.server.link.work)

/-- The ids suffice for all responses. -/
structure Provided (service : PrebufferedService) (endpoint : Side → RpcServiceEndpoint)
    (idSpace : Side → IdSpace) : Prop where
  serving : service.Serving endpoint idSpace
  suffice : ∀ side, service.handedOut side + service.unserved ≤ 2 ^ 31

/-- A step has changed nothing on the links, and no request has been served. -/
structure Unmoved (service after : PrebufferedService) : Prop where
  links : ∀ side, (after.node side).link = (service.node side).link
  waiting : service.server.waiting <+: after.server.waiting
  served : after.server.served = service.server.served
  made : after.client.made = service.client.made

theorem Unmoved.rank_eq {after : PrebufferedService} (unmoved : service.Unmoved after) :
    after.rank = service.rank := by
  have client : after.client.link = service.client.link := unmoved.links .client
  have server : after.server.link = service.server.link := unmoved.links .server
  rw [rank, rank, unserved, unserved, unmoved.served, unmoved.made, client, server]

theorem Unmoved.wished {after : PrebufferedService} (unmoved : service.Unmoved after)
    {wish : ServiceWish} (isWished : Wished wish service) : Wished wish after := by
  cases wish with
  | send side streamId =>
      show (after.node side).link.CanSend streamId
      rw [unmoved.links]
      exact isWished
  | read side =>
      show (after.node side.peer).link.inFlight ≠ []
      rw [unmoved.links]
      exact isWished
  | serve =>
      intro empty
      have isPrefix := unmoved.waiting
      rw [empty, List.prefix_nil] at isPrefix
      exact isWished isPrefix

/-- Less work on the links brings a service forward. -/
theorem rank_lt_of_work {after : PrebufferedService}
    (served : after.server.served = service.server.served)
    (made : after.client.made = service.client.made)
    (less : after.client.link.work + after.server.link.work <
      service.client.link.work + service.server.link.work) : after.rank < service.rank := by
  rw [rank, rank, Prod.Lex.toLex_lt_toLex]
  right
  exact ⟨by rw [unserved, unserved, served, made], less⟩

section Steps

variable (serving : service.Serving endpoint idSpace)
  (few : ∀ side, service.handedOut side ≤ 2 ^ 31)

include serving few

omit few in
/-- Every request collected is a call of its own. -/
theorem Serving.collected_le :
    service.server.waiting.length + service.server.served.length ≤
      service.client.made.length := by
  have atMost := (serving.conversing.collected_subperm .client).length_le
  rw [List.length_append, List.length_map] at atMost
  exact atMost

/-- Putting a frame on the wire brings a service forward, if there is one to put. -/
theorem Serving.send_forward (side : Side) (streamId : UInt32) :
    (service.step (.send side streamId)).rank < service.rank ∨
      ¬ (service.node side).link.CanSend streamId ∧
        service.Unmoved (service.step (.send side streamId)) := by
  have changed : (service.step (.send side streamId)).node side =
      { service.node side with link := (service.node side).link.send streamId } :=
    change_node _ _ _
  by_cases can : (service.node side).link.CanSend streamId
  · left
    have less := (serving.conversing.sound few side).work_send can
    cases side with
    | client => exact rank_lt_of_work rfl rfl (Nat.add_lt_add_right less _)
    | server => exact rank_lt_of_work rfl rfl (Nat.add_lt_add_left less _)
  · right
    refine ⟨can, ?_, ?_, ?_, ?_⟩
    · intro other
      by_cases same : other = side
      · subst same
        rw [changed]
        exact Link.send_idle can
      · rw [Side.eq_peer_of_ne same]
        exact congrArg ServiceNode.link (change_node_peer _ _ _)
    all_goals cases side <;> rfl

/-- Reading brings a service forward, if there is anything to read. -/
theorem Serving.read_forward (side : Side) (count : Nat) :
    (service.step (.read side count)).rank < service.rank ∨
      (service.node side.peer).link.chunk count = [] ∧
        service.Unmoved (service.step (.read side count)) := by
  rcases serving.conversing.read_eq few side count with ⟨state, log, waiting, readEq⟩
  have sameLink := congrArg (fun read => read.1.link) readEq
  have delivered := (service.node side.peer).link.work_deliver count
  by_cases nothing : (service.node side.peer).link.chunk count = []
  · right
    refine ⟨nothing, ?_, ?_, ?_, ?_⟩
    · have idle := Link.deliver_idle nothing
      intro other
      cases side with
      | client =>
          cases other with
          | client => exact sameLink
          | server => exact idle
      | server =>
          cases other with
          | client => exact idle
          | server => exact sameLink
    · cases side with
      | client => exact List.prefix_refl _
      | server => exact List.prefix_append _ _
    all_goals cases side <;> rfl
  · left
    have some := List.length_pos_of_ne_nil nothing
    cases side with
    | client =>
        have client : (service.step (.read .client count)).client.link = service.client.link :=
          sameLink
        have server : (service.step (.read .client count)).server.link =
            service.server.link.deliver count := rfl
        have less : (service.server.link.deliver count).work < service.server.link.work :=
          Nat.lt_of_lt_of_eq (Nat.lt_add_of_pos_right some) delivered
        refine rank_lt_of_work rfl rfl ?_
        rw [client, server]
        exact Nat.add_lt_add_left less _
    | server =>
        have client : (service.step (.read .server count)).client.link =
            service.client.link.deliver count := rfl
        have server : (service.step (.read .server count)).server.link = service.server.link :=
          sameLink
        have less : (service.client.link.deliver count).work < service.client.link.work :=
          Nat.lt_of_lt_of_eq (Nat.lt_add_of_pos_right some) delivered
        refine rank_lt_of_work rfl rfl ?_
        rw [client, server]
        exact Nat.add_lt_add_right less _

omit few in
/-- Serving a request takes it from those that have not been served. -/
theorem Serving.unserved_serve {index : Nat} {entry : UInt32 × RpcRequest}
    (found : service.server.waiting[index]? = some entry) :
    (service.step (.serve .server index)).unserved + 1 = service.unserved := by
  have served : (service.step (.serve .server index)).server.served =
      service.server.served ++ [entry] :=
    congrArg (fun served => served.1.served)
      (ServiceNode.serve_eq found (service.handedOut .server))
  have made : (service.step (.serve .server index)).client.made = service.client.made := rfl
  have waits := List.length_pos_of_mem (List.mem_of_getElem? found)
  have atMost := serving.collected_le
  rw [unserved, unserved, served, made, List.length_append, List.length_singleton]
  omega

omit few in
/-- No request waits at the client. -/
theorem Serving.serve_client (index : Nat) :
    service.client.serve index (service.handedOut .client) =
      (service.client, service.handedOut .client) := by
  apply ServiceNode.serve_none
  rw [serving.unasked]
  rfl

omit few in
theorem Serving.serve_forward (side : Side) (index : Nat) :
    (service.step (.serve side index)).rank < service.rank ∨
      (side = .server → service.server.waiting[index]? = none) ∧
        service.Unmoved (service.step (.serve side index)) := by
  cases side with
  | client =>
      right
      have unchanged : (service.step (.serve .client index)).client = service.client :=
        congrArg Prod.fst (serving.serve_client index)
      refine ⟨nofun, ?_, List.prefix_refl _, rfl, congrArg ServiceNode.made unchanged⟩
      rintro (_ | _)
      · exact congrArg ServiceNode.link unchanged
      · rfl
  | server =>
      cases found : service.server.waiting[index]? with
      | none =>
          right
          have unchanged : (service.step (.serve .server index)).server = service.server :=
            congrArg Prod.fst (ServiceNode.serve_none found (service.handedOut .server))
          refine ⟨fun _ => rfl, ?_, ?_, congrArg ServiceNode.served unchanged, rfl⟩
          · rintro (_ | _)
            · rfl
            · exact congrArg ServiceNode.link unchanged
          · rw [unchanged]
      | some entry =>
          left
          rw [rank, rank, Prod.Lex.toLex_lt_toLex]
          left
          exact Nat.lt_of_succ_le (serving.unserved_serve found).le

/-- A step without a new call brings a service forward, or it does nothing that anyone
wished for. -/
theorem Serving.quiet_forward {step : ServiceStep} (quiet : step.Quiet) :
    (service.step step).rank < service.rank ∨
      (∀ wish : ServiceWish, Wished wish service → ¬ wish.GrantedBy step) ∧
        service.Unmoved (service.step step) := by
  cases step with
  | call methodId encodedArgs => exact quiet.elim
  | draw side => exact quiet.elim
  | send side streamId =>
      rcases serving.send_forward few side streamId with forward | ⟨idle, unmoved⟩
      · exact .inl forward
      · refine .inr ⟨?_, unmoved⟩
        intro wish isWished granted
        cases wish with
        | send =>
            cases granted
            exact idle isWished
        | read =>
            rcases granted with ⟨_, _, isRead⟩
            contradiction
        | serve => contradiction
  | read side count =>
      rcases serving.read_forward few side count with forward | ⟨nothing, unmoved⟩
      · exact .inl forward
      · refine .inr ⟨?_, unmoved⟩
        intro wish isWished granted
        cases wish with
        | send => contradiction
        | read =>
            rcases granted with ⟨_, positive, isRead⟩
            cases isRead
            exact Link.chunk_ne_nil positive isWished nothing
        | serve => contradiction
  | serve side index =>
      rcases serving.serve_forward side index with forward | ⟨none, unmoved⟩
      · exact .inl forward
      · refine .inr ⟨?_, unmoved⟩
        intro wish isWished granted
        cases wish with
        | send => contradiction
        | read =>
            rcases granted with ⟨_, _, isRead⟩
            contradiction
        | serve =>
            cases granted
            exact isWished (List.eq_nil_of_length_eq_zero
              (Nat.le_zero.mp (List.getElem?_eq_none_iff.mp (none rfl))))

/-- Steps without new calls use no more ids than there are requests to answer. -/
theorem Serving.quiet_handedOut {step : ServiceStep} (quiet : step.Quiet) (side : Side) :
    (service.step step).handedOut side + (service.step step).unserved ≤
      service.handedOut side + service.unserved := by
  have oneCounter := serving.conversing.valid.oneCounter
  have unchanged : ∀ {actor : Side} {handedOut : Nat}, handedOut = service.handedOut actor →
      service.toConnection.advance actor handedOut side ≤ service.handedOut side :=
    fun same => oneCounter.advance_le ((Nat.le_of_eq same).trans (Nat.le_add_right _ 0)) side
  cases step with
  | call methodId encodedArgs => exact quiet.elim
  | draw side => exact quiet.elim
  | send actor streamId => cases actor <;> exact Nat.add_le_add_right (unchanged rfl) _
  | read actor count =>
      rcases serving.conversing.read_eq few actor count with ⟨state, log, waiting, readEq⟩
      have counter := congrArg Prod.snd readEq
      cases actor <;> exact Nat.add_le_add_right (unchanged counter) _
  | serve actor index =>
      cases actor with
      | client =>
          have idle := serving.serve_client index
          have sameMade : (service.step (.serve .client index)).client.made =
              service.client.made := congrArg (fun served => served.1.made) idle
          have sameServed : (service.step (.serve .client index)).server.served =
              service.server.served := rfl
          rw [unserved, unserved, sameMade, sameServed]
          exact Nat.add_le_add_right (unchanged (congrArg Prod.snd idle)) _
      | server =>
          cases found : service.server.waiting[index]? with
          | none =>
              have idle := ServiceNode.serve_none found (service.handedOut .server)
              have sameMade : (service.step (.serve .server index)).client.made =
                  service.client.made := rfl
              have sameServed : (service.step (.serve .server index)).server.served =
                  service.server.served := congrArg (fun served => served.1.served) idle
              rw [unserved, unserved, sameMade, sameServed]
              exact Nat.add_le_add_right (unchanged (congrArg Prod.snd idle)) _
          | some entry =>
              have counter : (service.server.serve index (service.handedOut .server)).2 =
                  service.handedOut .server + 1 :=
                congrArg Prod.snd (ServiceNode.serve_eq found (service.handedOut .server))
              have oneMore : (service.step (.serve .server index)).handedOut side ≤
                  service.handedOut side + 1 := oneCounter.advance_le counter.le side
              have served := serving.unserved_serve found
              omega

/-- A service that wishes for nothing is quiescent. -/
theorem Serving.quiescent_of_unwished (content : ∀ wish, ¬ Wished wish service) :
    service.Quiescent where
  sent side outgoing member :=
    (serving.conversing.sound few side).all_sent
      (fun streamId => content (.send side streamId)) member
  drained side := by
    by_contra more
    apply content (.read side.peer)
    show (service.node side.peer.peer).link.inFlight ≠ []
    rw [Side.peer_peer]
    exact more
  handled side := by
    cases side with
    | client => exact serving.unasked
    | server =>
        by_contra more
        exact content .serve more

end Steps

/-! ## Fair runs -/

theorem Provided.few (provided : service.Provided endpoint idSpace) (side : Side) :
    service.handedOut side ≤ 2 ^ 31 :=
  (Nat.le_add_right _ _).trans (provided.suffice side)

/-- The service keeps what it has provided for. -/
theorem Provided.step (provided : service.Provided endpoint idSpace) {step : ServiceStep}
    (quiet : step.Quiet) : (service.step step).Provided endpoint idSpace := by
  have sufficeAfter : ∀ side, (service.step step).handedOut side + (service.step step).unserved ≤
      2 ^ 31 := fun side =>
    (provided.serving.quiet_handedOut provided.few quiet side).trans (provided.suffice side)
  have later := provided.serving.step (quiet.unstreamed endpoint) fun side =>
    (Nat.le_add_right _ _).trans (sufficeAfter side)
  exact ⟨later, sufficeAfter⟩

/-- A step without a new call makes none. -/
theorem made_quiet {step : ServiceStep} (quiet : step.Quiet) :
    ((service.step step).client.made.map fun call => (call.methodId, call.encodedArgs)) =
      service.client.made.map fun call => (call.methodId, call.encodedArgs) := by
  have uncalled : step.called = none := by
    cases step with
    | call => exact quiet.elim
    | _ => rfl
  have made := service.made_peerStep step.toPeer .client
  rw [step.called_client, uncalled] at made
  exact made.trans (List.append_nil _)

section Fair

variable {T : Type u} (decodeResponse : UInt64 → List UInt8 → Except IoError T)

/-- The calls of a service as the machine of remote calls sees them. -/
theorem remoteCalls_calls (service : PrebufferedService) :
    ((service.remoteCalls decodeResponse).calls.map fun call =>
        (call.methodId, call.args)) =
      service.client.made.map fun call => (call.methodId, call.encodedArgs) := by
  apply List.ext_getElem?
  intro index
  rw [remoteCalls, List.getElem?_map, List.getElem?_mapIdx, Option.map_map, List.getElem?_map]
  rfl

theorem Provided.simulates (provided : service.Provided endpoint idSpace) {step : ServiceStep}
    (quiet : step.Quiet) :
    Relation.ReflTransGen (RemoteCalls.Next ((endpoint .server).outcome decodeResponse))
      (service.remoteCalls decodeResponse)
      ((service.step step).remoteCalls decodeResponse) := by
  apply (refines decodeResponse endpoint idSpace).simulates service step
  · exact provided.serving
  · exact ⟨quiet.unstreamed endpoint, (provided.step quiet).few⟩

/-- Calls that have returned stay as they are. -/
theorem Provided.finished (provided : service.Provided endpoint idSpace) {step : ServiceStep}
    (quiet : step.Quiet)
    (finished : (service.remoteCalls decodeResponse).Finished
      ((endpoint .server).outcome decodeResponse)) :
    ((service.step step).remoteCalls decodeResponse).Finished
      ((endpoint .server).outcome decodeResponse) := by
  have sameMade : (service.step step).client.made.length = service.client.made.length := by
    simpa using congrArg List.length (@made_quiet service step quiet)
  have same := finished.eq_of_length (provided.simulates decodeResponse quiet) (by
    simpa [remoteCalls] using sameMade)
  rw [same]
  exact finished

variable (endpoint : Side → RpcServiceEndpoint) (idSpace : Side → IdSpace)

/-- What holds throughout a run without new calls. -/
structure Settling (service : PrebufferedService) : Prop where
  provided : service.Provided endpoint idSpace
  faithful : (service.remoteCalls decodeResponse).Faithful
    ((endpoint .server).outcome decodeResponse)

/-- A service is brought forward by what it wishes for, until all calls have returned. -/
theorem progress :
    Progress step ServiceStep.Quiet (Settling decodeResponse endpoint idSpace)
      (fun service => (service.remoteCalls decodeResponse).Finished
        ((endpoint .server).outcome decodeResponse))
      Wished ServiceWish.GrantedBy rank where
  preserves := by
    rintro service input ⟨provided, faithful⟩ quiet
    exact ⟨provided.step quiet, faithful.reached
      (provided.simulates decodeResponse quiet)⟩
  wishes := by
    rintro service ⟨provided, faithful⟩ unfinished
    have serving := provided.serving
    by_contra content
    apply unfinished
    apply faithful.finished
    exact returned_of_quiescent decodeResponse serving.conversing provided.few
      (serving.quiescent_of_unwished provided.few (not_exists.mp content))
  forward := by
    rintro service input wish ⟨provided, -⟩ quiet isWished
    rcases provided.serving.quiet_forward provided.few quiet with forward | ⟨ungranted, unmoved⟩
    · exact .inl forward
    · exact .inr ⟨unmoved.rank_eq.le, ungranted wish isWished, unmoved.wished isWished⟩

end Fair

/-- Whatever calls have been made, and however far they have come: on every fair schedule
all of them return, each with its own outcome and after one execution of its method,
and it stays so. -/
theorem fair_service_finishes {T : Type u}
    (decodeResponse : UInt64 → List UInt8 → Except IoError T)
    (endpoint : Side → RpcServiceEndpoint) (creation : Creation) (steps : List ServiceStep)
    (schedule : Nat → ServiceStep)
    (unstreamed : ∀ step ∈ steps, step.Unstreamed endpoint)
    (suffice : ∀ side, ((new endpoint creation).run steps).handedOut side +
      ((new endpoint creation).run steps).client.made.length ≤ 2 ^ 31)
    (quiet : ∀ turn, (schedule turn).Quiet) (fair : FairService schedule) :
    ∃ count, ∀ later, count ≤ later →
      let reached := (trace step ((new endpoint creation).run steps) schedule later).remoteCalls
        decodeResponse
      (reached.calls.map fun call => (call.methodId, call.args)) =
          steps.filterMap ServiceStep.called ∧
        reached.Finished ((endpoint .server).outcome decodeResponse) := by
  let service := (new endpoint creation).run steps
  have few : ∀ side, service.handedOut side ≤ 2 ^ 31 :=
    fun side => (Nat.le_add_right _ _).trans (suffice side)
  obtain ⟨serving, fromStart⟩ := (refines decodeResponse endpoint creation.idSpace).run
    (new_serving endpoint creation) (along_run unstreamed few)
  have settling : service.Settling decodeResponse endpoint creation.idSpace := by
    constructor
    · exact ⟨serving,
        fun side => (Nat.add_le_add_left (Nat.sub_le _ _) _).trans (suffice side)⟩
    · exact RemoteCalls.faithful_start.reached fromStart
  have progress := progress decodeResponse endpoint creation.idSpace
  have made : ∀ later, ((trace step service schedule later).client.made.map fun call =>
      (call.methodId, call.encodedArgs)) = steps.filterMap ServiceStep.called := by
    intro later
    induction later with
    | zero => exact (new endpoint creation).made_run steps
    | succ later ih => exact (made_quiet (quiet later)).trans ih
  obtain ⟨count, finished⟩ := progress.reaches_for_good settling quiet fair
    fun settling quietInput finished =>
      settling.provided.finished decodeResponse quietInput finished
  refine ⟨count, fun later notBefore => ⟨?_, finished later notBefore⟩⟩
  rw [remoteCalls_calls]
  exact made later

/-- Streams, ends and requests take turns, and reads are of one byte. -/
def takingTurns (turn : Nat) : ServiceStep :=
  match turn % 5 with
  | 0 => .send .client (UInt32.ofNat (turn / 5))
  | 1 => .send .server (UInt32.ofNat (turn / 5))
  | 2 => .read .client 1
  | 3 => .read .server 1
  | _ => .serve .server 0

theorem takingTurns_quiet (turn : Nat) : (takingTurns turn).Quiet := by
  unfold takingTurns
  split <;> trivial

/-- Each stream id has its turn once in every `2 ^ 32` rounds. -/
theorem takingTurns_fair : FairService takingTurns := by
  have turns : ∀ (now kind : Nat) (streamId : UInt32), kind < 5 →
      let later := 5 * (2 ^ 32 * now + streamId.toNat) + kind
      now ≤ later ∧ later % 5 = kind ∧ UInt32.ofNat (later / 5) = streamId := by
    intro now kind streamId small later
    have round : later / 5 = 2 ^ 32 * now + streamId.toNat := by omega
    refine ⟨by omega, by omega, ?_⟩
    apply UInt32.toNat_inj.mp
    rw [round, UInt32.toNat_ofNat', Nat.mul_add_mod, Nat.mod_eq_of_lt streamId.toNat_lt]
  intro wish now
  cases wish with
  | send side streamId =>
      cases side with
      | client =>
          obtain ⟨notBefore, kind, id⟩ := turns now 0 streamId (by decide)
          refine ⟨_, notBefore, ?_⟩
          simp only [ServiceWish.GrantedBy, takingTurns, kind, id]
      | server =>
          obtain ⟨notBefore, kind, id⟩ := turns now 1 streamId (by decide)
          refine ⟨_, notBefore, ?_⟩
          simp only [ServiceWish.GrantedBy, takingTurns, kind, id]
  | read side =>
      cases side with
      | client =>
          obtain ⟨notBefore, kind, -⟩ := turns now 2 0 (by decide)
          refine ⟨_, notBefore, 1, by decide, ?_⟩
          simp only [takingTurns, kind]
      | server =>
          obtain ⟨notBefore, kind, -⟩ := turns now 3 0 (by decide)
          refine ⟨_, notBefore, 1, by decide, ?_⟩
          simp only [takingTurns, kind]
  | serve =>
      obtain ⟨notBefore, kind, -⟩ := turns now 4 0 (by decide)
      refine ⟨_, notBefore, ?_⟩
      simp only [ServiceWish.GrantedBy, takingTurns, kind]

/-- Two calls have been made, and the server has read the start of the second. -/
def twoCallsStarted : List ServiceStep := twoCalls.take 4 ++ [.read .server 10]

theorem fair_service_finishes_two :
    ∃ count, ∀ later, count ≤ later →
      let reached := (trace step ((new reversing separateProcesses).run twoCallsStarted) takingTurns
        later).remoteCalls fun _ => Except.ok
      (reached.calls.map fun call => (call.methodId, call.args)) = [(5, [1, 2, 3]), (5, [])] ∧
        reached.Finished ((reversing .server).outcome fun _ => Except.ok) := by
  exact fair_service_finishes (fun _ => Except.ok) reversing separateProcesses
    twoCallsStarted takingTurns (fun step _ => reversing_unstreamed step)
    (fun side => by cases side <;> decide +kernel) takingTurns_quiet takingTurns_fair

end PrebufferedService

end Muxio.Service
