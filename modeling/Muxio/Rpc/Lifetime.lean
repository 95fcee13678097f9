import Muxio.Rpc.Calls
import Muxio.Rpc.Handlers

/-!
# The lifetime of a dispatcher

A dispatcher is created once and then used in any order: it makes calls, answers,
reads what arrives and, when its connection is lost, fails what is pending.
Other users of the id counter may draw in between.

Beside the dispatcher, a lifetime records the calls made, those still stored
under their request id, and everything the read callback and the failure of
pending requests did.
-/

namespace Muxio.Rpc

open Std
open Muxio.Framing

universe u

/-- A call as it was made, with the count at which its request id was drawn and
the response handler it registered. -/
structure MadeCall (H : Type u) where
  rpcRequestId : UInt32
  draw : Nat
  onResponse : Option H

/-- What is done with a dispatcher, or by others with the id counter. -/
inductive DispatcherStep (H : Type u) where
  | call (rpcRequest : RpcRequest) (maxChunkSize : Nat) (onResponse : Option H)
      (prebufferResponse : Bool)
  | respond (rpcResponse : RpcResponse) (maxChunkSize : Nat)
  | createResponseWriter (requestId : UInt32) (maxChunkSize : Nat)
  | readBytes (bytes : List UInt8)
  | setStreamMethodRouter (router : StreamMethodRouter H)
  | deleteRpcRequest (headerId : UInt32)
  | failAllPendingRequests (error : FrameDecodeError)
  | draw

/-- A dispatcher in use. -/
structure Lifetime (H : Type u) where
  dispatcher : RpcDispatcher H
  /-- The count at which the request id of the next call was drawn. -/
  nextDraw : Nat
  calls : List (MadeCall H)
  /-- The calls whose entry in `prebuffering_flags` has not been removed since. -/
  pending : List (MadeCall H)
  log : List (Action H)

namespace Lifetime

variable {H : Type u}

def new (idSpace : IdSpace) (start : Nat) : Lifetime H where
  dispatcher := (RpcDispatcher.newWithIdSpace idSpace start).1
  nextDraw := start + 1
  calls := []
  pending := []
  log := []

/-- The dispatcher has moved on, and calls may have been settled. -/
def after (life : Lifetime H) (dispatcher : RpcDispatcher H) (actions : List (Action H)) :
    Lifetime H :=
  { life with
    dispatcher := dispatcher
    pending := life.pending.filter fun call =>
      dispatcher.routing.prebufferingFlags.contains call.rpcRequestId
    log := life.log ++ actions }

/-- One step, when `handedOut` ids have been handed out in the process. -/
def step (life : Lifetime H) (handedOut : Nat) : DispatcherStep H → Lifetime H × Nat
  | .call rpcRequest maxChunkSize onResponse prebufferResponse =>
      let opened := life.dispatcher.call rpcRequest maxChunkSize onResponse prebufferResponse
        handedOut
      let made : MadeCall H := ⟨life.dispatcher.callId, life.nextDraw, onResponse⟩
      ({ life with
          dispatcher := opened.dispatcher
          nextDraw := handedOut
          calls := life.calls ++ [made]
          pending := life.pending ++ [made] }, opened.handedOut)
  | .respond rpcResponse maxChunkSize =>
      let opened := life.dispatcher.respond rpcResponse maxChunkSize handedOut
      ({ life with dispatcher := opened.dispatcher }, opened.handedOut)
  | .createResponseWriter requestId maxChunkSize =>
      let opened := life.dispatcher.createResponseWriter requestId maxChunkSize handedOut
      ({ life with dispatcher := opened.dispatcher }, opened.handedOut)
  | .readBytes bytes =>
      let read := life.dispatcher.readBytes bytes
      (life.after read.2.1 read.2.2, handedOut)
  | .setStreamMethodRouter router =>
      ({ life with dispatcher := life.dispatcher.setStreamMethodRouter router }, handedOut)
  | .deleteRpcRequest headerId =>
      ({ life with dispatcher := (life.dispatcher.deleteRpcRequest headerId).2 }, handedOut)
  | .failAllPendingRequests error =>
      let failed := life.dispatcher.failAllPendingRequests error
      (life.after failed.1 failed.2, handedOut)
  | .draw => (life, (incrementU32Id handedOut).2)

def run (life : Lifetime H) (handedOut : Nat) : List (DispatcherStep H) → Lifetime H × Nat
  | [] => (life, handedOut)
  | first :: rest =>
      let next := life.step handedOut first
      next.1.run next.2 rest

theorem step_handedOut (life : Lifetime H) (handedOut : Nat) (step : DispatcherStep H) :
    handedOut ≤ (life.step handedOut step).2 := by
  cases step with
  | call => exact Nat.le_add_right handedOut 2
  | respond | createResponseWriter | draw => exact Nat.le_succ handedOut
  | _ => exact Nat.le_refl handedOut

theorem run_handedOut (life : Lifetime H) (handedOut : Nat) (steps : List (DispatcherStep H)) :
    handedOut ≤ (life.run handedOut steps).2 := by
  induction steps generalizing life handedOut with
  | nil => exact Nat.le_refl handedOut
  | cons first rest ih => exact (life.step_handedOut handedOut first).trans (ih _ _)

/-! ## Request ids -/

/-- The request ids of a lifetime are those drawn at the recorded counts. -/
structure Numbered (life : Lifetime H) (idSpace : IdSpace) (handedOut : Nat) : Prop where
  space : life.dispatcher.idSpace = idSpace
  next : ∃ streamDraw, life.dispatcher.NextDraws life.nextDraw streamDraw
  drawn : Drawn handedOut life.nextDraw (life.calls.map MadeCall.draw)
  ids : ∀ call ∈ life.calls, call.rpcRequestId = idSpace.draw call.draw

theorem new_numbered (idSpace : IdSpace) {start handedOut : Nat} (created : start + 2 ≤ handedOut) :
    (new idSpace start : Lifetime H).Numbered idSpace handedOut where
  space := rfl
  next := ⟨start, RpcDispatcher.new_nextDraws idSpace start⟩
  drawn := ⟨List.nodup_singleton _, by simp [new]; omega⟩
  ids := nofun

namespace Numbered

variable {life : Lifetime H} {idSpace : IdSpace} {handedOut : Nat}

theorem callId (numbered : life.Numbered idSpace handedOut) :
    life.dispatcher.callId = idSpace.draw life.nextDraw := by
  obtain ⟨streamDraw, draws⟩ := numbered.next
  rw [draws.callId, numbered.space]

theorem ids_nodup (numbered : life.Numbered idSpace handedOut) (few : handedOut ≤ 2 ^ 31) :
    (life.dispatcher.callId :: life.calls.map MadeCall.rpcRequestId).Nodup := by
  have nodup := numbered.drawn.ids_nodup few idSpace
  rw [List.map_cons, List.map_map] at nodup
  rw [numbered.callId, List.map_congr_left numbered.ids]
  exact nodup

theorem grow (numbered : life.Numbered idSpace handedOut) {handedOut' : Nat}
    (grows : handedOut ≤ handedOut') : life.Numbered idSpace handedOut' :=
  ⟨numbered.space, numbered.next, numbered.drawn.grow grows, numbered.ids⟩

theorem step (numbered : life.Numbered idSpace handedOut) (step : DispatcherStep H) :
    (life.step handedOut step).1.Numbered idSpace (life.step handedOut step).2 := by
  have grown := numbered.drawn.grow (life.step_handedOut handedOut step)
  obtain ⟨streamDraw, draws⟩ := numbered.next
  cases step with
  | call rpcRequest maxChunkSize onResponse prebufferResponse =>
      constructor
      · exact numbered.space
      · exact ⟨_, draws.call rpcRequest maxChunkSize onResponse prebufferResponse handedOut⟩
      · rw [Lifetime.step, List.map_append]
        exact numbered.drawn.use (Nat.le_refl handedOut) (Nat.lt_add_of_pos_right Nat.two_pos)
      · intro call member
        rcases List.mem_append.mp member with earlier | made
        · exact numbered.ids call earlier
        · rw [List.mem_singleton.mp made]
          exact numbered.callId
  | respond rpcResponse maxChunkSize =>
      exact ⟨numbered.space, ⟨_, draws.respond rpcResponse maxChunkSize handedOut⟩, grown,
        numbered.ids⟩
  | createResponseWriter requestId maxChunkSize =>
      exact ⟨numbered.space, ⟨handedOut, draws.request, rfl, draws.space⟩, grown, numbered.ids⟩
  | readBytes bytes =>
      exact ⟨numbered.space, ⟨_, draws.readBytes bytes⟩, grown, numbered.ids⟩
  | setStreamMethodRouter router =>
      exact ⟨numbered.space, ⟨_, draws.request, draws.stream, draws.space⟩, grown, numbered.ids⟩
  | deleteRpcRequest headerId =>
      exact ⟨numbered.space, ⟨_, draws.request, draws.stream, draws.space⟩, grown, numbered.ids⟩
  | failAllPendingRequests error =>
      exact ⟨numbered.space, ⟨_, draws.request, draws.stream, draws.space⟩, grown, numbered.ids⟩
  | draw => exact ⟨numbered.space, numbered.next, grown, numbered.ids⟩

end Numbered

end Lifetime

end Muxio.Rpc
