import Muxio.Rpc.Lifetime

/-!
# Reuse of request ids

All dispatchers of a process draw their request ids and stream ids from one
counter, and an id keeps only the low 31 bits of the count at which it was
drawn.  A call that stays open for long enough can therefore meet its own id
again: the next call of its dispatcher is stored under the same id exactly when
the two counts agree modulo `2 ^ 31`.
-/

namespace Muxio.Rpc

open Std
open Muxio.Framing

universe u

/-! ## A process -/

/-- The dispatchers of a process and its id counter. -/
structure Process (H : Type u) where
  lives : List (Lifetime H)
  handedOut : Nat

inductive ProcessEvent (H : Type u) where
  | create (idSpace : IdSpace)
  | act (index : Nat) (step : DispatcherStep H)

namespace Process

variable {H : Type u}

/-- A process that has just started. -/
def start : Process H := ⟨[], 0⟩

def step (process : Process H) : ProcessEvent H → Process H
  | .create idSpace =>
      ⟨process.lives ++ [Lifetime.new idSpace process.handedOut],
        (RpcDispatcher.newWithIdSpace idSpace process.handedOut : RpcDispatcher H × Nat).2⟩
  | .act index step =>
      match process.lives[index]? with
      | none => process
      | some life =>
          let next := life.step process.handedOut step
          ⟨process.lives.set index next.1, next.2⟩

def run (process : Process H) (events : List (ProcessEvent H)) : Process H :=
  events.foldl step process

end Process

/-! ## What is stored for pending calls -/

namespace Lifetime

variable {H : Type u}

/-- The flags stored are those of the pending calls. -/
structure Stored (life : Lifetime H) : Prop where
  made : ∀ call ∈ life.pending, call ∈ life.calls
  flagged : ∀ call ∈ life.pending,
    life.dispatcher.routing.prebufferingFlags.contains call.rpcRequestId = true
  owned : ∀ rpcId, life.dispatcher.routing.prebufferingFlags.contains rpcId = true →
    ∃ call ∈ life.pending, call.rpcRequestId = rpcId

theorem new_stored (idSpace : IdSpace) (start : Nat) :
    (new idSpace start : Lifetime H).Stored where
  made := nofun
  flagged := nofun
  owned := by
    intro rpcId stored
    change (∅ : ExtTreeMap UInt32 Bool compare).contains rpcId = true at stored
    simp at stored

namespace Stored

variable {life : Lifetime H}

theorem after (stored : life.Stored) {dispatcher : RpcDispatcher H}
    (fewer : ∀ rpcId, dispatcher.routing.prebufferingFlags.contains rpcId = true →
      life.dispatcher.routing.prebufferingFlags.contains rpcId = true)
    (actions : List (Action H)) : (life.after dispatcher actions).Stored := by
  constructor
  · intro call member
    exact stored.made call (List.mem_filter.mp member).1
  · intro call member
    exact (List.mem_filter.mp member).2
  · intro rpcId kept
    obtain ⟨call, member, rfl⟩ := stored.owned rpcId (fewer rpcId kept)
    exact ⟨call, List.mem_filter.mpr ⟨member, kept⟩, rfl⟩

theorem readBytes_flags (dispatcher : RpcDispatcher H) (bytes : List UInt8) (rpcId : UInt32)
    (kept : (dispatcher.readBytes bytes).2.1.routing.prebufferingFlags.contains rpcId = true) :
    dispatcher.routing.prebufferingFlags.contains rpcId = true := by
  rw [RpcDispatcher.readBytes_eq] at kept
  rw [ExtTreeMap.contains_eq_isSome_getElem?, Option.isSome_iff_exists] at kept ⊢
  obtain ⟨flag, found⟩ := kept
  have slotEq := (Routing.onEvents_slot dispatcher.rpcRespondableSession.streamMethodRouter
    dispatcher.rpcRespondableSession.catchAllResponseHandler dispatcher.routing
    (dispatcher.session.decodeBytes bytes).1 rpcId).1
  have kept := (congrArg Slot.prebuffering slotEq).symm.trans found
  rw [Slot.onEvents_prebuffering] at kept
  split at kept
  · contradiction
  · exact ⟨flag, kept⟩

theorem step (stored : life.Stored) (handedOut : Nat) (step : DispatcherStep H) :
    (life.step handedOut step).1.Stored := by
  cases step with
  | call rpcRequest maxChunkSize onResponse prebufferResponse =>
      have flags : (life.dispatcher.call rpcRequest maxChunkSize onResponse prebufferResponse
          handedOut).dispatcher.routing.prebufferingFlags =
            life.dispatcher.routing.prebufferingFlags.insert life.dispatcher.callId
              prebufferResponse := by
        cases onResponse <;> rfl
      constructor
      · intro call member
        rcases List.mem_append.mp member with old | new
        · exact List.mem_append_left _ (stored.made call old)
        · exact List.mem_append_right _ new
      · intro call member
        rw [Lifetime.step, flags, ExtTreeMap.contains_insert, Bool.or_eq_true]
        rcases List.mem_append.mp member with old | new
        · exact .inr (stored.flagged call old)
        · rw [List.mem_singleton.mp new]
          exact .inl (by simp)
      · intro rpcId found
        rw [Lifetime.step, flags, ExtTreeMap.contains_insert, Bool.or_eq_true] at found
        rcases found with new | old
        · exact ⟨_, List.mem_append_right _ List.mem_cons_self, by simpa using new⟩
        · obtain ⟨call, member, own⟩ := stored.owned rpcId old
          exact ⟨call, List.mem_append_left _ member, own⟩
  | readBytes bytes => exact stored.after (readBytes_flags life.dispatcher bytes) _
  | failAllPendingRequests error =>
      apply stored.after
      intro rpcId found
      change (∅ : ExtTreeMap UInt32 Bool compare).contains rpcId = true at found
      simp at found
  | respond | createResponseWriter | setStreamMethodRouter | deleteRpcRequest | draw =>
      exact ⟨stored.made, stored.flagged, stored.owned⟩

end Stored

/-- The id of the next call is stored for a pending call exactly when one of them
was drawn at a count that agrees with the new one modulo `2 ^ 31`. -/
theorem callId_stored_iff {life : Lifetime H} {idSpace : IdSpace} {handedOut : Nat}
    (numbered : life.Numbered idSpace handedOut) (stored : life.Stored) :
    ((∀ call ∈ life.pending, call.rpcRequestId ≠ life.dispatcher.callId) ↔
        life.dispatcher.routing.prebufferingFlags[life.dispatcher.callId]? = none) ∧
      ((∀ call ∈ life.pending, call.rpcRequestId ≠ life.dispatcher.callId) ↔
        ∀ call ∈ life.pending, call.draw % 2 ^ 31 ≠ life.nextDraw % 2 ^ 31) := by
  constructor
  · rw [← Option.not_isSome_iff_eq_none, ← ExtTreeMap.contains_eq_isSome_getElem?]
    constructor
    · intro fresh found
      obtain ⟨call, member, same⟩ := stored.owned _ found
      exact fresh call member same
    · intro absent call member same
      exact absent (same ▸ stored.flagged call member)
  · apply forall₂_congr
    intro call member
    rw [numbered.ids call (stored.made call member), numbered.callId, Ne, IdSpace.draw_eq_iff]

end Lifetime

/-! ## Whole runs of a process -/

namespace Process

variable {H : Type u}

/-- Every dispatcher's ids come from the counter, and it stores its pending calls. -/
def Valid (process : Process H) : Prop :=
  ∀ life ∈ process.lives, (∃ idSpace, life.Numbered idSpace process.handedOut) ∧ life.Stored

theorem start_valid : (start : Process H).Valid := by
  intro life member
  contradiction

theorem Valid.step {process : Process H} (valid : process.Valid) (event : ProcessEvent H) :
    (process.step event).Valid := by
  cases event with
  | create idSpace =>
      intro life member
      rcases List.mem_append.mp member with old | new
      · obtain ⟨⟨space, numbered⟩, stored⟩ := valid life old
        exact ⟨⟨space, numbered.grow (Nat.le_add_right _ 2)⟩, stored⟩
      · rw [List.mem_singleton.mp new]
        exact ⟨⟨idSpace, Lifetime.new_numbered idSpace (Nat.le_refl _)⟩,
          Lifetime.new_stored idSpace _⟩
  | act index step =>
      rw [Process.step]
      cases found : process.lives[index]? with
      | none => exact valid
      | some acting =>
          obtain ⟨⟨space, numbered⟩, stored⟩ := valid acting (List.mem_of_getElem? found)
          intro life member
          rcases List.mem_or_eq_of_mem_set member with other | rfl
          · obtain ⟨⟨otherSpace, otherNumbered⟩, otherStored⟩ := valid life other
            exact ⟨⟨otherSpace, otherNumbered.grow (acting.step_handedOut _ step)⟩, otherStored⟩
          · exact ⟨⟨space, numbered.step step⟩, stored.step process.handedOut step⟩

theorem Valid.run {process : Process H} (valid : process.Valid) (events : List (ProcessEvent H)) :
    (process.run events).Valid := by
  induction events generalizing process with
  | nil => exact valid
  | cons event rest ih => exact ih (valid.step event)

/-- In every run of a process, the next call of a dispatcher is stored under an id
that no pending call of it uses, exactly when the counts differ modulo `2 ^ 31`. -/
theorem pending_id_spared_iff (events : List (ProcessEvent H)) (life : Lifetime H)
    (used : life ∈ (start.run events).lives) :
    ((∀ call ∈ life.pending, call.rpcRequestId ≠ life.dispatcher.callId) ↔
        life.dispatcher.routing.prebufferingFlags[life.dispatcher.callId]? = none) ∧
      ((∀ call ∈ life.pending, call.rpcRequestId ≠ life.dispatcher.callId) ↔
        ∀ call ∈ life.pending, call.draw % 2 ^ 31 ≠ life.nextDraw % 2 ^ 31) := by
  obtain ⟨⟨idSpace, numbered⟩, stored⟩ := start_valid.run events life used
  exact Lifetime.callId_stored_iff numbered stored

/-- A dispatcher with one open call, in a process with two dispatchers. -/
theorem pending_id_spared_iff_second_call :
    let events : List (ProcessEvent Bool) :=
      [.create .client, .create .server, .act 0 (.call ⟨5, none, none, true⟩ 64 (some true) false)]
    ∀ life ∈ (start.run events).lives, ∀ call ∈ life.pending,
      call.rpcRequestId ≠ life.dispatcher.callId := by
  intro events life used
  have spared := (pending_id_spared_iff events life used).2
  rw [spared]
  fin_cases used <;> decide

/-- Answers of one dispatcher move the counter on and leave the others alone. -/
theorem run_respond (first second : Lifetime H) (handedOut : Nat) (rpcResponse : RpcResponse)
    (maxChunkSize answers : Nat) :
    ∃ second', (Process.mk [first, second] handedOut).run
        (List.replicate answers (.act 1 (.respond rpcResponse maxChunkSize))) =
      ⟨[first, second'], handedOut + answers⟩ := by
  induction answers generalizing second handedOut with
  | zero => exact ⟨second, rfl⟩
  | succ answers ih =>
      obtain ⟨second', ran⟩ := ih
        (second.step handedOut (.respond rpcResponse maxChunkSize)).1 (handedOut + 1)
      refine ⟨second', ?_⟩
      rw [List.replicate_succ, ← Nat.add_assoc, Nat.add_right_comm]
      exact ran

/-- Two calls of one dispatcher with answers of another one in between. -/
def callsAround (answers : Nat) (first second : DispatcherStep H) : List (ProcessEvent H) :=
  [.create .client, .act 0 first, .create .server] ++
    List.replicate answers (.act 1 (.respond ⟨7, 5, some 0, none, true⟩ 64)) ++ [.act 0 second]

theorem run_callsAround (answers : Nat) (first second : DispatcherStep H) :
    let opened := (Lifetime.new .client 0 : Lifetime H).step 2 first
    ∃ server, start.run (callsAround answers first second) =
      ⟨[(opened.1.step (opened.2 + 2 + answers) second).1, server],
        (opened.1.step (opened.2 + 2 + answers) second).2⟩ := by
  intro opened
  obtain ⟨server, answered⟩ := run_respond opened.1 (Lifetime.new .server opened.2)
    (opened.2 + 2) ⟨7, 5, some 0, none, true⟩ 64 answers
  refine ⟨server, ?_⟩
  rw [callsAround, run, List.foldl_append, List.foldl_append]
  exact congrArg (fun process => process.step (.act 0 second)) answered

/-- The first call of a dispatcher stays open while another dispatcher answers
until the counter has gone round.  The dispatcher's third call then gets the id of
the first, and its handler takes the place of the handler that is still waiting. -/
theorem open_call_replaced :
    let call (rpcMethodId : UInt64) (handler : Nat) : DispatcherStep Nat :=
      .call ⟨rpcMethodId, none, none, true⟩ 64 (some handler) false
    let process := start.run (callsAround 2147483643 (call 5 1) (call 6 2))
    ∃ life, process.lives[0]? = some life ∧
      life.pending.map MadeCall.rpcRequestId = [1, 2] ∧
      life.dispatcher.callId = 1 ∧
      life.dispatcher.routing.responseHandlers[(1 : UInt32)]? = some 1 ∧
      (life.step process.handedOut
        (call 7 3)).1.dispatcher.routing.responseHandlers[(1 : UInt32)]? = some 3 := by
  intro call process
  obtain ⟨server, ran⟩ := run_callsAround 2147483643 (call 5 1) (call 6 2)
  change process = _ at ran
  rw [ran]
  refine ⟨_, rfl, by decide, by decide, by decide, ?_⟩
  clear ran process
  dsimp only
  decide

end Process

end Muxio.Rpc
