import Muxio.Rpc.Handlers
import Muxio.Transition.Interleaving

/-!
# Dropping a sync client

A sync client that is dropped races with its reader thread.  `Drop` runs
`shutdown_sync`, and the reader thread, whose read loop has ended, runs its own
teardown.  Both swap the `is_connected` flag, and only the one that finds it set
goes on: `shutdown_sync` reports `Disconnected`, while the reader reports
`Disconnected` and also fails the pending requests.  Who is first therefore
decides whether the pending requests hear of the disconnect.

`Drop` kills a spawned child before any of this; that touches none of the state
modelled here.
-/

namespace Muxio.Service

open Std
open Muxio.Framing
open Muxio.Rpc
open Muxio.Transition

universe u

variable {H : Type u}

/-! ## The client and its two teardowns -/

inductive RpcTransportState where
  | connected
  | disconnected
  deriving DecidableEq, Repr

/-- The state that a client shares with its reader thread. -/
structure RpcSyncClient (H : Type u) where
  dispatcher : RpcDispatcher H
  isConnected : Bool
  disconnectError : Option String
  /-- Whether a state change handler is set. -/
  stateChangeHandler : Bool
  /-- Whether the lock of the state change handler is held. -/
  handlerLocked : Bool
  /-- What the state change handler was called with. -/
  reported : List RpcTransportState
  /-- The calls of response handlers. -/
  actions : List (Action H)

/-- How the read loop ended: `Ok(0)` or `Err(_)`. -/
inductive ReadEnd where
  | eof
  | failed
  deriving DecidableEq, Repr

inductive DropPhase where
  | swap
  | notify
  | done
  deriving DecidableEq, Repr

inductive ReaderPhase where
  | leaveLoop
  | swap
  | lock
  | notify
  | fail
  | done
  deriving DecidableEq, Repr

/-- The reader is not in the part of its teardown that follows a successful swap. -/
def ReaderPhase.isOutside : ReaderPhase → Bool
  | leaveLoop => true
  | swap => true
  | done => true
  | _ => false

namespace RpcSyncClient

/-- A connected client with requests pending in its dispatcher. -/
def connected (dispatcher : RpcDispatcher H) (stateChangeHandler : Bool) : RpcSyncClient H where
  dispatcher := dispatcher
  isConnected := true
  disconnectError := none
  stateChangeHandler := stateChangeHandler
  handlerLocked := false
  reported := []
  actions := []

/-- Call the state change handler, if one is set. -/
def report (client : RpcSyncClient H) (state : RpcTransportState) : RpcSyncClient H :=
  { client with
    reported := client.reported ++ if client.stateChangeHandler then [state] else [] }

/-- The next atomic step of `shutdown_sync`, which only tries to take the lock. -/
def shutdownSync (client : RpcSyncClient H) : DropPhase → DropPhase × RpcSyncClient H
  | .swap => (if client.isConnected then .notify else .done, { client with isConnected := false })
  | .notify => (.done, if client.handlerLocked then client else client.report .disconnected)
  | .done => (.done, client)

/-- The error that pending requests are failed with. -/
def teardownError (client : RpcSyncClient H) : FrameDecodeError :=
  match client.disconnectError with
  | some message => .transport message
  | none => .readAfterCancel

/-- The next atomic step of the reader thread, from the end of its loop on.  It waits for the
lock and holds it until the pending requests have been failed. -/
def readerTeardown (ending : ReadEnd) (client : RpcSyncClient H) :
    ReaderPhase → ReaderPhase × RpcSyncClient H
  | .leaveLoop =>
      match ending with
      | .eof =>
          (.swap, { client with
            disconnectError :=
              client.disconnectError.or (some "unexpected EOF (transport closed)") })
      | .failed => (.swap, client)
  | .swap => (if client.isConnected then .lock else .done, { client with isConnected := false })
  | .lock =>
      if client.handlerLocked then (.lock, client)
      else (.notify, { client with handlerLocked := true })
  | .notify => (.fail, client.report .disconnected)
  | .fail =>
      let failed := client.dispatcher.failAllPendingRequests client.teardownError
      (.done, { client with
        dispatcher := failed.1
        actions := client.actions ++ failed.2
        handlerLocked := false })
  | .done => (.done, client)

end RpcSyncClient

/-- One of the two threads, with its next step. -/
inductive TeardownThread where
  | drop (phase : DropPhase)
  | reader (ending : ReadEnd) (phase : ReaderPhase)
  deriving DecidableEq, Repr

def TeardownThread.act (thread : TeardownThread) (client : RpcSyncClient H) :
    TeardownThread × RpcSyncClient H :=
  match thread with
  | drop phase => (drop (client.shutdownSync phase).1, (client.shutdownSync phase).2)
  | reader ending phase =>
      let acted := client.readerTeardown ending phase
      (reader ending acted.1, acted.2)

/-- A client with the two threads: a schedule has `0` for a turn of `Drop` and `1` for one of the
reader. -/
def teardown (client : RpcSyncClient H) (dropPhase : DropPhase) (ending : ReadEnd)
    (readerPhase : ReaderPhase) : Interleaving (RpcSyncClient H) TeardownThread :=
  ⟨client, [.drop dropPhase, .reader ending readerPhase]⟩

/-- The number of turns that the reader takes before the first turn of `Drop`. -/
def readerTurnsFirst : List Nat → Nat
  | [] => 0
  | 0 :: _ => 0
  | 1 :: rest => readerTurnsFirst rest + 1
  | _ :: rest => readerTurnsFirst rest

/-- In its second turn the reader swaps the flag; `Drop` does so in its first, and that comes
later. -/
def readerSwapsFirst (schedule : List Nat) : Bool := 2 ≤ readerTurnsFirst schedule

/-! ## One turn -/

section Turns

variable {client : RpcSyncClient H} {dropPhase : DropPhase} {ending : ReadEnd}
  {readerPhase : ReaderPhase}

/-- Once the flag is cleared, `shutdown_sync` does nothing unless it was the one to clear it. -/
theorem shutdownSync_outside (cleared : client.isConnected = false)
    (outside : dropPhase ≠ .notify) :
    (client.shutdownSync dropPhase).1 = .done ∧ (client.shutdownSync dropPhase).2 = client := by
  obtain ⟨dispatcher, isConnected, disconnectError, handler, locked, reported, actions⟩ := client
  subst cleared
  cases dropPhase with
  | swap => exact ⟨rfl, rfl⟩
  | notify => contradiction
  | done => exact ⟨rfl, rfl⟩

/-- Once the flag is cleared, the reader only records its error unless it was the one to clear
it. -/
theorem readerTeardown_outside (cleared : client.isConnected = false)
    (outside : readerPhase.isOutside = true) :
    (client.readerTeardown ending readerPhase).1.isOutside = true ∧
      ∃ message, (client.readerTeardown ending readerPhase).2 =
        { client with disconnectError := message } := by
  obtain ⟨dispatcher, isConnected, disconnectError, handler, locked, reported, actions⟩ := client
  subst cleared
  cases readerPhase with
  | leaveLoop =>
      cases ending with
      | eof => exact ⟨rfl, _, rfl⟩
      | failed => exact ⟨rfl, _, rfl⟩
  | swap => exact ⟨rfl, _, rfl⟩
  | done => exact ⟨rfl, _, rfl⟩
  | lock => contradiction
  | notify => contradiction
  | fail => contradiction

theorem teardown_drop_turn :
    (teardown client dropPhase ending readerPhase).step TeardownThread.act 0 =
      teardown (client.shutdownSync dropPhase).2 (client.shutdownSync dropPhase).1 ending
        readerPhase :=
  rfl

theorem teardown_reader_turn :
    (teardown client dropPhase ending readerPhase).step TeardownThread.act 1 =
      teardown (client.readerTeardown ending readerPhase).2 dropPhase ending
        (client.readerTeardown ending readerPhase).1 :=
  rfl

theorem teardown_other_turn (turn : Nat) :
    (teardown client dropPhase ending readerPhase).step TeardownThread.act (turn + 2) =
      teardown client dropPhase ending readerPhase :=
  rfl

end Turns

section Race

variable (dispatcher : RpcDispatcher H) (stateChangeHandler : Bool)

/-- A client whose flag has been swapped. -/
def swapped (message : Option String) : RpcSyncClient H :=
  { RpcSyncClient.connected dispatcher stateChangeHandler with
    isConnected := false
    disconnectError := message }

/-- `Drop` has swapped the flag: the reader will not go past its own swap. -/
inductive DropWon : RpcSyncClient H → DropPhase → ReaderPhase → Prop where
  | notify {message : Option String} {readerPhase : ReaderPhase}
      (outside : readerPhase.isOutside = true) :
      DropWon (swapped dispatcher stateChangeHandler message) .notify readerPhase
  | done {message : Option String} {readerPhase : ReaderPhase}
      (outside : readerPhase.isOutside = true) :
      DropWon ((swapped dispatcher stateChangeHandler message).report .disconnected) .done
        readerPhase

/-- The reader has swapped the flag: `Drop` will not report. -/
inductive ReaderWon : RpcSyncClient H → DropPhase → ReaderPhase → Prop where
  | lock {message : Option String} {dropPhase : DropPhase} (outside : dropPhase ≠ .notify) :
      ReaderWon (swapped dispatcher stateChangeHandler message) dropPhase .lock
  | notify {message : Option String} {dropPhase : DropPhase} (outside : dropPhase ≠ .notify) :
      ReaderWon { swapped dispatcher stateChangeHandler message with handlerLocked := true }
        dropPhase .notify
  | fail {message : Option String} {dropPhase : DropPhase} (outside : dropPhase ≠ .notify) :
      ReaderWon
        ({ swapped dispatcher stateChangeHandler message with handlerLocked := true }.report
          .disconnected) dropPhase .fail
  | done {message : Option String} {dropPhase : DropPhase} {error : FrameDecodeError}
      (outside : dropPhase ≠ .notify) :
      ReaderWon
        { (swapped dispatcher stateChangeHandler message).report .disconnected with
          dispatcher := (dispatcher.failAllPendingRequests error).1
          actions := (dispatcher.failAllPendingRequests error).2 } dropPhase .done

/-- Nobody has swapped the flag, and the reader needs some more turns until it does. -/
inductive Undecided (ending : ReadEnd) :
    Nat → Interleaving (RpcSyncClient H) TeardownThread → Prop where
  | leaveLoop : Undecided ending 2 (teardown (RpcSyncClient.connected dispatcher
      stateChangeHandler) .swap ending .leaveLoop)
  | swap {message : Option String} : Undecided ending 1 (teardown
      { RpcSyncClient.connected dispatcher stateChangeHandler with disconnectError := message }
      .swap ending .swap)

variable {dispatcher stateChangeHandler} {ending : ReadEnd} {client : RpcSyncClient H}
  {dropPhase : DropPhase} {readerPhase : ReaderPhase}

theorem DropWon.dropTurn
    (won : DropWon dispatcher stateChangeHandler client dropPhase readerPhase) :
    DropWon dispatcher stateChangeHandler (client.shutdownSync dropPhase).2
      (client.shutdownSync dropPhase).1 readerPhase := by
  cases won with
  | notify outside => exact .done outside
  | done outside => exact .done outside

theorem DropWon.readerTurn
    (won : DropWon dispatcher stateChangeHandler client dropPhase readerPhase) :
    DropWon dispatcher stateChangeHandler (client.readerTeardown ending readerPhase).2 dropPhase
      (client.readerTeardown ending readerPhase).1 := by
  have outside : readerPhase.isOutside = true ∧ client.isConnected = false := by
    cases won <;> exact ⟨by assumption, rfl⟩
  obtain ⟨stillOutside, message, acted⟩ := readerTeardown_outside outside.2 outside.1
  rw [acted]
  cases won with
  | notify => exact .notify stillOutside
  | done => exact .done stillOutside

theorem ReaderWon.dropTurn
    (won : ReaderWon dispatcher stateChangeHandler client dropPhase readerPhase) :
    ReaderWon dispatcher stateChangeHandler (client.shutdownSync dropPhase).2
      (client.shutdownSync dropPhase).1 readerPhase := by
  have outside : dropPhase ≠ .notify ∧ client.isConnected = false := by
    cases won <;> exact ⟨by assumption, rfl⟩
  obtain ⟨ends, unchanged⟩ := shutdownSync_outside outside.2 outside.1
  rw [ends, unchanged]
  cases won with
  | lock => exact .lock (by decide)
  | notify => exact .notify (by decide)
  | fail => exact .fail (by decide)
  | done => exact .done (by decide)

theorem ReaderWon.readerTurn
    (won : ReaderWon dispatcher stateChangeHandler client dropPhase readerPhase) :
    ReaderWon dispatcher stateChangeHandler (client.readerTeardown ending readerPhase).2 dropPhase
      (client.readerTeardown ending readerPhase).1 := by
  cases won with
  | lock outside => exact .notify outside
  | notify outside => exact .fail outside
  | fail outside => exact .done outside
  | done outside => exact .done outside

/-- A state of the race in which one of the two has won. -/
def Decided (ending : ReadEnd) (won : RpcSyncClient H → DropPhase → ReaderPhase → Prop)
    (state : Interleaving (RpcSyncClient H) TeardownThread) : Prop :=
  ∃ client dropPhase readerPhase,
    state = teardown client dropPhase ending readerPhase ∧ won client dropPhase readerPhase

theorem Decided.run {won : RpcSyncClient H → DropPhase → ReaderPhase → Prop}
    (dropTurn : ∀ ⦃client dropPhase readerPhase⦄, won client dropPhase readerPhase →
      won (client.shutdownSync dropPhase).2 (client.shutdownSync dropPhase).1 readerPhase)
    (readerTurn : ∀ ⦃client dropPhase readerPhase⦄, won client dropPhase readerPhase →
      won (client.readerTeardown ending readerPhase).2 dropPhase
        (client.readerTeardown ending readerPhase).1)
    (holds : won client dropPhase readerPhase) (schedule : List Nat) :
    Decided ending won
      ((teardown client dropPhase ending readerPhase).run TeardownThread.act schedule) := by
  apply Interleaving.run_invariant
  · rintro _ turn ⟨client, dropPhase, readerPhase, rfl, holds⟩
    rcases turn with _ | _ | turn
    · exact ⟨_, _, _, teardown_drop_turn, dropTurn holds⟩
    · exact ⟨_, _, _, teardown_reader_turn, readerTurn holds⟩
    · exact ⟨_, _, _, teardown_other_turn turn, holds⟩
  · exact ⟨_, _, _, rfl, holds⟩

/-- Once one of the two has won, it stays so. -/
theorem DropWon.run (won : DropWon dispatcher stateChangeHandler client dropPhase readerPhase)
    (schedule : List Nat) :
    Decided ending (DropWon dispatcher stateChangeHandler)
      ((teardown client dropPhase ending readerPhase).run TeardownThread.act schedule) :=
  Decided.run (fun _ _ _ before => before.dropTurn) (fun _ _ _ before => before.readerTurn) won
    schedule

theorem ReaderWon.run (won : ReaderWon dispatcher stateChangeHandler client dropPhase readerPhase)
    (schedule : List Nat) :
    Decided ending (ReaderWon dispatcher stateChangeHandler)
      ((teardown client dropPhase ending readerPhase).run TeardownThread.act schedule) :=
  Decided.run (fun _ _ _ before => before.dropTurn) (fun _ _ _ before => before.readerTurn) won
    schedule

/-- Who wins is read off from the schedule. -/
theorem Undecided.run {turns : Nat} {state : Interleaving (RpcSyncClient H) TeardownThread}
    (undecided : Undecided dispatcher stateChangeHandler ending turns state)
    (schedule : List Nat) :
    if turns ≤ readerTurnsFirst schedule then
      Decided ending (ReaderWon dispatcher stateChangeHandler)
        (state.run TeardownThread.act schedule)
    else
      Decided ending (DropWon dispatcher stateChangeHandler)
          (state.run TeardownThread.act schedule) ∨
        ∃ turns, Undecided dispatcher stateChangeHandler ending turns
          (state.run TeardownThread.act schedule) := by
  have positive : ¬ turns ≤ 0 := by cases undecided <;> decide
  induction schedule generalizing turns state with
  | nil =>
      rw [readerTurnsFirst, if_neg positive]
      exact .inr ⟨turns, undecided⟩
  | cons turn rest ih =>
      rw [Interleaving.run_cons]
      rcases turn with _ | _ | turn
      · rw [readerTurnsFirst, if_neg positive]
        cases undecided with
        | leaveLoop => exact .inl (DropWon.run (.notify rfl) rest)
        | swap => exact .inl (DropWon.run (.notify rfl) rest)
      · cases undecided with
        | leaveLoop =>
            have recorded : Undecided dispatcher stateChangeHandler ending 1
                ((teardown (RpcSyncClient.connected dispatcher stateChangeHandler) .swap ending
                  .leaveLoop).step TeardownThread.act 1) := by
              cases ending with
              | eof => exact .swap
              | failed => exact .swap
            have counted : 2 ≤ readerTurnsFirst (1 :: rest) ↔ 1 ≤ readerTurnsFirst rest :=
              Nat.succ_le_succ_iff
            rw [zero_add, if_congr counted rfl rfl]
            exact ih recorded (by decide)
        | swap =>
            rw [readerTurnsFirst, if_pos (Nat.le_add_left 1 _)]
            exact ReaderWon.run (.lock (by decide)) rest
      · have unchanged : state.step TeardownThread.act (turn + 2) = state := by
          cases undecided <;> rfl
        rw [unchanged]
        exact ih undecided positive

end Race

/-! ## After both have run -/

/-- The entry of a key in a table without repeated keys. -/
theorem filter_key {entries : List (UInt32 × H)}
    (distinct : entries.Pairwise fun first second => first.1 ≠ second.1) {rpcId : UInt32}
    {handler : H} (member : (rpcId, handler) ∈ entries) :
    entries.filter (fun entry => entry.1 = rpcId) = [(rpcId, handler)] := by
  induction entries with
  | nil => contradiction
  | cons entry rest ih =>
      obtain ⟨fromHere, later⟩ := List.pairwise_cons.mp distinct
      rcases List.mem_cons.mp member with rfl | inRest
      · have others : rest.filter (fun entry => entry.1 = rpcId) = [] := by
          rw [List.filter_eq_nil_iff]
          intro other inRest
          simpa using (fromHere other inRest).symm
        rw [List.filter_cons_of_pos (by simp), others]
      · have different : entry.1 ≠ rpcId := fromHere _ inRest
        rw [List.filter_cons_of_neg (by simpa using different)]
        exact ih later inRest

/-- When all pending requests are failed, one error is told about each of them. -/
theorem failures_about {dispatcher : RpcDispatcher H} {rpcId : UInt32} {handler : H}
    (pending : dispatcher.routing.responseHandlers[rpcId]? = some handler)
    (error : FrameDecodeError) :
    (dispatcher.failAllPendingRequests error).2.filter (·.requestId = some rpcId) =
      [.invoked handler (.error none (some rpcId) none error)] := by
  have told : (dispatcher.failAllPendingRequests error).2 =
      dispatcher.routing.responseHandlers.toList.map fun entry =>
        .invoked entry.2 (.error none (some entry.1) none error) := rfl
  have sameTest : ((fun action : Action H => decide (action.requestId = some rpcId)) ∘
      fun entry : UInt32 × H => .invoked entry.2 (.error none (some entry.1) none error)) =
        fun entry => decide (entry.1 = rpcId) := by
    funext entry
    simp [Action.requestId, RpcStreamEvent.requestId]
  have entry := filter_key dispatcher.routing.handlers_distinct
    (ExtTreeMap.mem_toList_iff_getElem?_eq_some.mpr pending)
  rw [told, List.filter_map, sameTest, entry]
  rfl

/-- A decided race that has ended. -/
theorem Decided.ended {ending : ReadEnd}
    {won : RpcSyncClient H → DropPhase → ReaderPhase → Prop} {client : RpcSyncClient H}
    (decided : Decided ending won (teardown client .done ending .done)) :
    won client .done .done := by
  obtain ⟨same, dropPhase, readerPhase, equal, holds⟩ := decided
  simp only [teardown, Interleaving.mk.injEq, List.cons.injEq, TeardownThread.drop.injEq,
    TeardownThread.reader.injEq, true_and, and_true] at equal
  obtain ⟨rfl, rfl, rfl⟩ := equal
  exact holds

/-- What both teardowns together have done, when they are done. -/
theorem teardown_outcome {dispatcher : RpcDispatcher H} {stateChangeHandler : Bool}
    {ending : ReadEnd} {schedule : List Nat} {client : RpcSyncClient H}
    (finished : (teardown (RpcSyncClient.connected dispatcher stateChangeHandler) .swap ending
      .leaveLoop).run TeardownThread.act schedule = teardown client .done ending .done) :
    client.reported = (if stateChangeHandler then [.disconnected] else []) ∧
      if readerSwapsFirst schedule then
        ∃ error, client.actions = (dispatcher.failAllPendingRequests error).2
      else client.actions = [] := by
  have start : Undecided dispatcher stateChangeHandler ending 2 (teardown
    (RpcSyncClient.connected dispatcher stateChangeHandler) .swap ending .leaveLoop) := .leaveLoop
  have race := start.run schedule
  rw [finished] at race
  by_cases first : 2 ≤ readerTurnsFirst schedule
  · rw [if_pos first] at race
    rw [readerSwapsFirst, decide_eq_true first, if_pos rfl]
    cases race.ended with
    | done => exact ⟨rfl, _, rfl⟩
  · rw [if_neg first] at race
    rw [readerSwapsFirst, decide_eq_false first, if_neg Bool.false_ne_true]
    rcases race with dropWon | ⟨turns, undecided⟩
    · cases dropWon.ended with
      | done => exact ⟨rfl, rfl⟩
    · cases undecided

/-- Drop against the reader thread, in any interleaving.  `Disconnected` is reported once, if
there is anyone to report it to.  Every pending request has heard of exactly one error if and only
if the reader swapped the flag first, or nothing was pending. -/
theorem pending_failed_iff (dispatcher : RpcDispatcher H) (stateChangeHandler : Bool)
    (ending : ReadEnd) (schedule : List Nat) (client : RpcSyncClient H)
    (finished : (teardown (RpcSyncClient.connected dispatcher stateChangeHandler) .swap ending
      .leaveLoop).run TeardownThread.act schedule = teardown client .done ending .done) :
    client.reported = (if stateChangeHandler then [.disconnected] else []) ∧
    ((∀ (rpcId : UInt32) (handler : H),
        dispatcher.routing.responseHandlers[rpcId]? = some handler →
        ∃ error, client.actions.filter (·.requestId = some rpcId) =
          [.invoked handler (.error none (some rpcId) none error)]) ↔
      dispatcher.routing.responseHandlers = ∅ ∨ readerSwapsFirst schedule = true) := by
  obtain ⟨reported, told⟩ := teardown_outcome finished
  refine ⟨reported, ?_⟩
  constructor
  · intro failed
    cases first : readerSwapsFirst schedule with
    | true => exact .inr rfl
    | false =>
        rw [first, if_neg Bool.false_ne_true] at told
        left
        apply ExtTreeMap.ext_getElem?
        intro rpcId
        cases pending : dispatcher.routing.responseHandlers[rpcId]? with
        | none => exact ExtTreeMap.getElem?_empty.symm
        | some handler =>
            obtain ⟨error, once⟩ := failed rpcId handler pending
            rw [told] at once
            contradiction
  · rintro (empty | first) rpcId handler pending
    · rw [empty] at pending
      exact absurd pending empty_entry_ne
    · rw [first, if_pos rfl] at told
      obtain ⟨error, told⟩ := told
      rw [told]
      exact ⟨error, failures_about pending error⟩

/-- A client with one request pending. -/
def onePending : RpcDispatcher Nat :=
  ((RpcDispatcher.new 0).1.call ⟨5, none, none, true⟩ 4 (some 7) false 2).dispatcher

/-- The reader swaps the flag while `Drop` has yet to start. -/
theorem pending_failed_reader_first :
    ∃ client, (teardown (RpcSyncClient.connected onePending true) .swap .eof .leaveLoop).run
        TeardownThread.act [1, 1, 0, 1, 1, 1] = teardown client .done .eof .done ∧
      client.reported = [.disconnected] ∧
      onePending.routing.responseHandlers[(1 : UInt32)]? = some 7 ∧
      ∃ error, client.actions.filter (·.requestId = some 1) =
        [.invoked 7 (.error none (some 1) none error)] := by
  obtain ⟨reported, failed⟩ :=
    pending_failed_iff onePending true .eof [1, 1, 0, 1, 1, 1] _ rfl
  exact ⟨_, rfl, reported, rfl, failed.mpr (.inr rfl) 1 7 rfl⟩

/-- `Drop` swaps the flag first: both teardowns are done, and the pending request is still in the
table and has heard nothing. -/
theorem pending_lost_drop_first :
    ∃ client, (teardown (RpcSyncClient.connected onePending true) .swap .eof .leaveLoop).run
        TeardownThread.act [0, 0, 1, 1] = teardown client .done .eof .done ∧
      client.reported = [.disconnected] ∧
      onePending.routing.responseHandlers[(1 : UInt32)]? = some 7 ∧
      client.dispatcher.routing.responseHandlers[(1 : UInt32)]? = some 7 ∧
      client.actions = [] :=
  ⟨_, rfl, rfl, rfl, rfl, rfl⟩

end Muxio.Service
