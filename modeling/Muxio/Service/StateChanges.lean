import Muxio.Service.SyncClient
import Muxio.Transition.Mutex

/-!
# Reports of the transport's state

A client keeps one state change handler and an `is_connected` flag.  Calls of
`set_state_change_handler` run concurrently with each other and with the teardown of the
connection.  Each of them takes the lock of the handler and calls it while the lock is
held; but the flag is read and written without the lock, so a handler may be set between
the moment at which the flag is cleared and the moment at which the teardown comes to
call the handler.
-/

namespace Muxio.Service

open Muxio.Transition

/-! ## The tasks -/

/-- What the tasks share.  A handler is named by the task that sets it. -/
structure StateChanges where
  isConnected : Bool
  stateChangeHandler : Option Nat
  /-- Whether the lock of the handler is held. -/
  handlerLocked : Bool
  /-- The calls of handlers. -/
  reported : List (Nat × RpcTransportState)
  deriving DecidableEq, Repr

namespace StateChanges

/-- A connected client on which no handler is set. -/
def new : StateChanges where
  isConnected := true
  stateChangeHandler := none
  handlerLocked := false
  reported := []

/-- The handler is called if one is set. -/
def callHandler (state : RpcTransportState) (changes : StateChanges) : StateChanges :=
  match changes.stateChangeHandler with
  | none => changes
  | some handler => { changes with reported := changes.reported ++ [(handler, state)] }

/-- What a handler was called with. -/
def heard (changes : StateChanges) (handler : Nat) : List RpcTransportState :=
  (changes.reported.filter (·.1 = handler)).map (·.2)

end StateChanges

/-- Where a call of `set_state_change_handler` is. -/
inductive SetHandlerPhase where
  | lock
  | store
  | load
  /-- The flag was read: what the handler is called with, if it is called. -/
  | call (state : Option RpcTransportState)
  | unlock
  | done
  deriving DecidableEq, Repr

/-- Where the teardown of the connection is. -/
inductive TeardownPhase where
  | clear
  | lock
  | call
  | unlock
  | done
  deriving DecidableEq, Repr

inductive StateTask where
  | setHandler (name : Nat) (phase : SetHandlerPhase)
  /-- A teardown that swaps the flag goes on only if it was set; one that stores to it goes on
  in any case. -/
  | teardown (swaps : Bool) (phase : TeardownPhase)
  deriving DecidableEq, Repr

namespace StateTask

/-- What a handler hears when it is set.  The sync transports report a connection that is lost
already; the asynchronous clients say nothing then. -/
def initialReport (reportsLate isConnected : Bool) : Option RpcTransportState :=
  if isConnected then some .connected
  else if reportsLate then some .disconnected
  else none

/-- One turn of `set_state_change_handler`. -/
def actSet (reportsLate : Bool) (phase : SetHandlerPhase) (name : Nat) (changes : StateChanges) :
    SetHandlerPhase × StateChanges :=
  match phase with
  | .lock =>
      if changes.handlerLocked then (.lock, changes)
      else (.store, { changes with handlerLocked := true })
  | .store => (.load, { changes with stateChangeHandler := some name })
  | .load => (.call (initialReport reportsLate changes.isConnected), changes)
  | .call none => (.unlock, changes)
  | .call (some state) => (.unlock, changes.callHandler state)
  | .unlock => (.done, { changes with handlerLocked := false })
  | .done => (.done, changes)

/-- One turn of a teardown. -/
def actTeardown (swaps : Bool) (phase : TeardownPhase) (changes : StateChanges) :
    TeardownPhase × StateChanges :=
  match phase with
  | .clear =>
      if swaps && !changes.isConnected then (.done, changes)
      else (.lock, { changes with isConnected := false })
  | .lock =>
      if changes.handlerLocked then (.lock, changes)
      else (.call, { changes with handlerLocked := true })
  | .call => (.unlock, changes.callHandler .disconnected)
  | .unlock => (.done, { changes with handlerLocked := false })
  | .done => (.done, changes)

def act (reportsLate : Bool) : StateTask → StateChanges → StateTask × StateChanges
  | setHandler name phase, changes =>
      let acted := actSet reportsLate phase name changes
      (setHandler name acted.1, acted.2)
  | teardown swaps phase, changes =>
      let acted := actTeardown swaps phase changes
      (teardown swaps acted.1, acted.2)

/-- The task holds the lock of the handler. -/
def isInside : StateTask → Bool
  | setHandler _ .lock => false
  | setHandler _ .done => false
  | setHandler _ _ => true
  | teardown _ .call => true
  | teardown _ .unlock => true
  | teardown _ _ => false

def isDone : StateTask → Bool
  | setHandler _ phase => phase = .done
  | teardown _ phase => phase = .done

/-- A teardown that cleared the flag and has not called the handler yet. -/
def isAwaited : StateTask → Bool
  | teardown _ .lock => true
  | teardown _ .call => true
  | _ => false

theorem not_awaited_of_done (task : StateTask) (done : task.isDone = true) :
    task.isAwaited = false := by
  rcases task with ⟨name, phase⟩ | ⟨swaps, phase⟩
  · rfl
  · obtain rfl : phase = .done := by simpa [isDone] using done
    rfl

end StateTask

/-- What runs: calls of `set_state_change_handler` and teardowns. -/
inductive TaskKind where
  | setHandler
  | teardown (swaps : Bool)
  deriving DecidableEq, Repr

def TaskKind.start (name : Nat) : TaskKind → StateTask
  | setHandler => .setHandler name .lock
  | teardown swaps => .teardown swaps .clear

/-- The tasks start on a connected client. -/
def StateChanges.start (kinds : List TaskKind) : Interleaving StateChanges StateTask where
  shared := StateChanges.new
  processes := kinds.mapIdx fun name kind => kind.start name

/-! ## One turn -/

/-- What a turn of a task can do. -/
inductive StateChanges.TaskStep (reportsLate : Bool) (changes : StateChanges) :
    StateTask → StateTask → StateChanges → Prop where
  | waits (task : StateTask) : task.isInside = false →
      (changes.handlerLocked = true ∨ task.isDone = true) →
      TaskStep reportsLate changes task task changes
  | setLocks (name : Nat) : changes.handlerLocked = false →
      TaskStep reportsLate changes (.setHandler name .lock) (.setHandler name .store)
        { changes with handlerLocked := true }
  | stores (name : Nat) :
      TaskStep reportsLate changes (.setHandler name .store) (.setHandler name .load)
        { changes with stateChangeHandler := some name }
  | loads (name : Nat) :
      TaskStep reportsLate changes (.setHandler name .load)
        (.setHandler name (.call (StateTask.initialReport reportsLate changes.isConnected)))
        changes
  | skips (name : Nat) :
      TaskStep reportsLate changes (.setHandler name (.call none)) (.setHandler name .unlock)
        changes
  | reports (name : Nat) (state : RpcTransportState) :
      TaskStep reportsLate changes (.setHandler name (.call (some state)))
        (.setHandler name .unlock) (changes.callHandler state)
  | setUnlocks (name : Nat) :
      TaskStep reportsLate changes (.setHandler name .unlock) (.setHandler name .done)
        { changes with handlerLocked := false }
  | yields : changes.isConnected = false →
      TaskStep reportsLate changes (.teardown true .clear) (.teardown true .done) changes
  | clears (swaps : Bool) : (swaps = true → changes.isConnected = true) →
      TaskStep reportsLate changes (.teardown swaps .clear) (.teardown swaps .lock)
        { changes with isConnected := false }
  | teardownLocks (swaps : Bool) : changes.handlerLocked = false →
      TaskStep reportsLate changes (.teardown swaps .lock) (.teardown swaps .call)
        { changes with handlerLocked := true }
  | tells (swaps : Bool) :
      TaskStep reportsLate changes (.teardown swaps .call) (.teardown swaps .unlock)
        (changes.callHandler .disconnected)
  | teardownUnlocks (swaps : Bool) :
      TaskStep reportsLate changes (.teardown swaps .unlock) (.teardown swaps .done)
        { changes with handlerLocked := false }

theorem StateTask.act_step (reportsLate : Bool) (task : StateTask) (changes : StateChanges) :
    StateChanges.TaskStep reportsLate changes task (task.act reportsLate changes).1
      (task.act reportsLate changes).2 := by
  rcases task with ⟨name, phase⟩ | ⟨swaps, phase⟩
  · rcases phase with _ | _ | _ | (_ | state) | _ | _
    · cases locked : changes.handlerLocked with
      | true =>
          simp only [act, actSet, locked, if_true]
          exact .waits _ rfl (.inl locked)
      | false =>
          simp only [act, actSet, locked, Bool.false_eq_true, if_false]
          exact .setLocks name locked
    · exact .stores name
    · exact .loads name
    · exact .skips name
    · exact .reports name state
    · exact .setUnlocks name
    · exact .waits _ rfl (.inr rfl)
  · rcases phase with _ | _ | _ | _ | _
    · cases lost : (swaps && !changes.isConnected) with
      | true =>
          rcases Bool.and_eq_true_iff.mp lost with ⟨rfl, notConnected⟩
          simp only [act, actTeardown, lost, if_true]
          exact .yields (by simpa using notConnected)
      | false =>
          simp only [act, actTeardown, lost, Bool.false_eq_true, if_false]
          exact .clears swaps (by simpa using lost)
    · cases locked : changes.handlerLocked with
      | true =>
          simp only [act, actTeardown, locked, if_true]
          exact .waits _ rfl (.inl locked)
      | false =>
          simp only [act, actTeardown, locked, Bool.false_eq_true, if_false]
          exact .teardownLocks swaps locked
    · exact .tells swaps
    · exact .teardownUnlocks swaps
    · exact .waits _ rfl (.inr rfl)

@[simp]
theorem StateChanges.callHandler_handlerLocked (state : RpcTransportState)
    (changes : StateChanges) :
    (changes.callHandler state).handlerLocked = changes.handlerLocked := by
  unfold callHandler
  split <;> rfl

@[simp]
theorem StateChanges.callHandler_isConnected (state : RpcTransportState)
    (changes : StateChanges) : (changes.callHandler state).isConnected = changes.isConnected := by
  unfold callHandler
  split <;> rfl

@[simp]
theorem StateChanges.callHandler_stateChangeHandler (state : RpcTransportState)
    (changes : StateChanges) :
    (changes.callHandler state).stateChangeHandler = changes.stateChangeHandler := by
  unfold callHandler
  split <;> rfl

/-- Only the handler that is set hears a call. -/
theorem StateChanges.callHandler_heard (state : RpcTransportState) (changes : StateChanges)
    (handler : Nat) : (changes.callHandler state).heard handler =
      if changes.stateChangeHandler = some handler then changes.heard handler ++ [state]
      else changes.heard handler := by
  unfold callHandler
  split
  case h_1 none => simp [none]
  case h_2 name isSet =>
    by_cases same : name = handler <;> simp [heard, isSet, same]

/-- The tasks use the lock as a lock. -/
theorem StateTask.act_guarded (reportsLate : Bool) :
    Interleaving.Guarded (StateTask.act reportsLate) StateChanges.handlerLocked
      StateTask.isInside where
  waits task changes outside locked := by
    have taken := task.act_step reportsLate changes
    generalize (task.act reportsLate changes).1 = task' at taken ⊢
    generalize (task.act reportsLate changes).2 = changes' at taken ⊢
    cases taken <;> simp_all [isInside]
  holds task changes agrees := by
    have taken := task.act_step reportsLate changes
    generalize (task.act reportsLate changes).1 = task' at taken ⊢
    generalize (task.act reportsLate changes).2 = changes' at taken ⊢
    cases taken <;> simp_all [isInside]

/-- Every turn is a turn of one of the tasks, or changes nothing. -/
theorem StateChanges.step_cases (reportsLate : Bool) (state : Interleaving StateChanges StateTask)
    (turn : Nat) : state.step (StateTask.act reportsLate) turn = state ∨
      ∃ task task' changes', state.processes[turn]? = some task ∧
        TaskStep reportsLate state.shared task task' changes' ∧
        (state.step (StateTask.act reportsLate) turn).shared = changes' ∧
        (state.step (StateTask.act reportsLate) turn).processes[turn]? = some task' := by
  cases present : state.processes[turn]? with
  | none => exact .inl (Interleaving.step_absent present)
  | some task =>
      exact .inr ⟨task, _, _, rfl, task.act_step reportsLate state.shared,
        Interleaving.step_shared present, Interleaving.step_own present⟩

/-! ## What the handlers hear -/

namespace SetHandlerPhase

/-- The handler was stored. -/
def hasStored : SetHandlerPhase → Bool
  | lock => false
  | store => false
  | _ => true

/-- The handler heard what it hears when it is set, if anything. -/
def hasReported : SetHandlerPhase → Bool
  | unlock => true
  | done => true
  | _ => false

end SetHandlerPhase

namespace StateChanges

/-- The connection is there, or a teardown will call the handler. -/
def Owed (state : Interleaving StateChanges StateTask) : Prop :=
  state.shared.isConnected = true ∨
    ∃ (turn : Nat) (task : StateTask), state.processes[turn]? = some task ∧ task.isAwaited = true

/-- What a handler heard, by the phase in which the task is that sets it. -/
structure View (reportsLate : Bool) (owed : Prop) (name : Nat) (phase : SetHandlerPhase)
    (changes : StateChanges) : Prop where
  unset : phase.hasStored = false → changes.stateChangeHandler ≠ some name
  current : phase.hasStored = true → phase ≠ .done → changes.stateChangeHandler = some name
  silent : phase.hasReported = false → changes.heard name = []
  /-- It hears the state when it is set and then only of teardowns. -/
  ordered : ∃ first count,
    changes.heard name = Option.toList first ++ List.replicate count .disconnected
  late : reportsLate = true →
    phase ≠ .call none ∧ (phase.hasReported = true → changes.heard name ≠ [])
  /-- Told of the connection, it will be told of its loss. -/
  settled : changes.stateChangeHandler = some name →
    ((changes.heard name).getLast? = some .connected ∨ phase = .call (some .connected)) → owed

/-- The state of every task and what the handlers heard fit together. -/
structure Fits (reportsLate : Bool) (state : Interleaving StateChanges StateTask) : Prop where
  exclusive : Interleaving.Exclusive handlerLocked StateTask.isInside state
  views : ∀ (turn name : Nat) (phase : SetHandlerPhase),
    state.processes[turn]? = some (.setHandler name phase) →
      name = turn ∧ View reportsLate (Owed state) name phase state.shared
  unknown : ∀ name, (∀ phase, state.processes[name]? ≠ some (.setHandler name phase)) →
    state.shared.stateChangeHandler ≠ some name ∧ state.shared.heard name = []
  cleared : ∀ (turn : Nat) (swaps : Bool) (phase : TeardownPhase),
    state.processes[turn]? = some (.teardown swaps phase) → phase ≠ .clear →
      state.shared.isConnected = false

variable {reportsLate : Bool} {state : Interleaving StateChanges StateTask}
  {changes changes' : StateChanges} {task task' : StateTask} {owed owed' : Prop} {name : Nat}

/-- What a turn of another task does to what a handler sees. -/
inductive Seen (owed owed' : Prop) (name : Nat) (task : StateTask)
    (changes changes' : StateChanges) : Prop where
  | same : changes'.stateChangeHandler = changes.stateChangeHandler →
      changes'.heard name = changes.heard name →
      (changes.stateChangeHandler = some name → owed → owed') →
      Seen owed owed' name task changes changes'
  | replaced : task.isInside = true → changes'.stateChangeHandler ≠ some name →
      changes'.heard name = changes.heard name → Seen owed owed' name task changes changes'
  | told : task.isInside = true → changes.stateChangeHandler = some name →
      changes'.stateChangeHandler = some name →
      changes'.heard name = changes.heard name ++ [.disconnected] →
      Seen owed owed' name task changes changes'

/-- A turn of another task leaves the view of a handler as it should be. -/
theorem View.of_seen {phase : SetHandlerPhase} (view : View reportsLate owed name phase changes)
    (outside : task.isInside = true → (StateTask.setHandler name phase).isInside = false)
    (seen : Seen owed owed' name task changes changes') :
    View reportsLate owed' name phase changes' := by
  cases seen with
  | same handler heard kept =>
      constructor
      case unset => rw [handler]; exact view.unset
      case current => rw [handler]; exact view.current
      case silent => rw [heard]; exact view.silent
      case ordered => rw [heard]; exact view.ordered
      case late => rw [heard]; exact view.late
      case settled =>
        rw [handler, heard]
        intro isSet connected
        exact kept isSet (view.settled isSet connected)
  | replaced inside handler heard =>
      have idle := outside inside
      constructor
      case unset => exact fun _ => handler
      case current =>
        intro stored running
        cases phase with
        | lock => cases stored
        | done => exact absurd rfl running
        | _ => cases idle
      case silent => rw [heard]; exact view.silent
      case ordered => rw [heard]; exact view.ordered
      case late => rw [heard]; exact view.late
      case settled => exact fun isSet => absurd isSet handler
  | told inside wasSet handler heard =>
      have idle := outside inside
      have done : phase = .done := by
        cases phase with
        | lock => exact absurd wasSet (view.unset rfl)
        | done => rfl
        | _ => cases idle
      subst done
      constructor
      case unset =>
        intro stored
        cases stored
      case current => exact fun _ running => absurd rfl running
      case silent =>
        intro reported
        cases reported
      case ordered =>
        rcases view.ordered with ⟨first, count, before⟩
        exact ⟨first, count + 1, by
          rw [heard, before, List.append_assoc, List.replicate_succ']⟩
      case late =>
        intro _
        constructor
        · exact SetHandlerPhase.noConfusion
        · intro _
          simp [heard]
      case settled =>
        intro _ connected
        simp [heard] at connected

theorem Seen.unknown (seen : Seen owed owed' name task changes changes')
    (before : changes.stateChangeHandler ≠ some name ∧ changes.heard name = []) :
    changes'.stateChangeHandler ≠ some name ∧ changes'.heard name = [] := by
  cases seen with
  | same handler heard =>
      rw [handler, heard]
      exact before
  | replaced _ handler heard => exact ⟨handler, heard.trans before.2⟩
  | told _ isSet => exact absurd isSet before.1

namespace View

theorem of_owed {phase : SetHandlerPhase} (view : View reportsLate owed name phase changes)
    (kept : owed → owed') : View reportsLate owed' name phase changes :=
  ⟨view.unset, view.current, view.silent, view.ordered, view.late,
    fun isSet told => kept (view.settled isSet told)⟩

theorem setLocks (view : View reportsLate owed name .lock changes) :
    View reportsLate owed' name .store { changes with handlerLocked := true } where
  unset := fun _ => view.unset rfl
  current := fun stored => by cases stored
  silent := fun _ => view.silent rfl
  ordered := view.ordered
  late := fun _ => ⟨SetHandlerPhase.noConfusion, fun told => by cases told⟩
  settled := fun isSet => absurd isSet (view.unset rfl)

theorem stores (view : View reportsLate owed name .store changes) :
    View reportsLate owed' name .load { changes with stateChangeHandler := some name } where
  unset := fun stored => by cases stored
  current := fun _ _ => rfl
  silent := fun _ => view.silent rfl
  ordered := view.ordered
  late := fun _ => ⟨SetHandlerPhase.noConfusion, fun told => by cases told⟩
  settled := by
    have silent : changes.heard name = [] := view.silent rfl
    rintro - (told | told)
    · exact absurd (show (changes.heard name).getLast? = _ from told) (by simp [silent])
    · cases told

theorem loads (view : View reportsLate owed name .load changes)
    (connected : changes.isConnected = true → owed') :
    View reportsLate owed' name
      (.call (StateTask.initialReport reportsLate changes.isConnected)) changes where
  unset := fun stored => by cases stored
  current := fun _ _ => view.current rfl SetHandlerPhase.noConfusion
  silent := fun _ => view.silent rfl
  ordered := view.ordered
  late := by
    rintro rfl
    constructor
    · cases isConnected : changes.isConnected <;> simp [StateTask.initialReport]
    · exact fun told => by cases told
  settled := by
    rintro - (told | told)
    · simp [view.silent rfl] at told
    · apply connected
      cases isConnected : changes.isConnected with
      | true => rfl
      | false => cases reportsLate <;> simp [StateTask.initialReport, isConnected] at told

theorem skips (view : View reportsLate owed name (.call none) changes) :
    View reportsLate owed' name .unlock changes where
  unset := fun stored => by cases stored
  current := fun _ _ => view.current rfl SetHandlerPhase.noConfusion
  silent := fun reported => by cases reported
  ordered := view.ordered
  late := fun isLate => absurd rfl (view.late isLate).1
  settled := by
    rintro - (told | told)
    · simp [view.silent rfl] at told
    · cases told

theorem reports {report : RpcTransportState}
    (view : View reportsLate owed name (.call (some report)) changes) (kept : owed → owed') :
    View reportsLate owed' name .unlock (changes.callHandler report) := by
  have isSet := view.current rfl SetHandlerPhase.noConfusion
  have heard : (changes.callHandler report).heard name = [report] := by
    rw [callHandler_heard, if_pos isSet, view.silent rfl, List.nil_append]
  constructor
  case unset => exact fun stored => by cases stored
  case current => exact fun _ _ => (callHandler_stateChangeHandler _ _).trans isSet
  case silent => exact fun reported => by cases reported
  case ordered => exact ⟨some report, 0, heard⟩
  case late => exact fun _ => ⟨SetHandlerPhase.noConfusion, fun _ => by simp [heard]⟩
  case settled =>
    rintro - (told | told)
    · rw [heard, List.getLast?_singleton, Option.some.injEq] at told
      subst told
      exact kept (view.settled isSet (.inr rfl))
    · cases told

theorem setUnlocks (view : View reportsLate owed name .unlock changes) (kept : owed → owed') :
    View reportsLate owed' name .done { changes with handlerLocked := false } where
  unset := fun stored => by cases stored
  current := fun _ running => absurd rfl running
  silent := fun reported => by cases reported
  ordered := view.ordered
  late := fun isLate => ⟨SetHandlerPhase.noConfusion, fun _ => (view.late isLate).2 rfl⟩
  settled := by
    rintro isSet (told | told)
    · exact kept (view.settled isSet (.inl told))
    · cases told

/-- The view of a handler after a turn of the task that sets it. -/
theorem of_own {phase phase' : SetHandlerPhase}
    (view : View reportsLate owed name phase changes)
    (taken : TaskStep reportsLate changes (.setHandler name phase) (.setHandler name phase')
      changes')
    (kept : owed → owed') (connected : changes'.isConnected = true → owed') :
    View reportsLate owed' name phase' changes' := by
  cases taken with
  | waits => exact view.of_owed kept
  | setLocks => exact view.setLocks
  | stores => exact view.stores
  | loads => exact view.loads connected
  | skips => exact view.skips
  | reports => exact view.reports kept
  | setUnlocks => exact view.setUnlocks kept

end View

/-- What the turn of a task is to the handlers that others set. -/
theorem TaskStep.seen (taken : TaskStep reportsLate changes task task' changes')
    (different : ∀ other phase, task = .setHandler other phase →
      other ≠ name ∧ (phase.hasStored = true → phase ≠ .done →
        changes.stateChangeHandler = some other))
    (kept : task.isInside = false ∨ task'.isAwaited = task.isAwaited → owed → owed') :
    Seen owed owed' name task changes changes' := by
  cases taken with
  | waits => exact .same rfl rfl fun _ => kept (.inr rfl)
  | setLocks => exact .same rfl rfl fun _ => kept (.inr rfl)
  | stores other =>
      refine .replaced rfl ?_ rfl
      intro isSet
      exact (different other _ rfl).1 (Option.some.inj isSet)
  | loads => exact .same rfl rfl fun _ => kept (.inr rfl)
  | skips => exact .same rfl rfl fun _ => kept (.inr rfl)
  | reports other report =>
      rcases different other _ rfl with ⟨notThis, isSet⟩
      have elsewhere : changes.stateChangeHandler ≠ some name := by
        rw [isSet rfl SetHandlerPhase.noConfusion]
        exact fun same => notThis (Option.some.inj same)
      refine .same (callHandler_stateChangeHandler _ _) ?_ fun _ => kept (.inr rfl)
      rw [callHandler_heard, if_neg elsewhere]
  | setUnlocks => exact .same rfl rfl fun _ => kept (.inr rfl)
  | yields => exact .same rfl rfl fun _ => kept (.inl rfl)
  | clears => exact .same rfl rfl fun _ => kept (.inl rfl)
  | teardownLocks => exact .same rfl rfl fun _ => kept (.inl rfl)
  | tells =>
      by_cases isSet : changes.stateChangeHandler = some name
      · refine .told rfl isSet ?_ ?_
        · rw [callHandler_stateChangeHandler]
          exact isSet
        · rw [callHandler_heard, if_pos isSet]
      · refine .same (callHandler_stateChangeHandler _ _) ?_ fun here => absurd here isSet
        rw [callHandler_heard, if_neg isSet]
  | teardownUnlocks => exact .same rfl rfl fun _ => kept (.inr rfl)

theorem TaskStep.connected (taken : TaskStep reportsLate changes task task' changes')
    (isConnected : changes.isConnected = true) :
    changes'.isConnected = true ∨ task'.isAwaited = true := by
  cases taken with
  | clears => exact .inr rfl
  | reports =>
      rw [callHandler_isConnected]
      exact .inl isConnected
  | tells =>
      rw [callHandler_isConnected]
      exact .inl isConnected
  | _ => exact .inl isConnected

theorem TaskStep.awaited (taken : TaskStep reportsLate changes task task' changes')
    (kept : task.isInside = false ∨ task'.isAwaited = task.isAwaited)
    (awaited : task.isAwaited = true) : task'.isAwaited = true := by
  rcases kept with outside | same
  · cases taken with
    | waits => exact awaited
    | teardownLocks => rfl
    | tells => cases outside
    | _ => cases awaited
  · rw [same]
    exact awaited

/-- What is owed stays owed until a teardown calls the handler. -/
theorem Owed.step {turn : Nat} (present : state.processes[turn]? = some task)
    (taken : TaskStep reportsLate state.shared task task' changes')
    (shared : (state.step (StateTask.act reportsLate) turn).shared = changes')
    (own : (state.step (StateTask.act reportsLate) turn).processes[turn]? = some task')
    (kept : task.isInside = false ∨ task'.isAwaited = task.isAwaited)
    (owed : Owed state) : Owed (state.step (StateTask.act reportsLate) turn) := by
  rcases owed with isConnected | ⟨other, process, found, awaited⟩
  · rcases taken.connected isConnected with still | awaited
    · exact .inl (by rw [shared]; exact still)
    · exact .inr ⟨turn, task', own, awaited⟩
  · by_cases same : turn = other
    · subst same
      obtain rfl : task = process := Option.some.inj (present.symm.trans found)
      exact .inr ⟨turn, task', own, taken.awaited kept awaited⟩
    · exact .inr ⟨other, process, (Interleaving.step_other same).trans found, awaited⟩

/-- A task stays what it is. -/
theorem TaskStep.setHandler_iff (taken : TaskStep reportsLate changes task task' changes') :
    (∃ phase, task = .setHandler name phase) ↔ ∃ phase, task' = .setHandler name phase := by
  cases taken <;> simp

theorem TaskStep.cleared (taken : TaskStep reportsLate changes task task' changes')
    (before : ∀ swaps phase, task = .teardown swaps phase → phase ≠ .clear →
      changes.isConnected = false)
    {swaps : Bool} {phase : TeardownPhase} (isTeardown : task' = .teardown swaps phase)
    (past : phase ≠ .clear) : changes'.isConnected = false := by
  cases taken with
  | waits => exact before swaps phase isTeardown past
  | yields lost => exact lost
  | clears => rfl
  | teardownLocks => exact before _ _ rfl TeardownPhase.noConfusion
  | tells =>
      rw [callHandler_isConnected]
      exact before _ _ rfl TeardownPhase.noConfusion
  | teardownUnlocks => exact before _ _ rfl TeardownPhase.noConfusion
  | _ => cases isTeardown

/-- The flag is never set again. -/
theorem TaskStep.disconnected (taken : TaskStep reportsLate changes task task' changes')
    (lost : changes.isConnected = false) : changes'.isConnected = false := by
  cases taken with
  | clears => rfl
  | reports => rw [callHandler_isConnected]; exact lost
  | tells => rw [callHandler_isConnected]; exact lost
  | _ => exact lost

theorem Fits.step (fits : Fits reportsLate state) (turn : Nat) :
    Fits reportsLate (state.step (StateTask.act reportsLate) turn) := by
  rcases step_cases reportsLate state turn with same | ⟨task, task', changes', present, taken,
    shared, own⟩
  · rw [same]
    exact fits
  have kept := Owed.step present taken shared own
  have seen : ∀ name, (∀ phase, task ≠ .setHandler name phase) → Seen (Owed state)
      (Owed (state.step (StateTask.act reportsLate) turn)) name task state.shared changes' := by
    intro name different
    refine taken.seen ?_ kept
    rintro other phase rfl
    constructor
    · rintro rfl
      exact different phase rfl
    · exact (fits.views turn other phase present).2.current
  have elsewhere : ∀ name, turn ≠ name → ∀ phase, task ≠ .setHandler name phase := by
    rintro name different phase rfl
    exact different (fits.views turn name phase present).1.symm
  constructor
  case exclusive => exact fits.exclusive.step (StateTask.act_guarded reportsLate) turn
  case views =>
    intro other name phase found
    rw [shared]
    by_cases here : turn = other
    · subst here
      obtain rfl : task' = .setHandler name phase := Option.some.inj (own.symm.trans found)
      rcases taken.setHandler_iff.mpr ⟨phase, rfl⟩ with ⟨before, rfl⟩
      rcases fits.views turn name before present with ⟨rfl, view⟩
      refine ⟨rfl, view.of_own taken ?_ ?_⟩
      · refine kept (.inr ?_)
        cases before <;> cases phase <;> rfl
      · rw [← shared]
        exact Or.inl
    · rw [Interleaving.step_other here] at found
      rcases fits.views other name phase found with ⟨rfl, view⟩
      refine ⟨rfl, view.of_seen ?_ (seen name (elsewhere name here))⟩
      intro inside
      exact fits.exclusive.outside present inside here found
  case unknown =>
    intro name notSet
    rw [shared]
    by_cases here : turn = name
    · subst here
      have notSets : ∀ phase, task ≠ .setHandler turn phase := by
        rintro phase rfl
        rcases taken.setHandler_iff.mp ⟨phase, rfl⟩ with ⟨after, rfl⟩
        exact notSet after own
      refine (seen turn notSets).unknown (fits.unknown turn ?_)
      intro phase found
      exact notSets phase (Option.some.inj (present.symm.trans found))
    · rw [Interleaving.step_other here] at notSet
      exact (seen name (elsewhere name here)).unknown (fits.unknown name notSet)
  case cleared =>
    intro other swaps phase found past
    rw [shared]
    by_cases here : turn = other
    · subst here
      refine taken.cleared ?_ (Option.some.inj (own.symm.trans found)) past
      rintro swaps' phase' rfl
      exact fits.cleared turn swaps' phase' present
    · rw [Interleaving.step_other here] at found
      exact taken.disconnected (fits.cleared other swaps phase found past)

theorem start_processes (kinds : List TaskKind) (turn : Nat) :
    (start kinds).processes[turn]? = (kinds[turn]?).map (TaskKind.start turn) := by
  rw [start, List.getElem?_mapIdx]

theorem Fits.start (reportsLate : Bool) (kinds : List TaskKind) :
    Fits reportsLate (start kinds) := by
  have before : ∀ task ∈ (StateChanges.start kinds).processes, task.isInside = false := by
    intro task member
    rcases List.mem_mapIdx.mp member with ⟨name, inRange, rfl⟩
    cases kinds[name] <;> rfl
  constructor
  case exclusive => exact .of_outside before
  case views =>
    intro turn name phase found
    rw [start_processes, Option.map_eq_some_iff] at found
    rcases found with ⟨kind, -, started⟩
    cases kind with
    | teardown => cases started
    | setHandler =>
        cases started
        refine ⟨rfl, ?_, ?_, fun _ => rfl, ⟨none, 0, rfl⟩, ?_, ?_⟩
        · exact fun _ isSet => by cases isSet
        · exact fun stored => by cases stored
        · exact fun _ => ⟨SetHandlerPhase.noConfusion, fun told => by cases told⟩
        · exact fun isSet => by cases isSet
  case unknown =>
    intro name _
    constructor
    · intro isSet
      cases isSet
    · rfl
  case cleared =>
    intro turn swaps phase found past
    rw [start_processes, Option.map_eq_some_iff] at found
    rcases found with ⟨kind, -, started⟩
    cases kind with
    | setHandler => cases started
    | teardown =>
        cases started
        exact absurd rfl past

theorem Fits.run (fits : Fits reportsLate state) (schedule : List Nat) :
    Fits reportsLate (state.run (StateTask.act reportsLate) schedule) :=
  Interleaving.run_invariant (Fits reportsLate) (fun _ turn holds => holds.step turn) fits schedule

/-! ## How often the loss is reported -/

/-- The reports of the loss of the connection. -/
def losses (changes : StateChanges) : Nat :=
  changes.reported.countP (·.2 = .disconnected)

theorem callHandler_losses (report : RpcTransportState) (changes : StateChanges) :
    (changes.callHandler report).losses ≤
      changes.losses + if report = .disconnected then 1 else 0 := by
  unfold callHandler
  split
  case h_1 => exact Nat.le_add_right _ _
  case h_2 => simp [losses, List.countP_append, List.countP_singleton]

/-- Of several teardowns all swap the flag. -/
def TeardownsSwap (kinds : List TaskKind) : Prop :=
  ∀ (first second : Nat) (swaps swaps' : Bool), kinds[first]? = some (.teardown swaps) →
    kinds[second]? = some (.teardown swaps') → first ≠ second → swaps = true

/-- Only one teardown gets to call the handler. -/
structure Once (reportsLate : Bool) (state : Interleaving StateChanges StateTask) : Prop where
  swapping : ∀ (first second : Nat) (swaps swaps' : Bool) (phase phase' : TeardownPhase),
    state.processes[first]? = some (.teardown swaps phase) →
    state.processes[second]? = some (.teardown swaps' phase') → first ≠ second → swaps = true
  single : ∀ (first second : Nat) (task task' : StateTask),
    state.processes[first]? = some task → state.processes[second]? = some task' →
    task.isAwaited = true → task'.isAwaited = true → first = second
  begun : state.shared.isConnected = false →
    ∃ (turn : Nat) (swaps : Bool) (phase : TeardownPhase),
      state.processes[turn]? = some (.teardown swaps phase) ∧ phase ≠ .clear
  atMost : ∀ name, (state.shared.heard name).length ≤ 2 ∧
    (Owed state → (state.shared.heard name).length ≤ 1)
  prompt : reportsLate = false → ∀ (turn name : Nat),
    state.processes[turn]? ≠ some (.setHandler name (.call (some .disconnected)))
  once : reportsLate = false → state.shared.losses ≤ 1 ∧ (Owed state → state.shared.losses = 0)

namespace TaskStep

theorem teardown_of (taken : TaskStep reportsLate changes task task' changes') {swaps : Bool}
    {phase' : TeardownPhase} (after : task' = .teardown swaps phase') :
    ∃ phase, task = .teardown swaps phase := by
  cases taken <;> simp_all

theorem past (taken : TaskStep reportsLate changes task task' changes') {swaps : Bool}
    {phase : TeardownPhase} (before : task = .teardown swaps phase) (isPast : phase ≠ .clear) :
    ∃ phase', task' = .teardown swaps phase' ∧ phase' ≠ .clear := by
  cases taken <;> simp_all

/-- The flag is cleared by a teardown that gets past it. -/
theorem lost (taken : TaskStep reportsLate changes task task' changes')
    (isConnected : changes.isConnected = true) (after : changes'.isConnected = false) :
    ∃ swaps, task' = .teardown swaps .lock := by
  cases taken <;> simp_all

/-- A teardown is awaited from the moment at which it clears the flag. -/
theorem newly_awaited (taken : TaskStep reportsLate changes task task' changes')
    (awaited : task'.isAwaited = true) : task.isAwaited = true ∨
      ∃ swaps, task = .teardown swaps .clear ∧ (swaps = true → changes.isConnected = true) := by
  cases taken with
  | waits => exact .inl awaited
  | clears swaps found => exact .inr ⟨swaps, rfl, found⟩
  | teardownLocks => exact .inl rfl
  | _ => cases awaited

/-- Handlers are called by the tasks that set them and by teardowns. -/
theorem heard (taken : TaskStep reportsLate changes task task' changes') (name : Nat) :
    changes'.heard name = changes.heard name ∨
      (∃ other report, task = .setHandler other (.call (some report)) ∧
        changes.stateChangeHandler = some name ∧
        changes'.heard name = changes.heard name ++ [report]) ∨
      ((∃ swaps, task = .teardown swaps .call) ∧
        changes'.heard name = changes.heard name ++ [.disconnected]) := by
  cases taken with
  | reports other report =>
      rw [callHandler_heard]
      by_cases isSet : changes.stateChangeHandler = some name
      · exact .inr (.inl ⟨other, report, rfl, isSet, if_pos isSet⟩)
      · exact .inl (if_neg isSet)
  | tells swaps =>
      rw [callHandler_heard]
      by_cases isSet : changes.stateChangeHandler = some name
      · exact .inr (.inr ⟨⟨swaps, rfl⟩, if_pos isSet⟩)
      · exact .inl (if_neg isSet)
  | _ => exact .inl rfl

theorem losses (taken : TaskStep reportsLate changes task task' changes') :
    changes'.losses ≤ changes.losses ∨
      (∃ other, task = .setHandler other (.call (some .disconnected))) ∨
      ((∃ swaps, task = .teardown swaps .call) ∧ changes'.losses ≤ changes.losses + 1) := by
  cases taken with
  | reports other report =>
      have atMost := callHandler_losses report changes
      cases report with
      | connected => exact .inl atMost
      | disconnected => exact .inr (.inl ⟨other, rfl⟩)
  | tells swaps => exact .inr (.inr ⟨⟨swaps, rfl⟩, callHandler_losses _ changes⟩)
  | _ => exact .inl (Nat.le_refl _)

theorem prompt (taken : TaskStep false changes task task' changes')
    (before : task ≠ .setHandler name (.call (some .disconnected))) :
    task' ≠ .setHandler name (.call (some .disconnected)) := by
  cases taken with
  | waits => exact before
  | loads =>
      cases isConnected : changes.isConnected <;> simp [StateTask.initialReport]
  | _ => exact fun after => by cases after

end TaskStep

namespace Once

variable {turn : Nat}

/-- Where a teardown is after a turn, it was before. -/
theorem teardown_origin (present : state.processes[turn]? = some task)
    (taken : TaskStep reportsLate state.shared task task' changes')
    (own : (state.step (StateTask.act reportsLate) turn).processes[turn]? = some task')
    {other : Nat} {swaps : Bool} {phase' : TeardownPhase}
    (found : (state.step (StateTask.act reportsLate) turn).processes[other]? =
      some (.teardown swaps phase')) :
    ∃ phase, state.processes[other]? = some (.teardown swaps phase) := by
  by_cases here : turn = other
  · subst here
    rcases taken.teardown_of (Option.some.inj (own.symm.trans found)) with ⟨phase, rfl⟩
    exact ⟨phase, present⟩
  · rw [Interleaving.step_other here] at found
    exact ⟨phase', found⟩

/-- A teardown that clears the flag finds it set. -/
theorem found_connected (once : Once reportsLate state) {swaps : Bool}
    (present : state.processes[turn]? = some (.teardown swaps .clear))
    (found : swaps = true → state.shared.isConnected = true) :
    state.shared.isConnected = true := by
  cases isConnected : state.shared.isConnected with
  | true => rfl
  | false =>
      rcases once.begun isConnected with ⟨other, swaps', phase, presentOther, isPast⟩
      have different : turn ≠ other := by
        rintro rfl
        cases present.symm.trans presentOther
        exact isPast rfl
      have isSwap := once.swapping turn other swaps swaps' _ phase present presentOther different
      exact absurd (isConnected.symm.trans (found isSwap)) Bool.false_ne_true

/-- What is awaited after a turn was awaited before, or the turn cleared the flag. -/
theorem awaited_origin (once : Once reportsLate state)
    (present : state.processes[turn]? = some task)
    (taken : TaskStep reportsLate state.shared task task' changes')
    (own : (state.step (StateTask.act reportsLate) turn).processes[turn]? = some task')
    {other : Nat} {process : StateTask}
    (found : (state.step (StateTask.act reportsLate) turn).processes[other]? = some process)
    (awaited : process.isAwaited = true) :
    (∃ before, state.processes[other]? = some before ∧ before.isAwaited = true) ∨
      (turn = other ∧ state.shared.isConnected = true) := by
  by_cases here : turn = other
  · subst here
    obtain rfl : task' = process := Option.some.inj (own.symm.trans found)
    rcases taken.newly_awaited awaited with before | ⟨swaps, rfl, isSet⟩
    · exact .inl ⟨task, present, before⟩
    · exact .inr ⟨rfl, once.found_connected present isSet⟩
  · rw [Interleaving.step_other here] at found
    exact .inl ⟨process, found, awaited⟩

end Once

/-- While a teardown is awaited the flag is cleared. -/
theorem Fits.awaited_cleared (fits : Fits reportsLate state) {turn : Nat}
    (present : state.processes[turn]? = some task) (awaited : task.isAwaited = true) :
    state.shared.isConnected = false := by
  rcases task with ⟨name, phase⟩ | ⟨swaps, phase⟩
  · cases awaited
  · refine fits.cleared turn swaps phase present ?_
    rintro rfl
    cases awaited

namespace Once

section Turn

variable {turn : Nat} (fits : Fits reportsLate state) (once : Once reportsLate state)
  (present : state.processes[turn]? = some task)
  (taken : TaskStep reportsLate state.shared task task' changes')
  (shared : (state.step (StateTask.act reportsLate) turn).shared = changes')
  (own : (state.step (StateTask.act reportsLate) turn).processes[turn]? = some task')

include once present taken own

include shared in
/-- Nothing is owed that was not owed before. -/
theorem owed_before (owed : Owed (state.step (StateTask.act reportsLate) turn)) : Owed state := by
  rcases owed with isConnected | ⟨other, process, found, awaited⟩
  · rw [shared] at isConnected
    cases before : state.shared.isConnected with
    | true => exact .inl before
    | false =>
        exact absurd ((taken.disconnected before).symm.trans isConnected) Bool.false_ne_true
  · rcases once.awaited_origin present taken own found awaited with
      ⟨before, found, awaited⟩ | ⟨-, isConnected⟩
    · exact .inr ⟨other, before, found, awaited⟩
    · exact .inl isConnected

include fits

include shared in
/-- Once a teardown calls the handler, no other is left to do so. -/
theorem settles (tells : ∃ swaps, task = .teardown swaps .call) :
    Owed state ∧ ¬ Owed (state.step (StateTask.act reportsLate) turn) := by
  rcases tells with ⟨swaps, rfl⟩
  refine ⟨.inr ⟨turn, _, present, rfl⟩, ?_⟩
  have lost := fits.awaited_cleared present rfl
  rintro (isConnected | ⟨other, process, found, awaited⟩)
  · rw [shared, taken.disconnected lost] at isConnected
    cases isConnected
  · rcases once.awaited_origin present taken own found awaited with
      ⟨before, foundBefore, awaited'⟩ | ⟨-, isConnected⟩
    · obtain rfl := once.single turn other _ before present foundBefore rfl awaited'
      obtain rfl : task' = process := Option.some.inj (own.symm.trans found)
      cases taken with
      | waits _ outside => cases outside
      | tells => cases awaited
    · exact absurd (lost.symm.trans isConnected) Bool.false_ne_true

theorem single_step (first second : Nat) (one two : StateTask)
    (atFirst : (state.step (StateTask.act reportsLate) turn).processes[first]? = some one)
    (atSecond : (state.step (StateTask.act reportsLate) turn).processes[second]? = some two)
    (awaited : one.isAwaited = true) (awaited' : two.isAwaited = true) : first = second := by
  rcases once.awaited_origin present taken own atFirst awaited with
    ⟨before, wasFirst, wasAwaited⟩ | ⟨rfl, isConnected⟩
  · rcases once.awaited_origin present taken own atSecond awaited' with
      ⟨before', wasSecond, wasAwaited'⟩ | ⟨-, isConnected⟩
    · exact once.single first second before before' wasFirst wasSecond wasAwaited wasAwaited'
    · exact absurd ((fits.awaited_cleared wasFirst wasAwaited).symm.trans isConnected)
        Bool.false_ne_true
  · rcases once.awaited_origin present taken own atSecond awaited' with
      ⟨before', wasSecond, wasAwaited'⟩ | ⟨rfl, -⟩
    · exact absurd ((fits.awaited_cleared wasSecond wasAwaited').symm.trans isConnected)
        Bool.false_ne_true
    · rfl

include shared

omit fits in
theorem begun_step
    (lost : (state.step (StateTask.act reportsLate) turn).shared.isConnected = false) :
    ∃ (turn' : Nat) (swaps : Bool) (phase : TeardownPhase),
      (state.step (StateTask.act reportsLate) turn).processes[turn']? =
        some (.teardown swaps phase) ∧ phase ≠ .clear := by
  rw [shared] at lost
  cases before : state.shared.isConnected with
  | true =>
      rcases taken.lost before lost with ⟨swaps, rfl⟩
      exact ⟨turn, swaps, _, own, TeardownPhase.noConfusion⟩
  | false =>
      rcases once.begun before with ⟨other, swaps, phase, found, isPast⟩
      by_cases here : turn = other
      · subst here
        rcases taken.past (Option.some.inj (present.symm.trans found)) isPast with
          ⟨phase', rfl, isPast'⟩
        exact ⟨turn, swaps, phase', own, isPast'⟩
      · exact ⟨other, swaps, phase, (Interleaving.step_other here).trans found, isPast⟩

theorem atMost_step (name : Nat) :
    (changes'.heard name).length ≤ 2 ∧
      (Owed (state.step (StateTask.act reportsLate) turn) →
        (changes'.heard name).length ≤ 1) := by
  rcases once.atMost name with ⟨two, one⟩
  rcases taken.heard name with same | ⟨other, report, rfl, isSet, heard⟩ | ⟨tells, heard⟩
  · rw [same]
    exact ⟨two, fun owed => one (once.owed_before present taken shared own owed)⟩
  · rcases fits.views turn other _ present with ⟨-, view⟩
    have current := view.current rfl SetHandlerPhase.noConfusion
    obtain rfl : other = name := Option.some.inj (current.symm.trans isSet)
    rw [heard, view.silent rfl]
    exact ⟨Nat.le_succ 1, fun _ => Nat.le_refl 1⟩
  · rcases settles fits once present taken shared own tells with ⟨owed, settled⟩
    rw [heard, List.length_append]
    exact ⟨Nat.add_le_add_right (one owed) 1, fun still => absurd still settled⟩

theorem losses_step (prompt : reportsLate = false) :
    changes'.losses ≤ 1 ∧
      (Owed (state.step (StateTask.act reportsLate) turn) → changes'.losses = 0) := by
  rcases once.once prompt with ⟨one, zero⟩
  rcases taken.losses with same | ⟨other, rfl⟩ | ⟨tells, more⟩
  · refine ⟨same.trans one, fun owed => Nat.le_zero.mp (same.trans ?_)⟩
    exact (zero (once.owed_before present taken shared own owed)).le
  · exact absurd present (once.prompt prompt turn other)
  · rcases settles fits once present taken shared own tells with ⟨owed, settled⟩
    rw [zero owed] at more
    exact ⟨more, fun still => absurd still settled⟩

end Turn

theorem step (fits : Fits reportsLate state) (once : Once reportsLate state) (turn : Nat) :
    Once reportsLate (state.step (StateTask.act reportsLate) turn) := by
  rcases step_cases reportsLate state turn with same | ⟨task, task', changes', present, taken,
    shared, own⟩
  · rw [same]
    exact once
  constructor
  case swapping =>
    intro first second swaps swaps' phase phase' atFirst atSecond
    rcases teardown_origin present taken own atFirst with ⟨before, atFirst⟩
    rcases teardown_origin present taken own atSecond with ⟨before', atSecond⟩
    exact once.swapping first second swaps swaps' before before' atFirst atSecond
  case single => exact single_step fits once present taken own
  case begun => exact once.begun_step present taken shared own
  case atMost =>
    rw [shared]
    exact atMost_step fits once present taken shared own
  case prompt =>
    rintro rfl other name found
    by_cases here : turn = other
    · subst here
      refine taken.prompt ?_ (Option.some.inj (own.symm.trans found))
      rintro rfl
      exact once.prompt rfl turn name present
    · rw [Interleaving.step_other here] at found
      exact once.prompt rfl other name found
  case once =>
    rw [shared]
    exact losses_step fits once present taken shared own

end Once

theorem Once.start (reportsLate : Bool) {kinds : List TaskKind} (sole : TeardownsSwap kinds) :
    Once reportsLate (start kinds) := by
  have kindOf : ∀ (turn : Nat) (task : StateTask),
      (StateChanges.start kinds).processes[turn]? = some task →
        ∃ kind, kinds[turn]? = some kind ∧ TaskKind.start turn kind = task := by
    intro turn task found
    rw [start_processes, Option.map_eq_some_iff] at found
    exact found
  have teardownOf : ∀ (turn : Nat) (swaps : Bool) (phase : TeardownPhase),
      (StateChanges.start kinds).processes[turn]? = some (.teardown swaps phase) →
        kinds[turn]? = some (.teardown swaps) := by
    intro turn swaps phase found
    rcases kindOf turn _ found with ⟨kind, isKind, started⟩
    cases kind with
    | setHandler => cases started
    | teardown =>
        cases started
        exact isKind
  constructor
  case swapping =>
    intro first second swaps swaps' phase phase' atFirst atSecond
    exact sole first second swaps swaps' (teardownOf first swaps phase atFirst)
      (teardownOf second swaps' phase' atSecond)
  case single =>
    intro first _ task _ atFirst _ awaited
    rcases kindOf first task atFirst with ⟨kind, -, rfl⟩
    cases kind <;> cases awaited
  case begun => exact fun lost => by cases lost
  case atMost => exact fun name => ⟨Nat.zero_le 2, fun _ => Nat.zero_le 1⟩
  case prompt =>
    intro _ turn name found
    rcases kindOf turn _ found with ⟨kind, -, started⟩
    cases kind <;> cases started
  case once => exact fun _ => ⟨Nat.zero_le 1, fun _ => rfl⟩

theorem Once.run (fits : Fits reportsLate state) (once : Once reportsLate state)
    (schedule : List Nat) :
    Once reportsLate (state.run (StateTask.act reportsLate) schedule) :=
  (Interleaving.run_invariant (fun state => Fits reportsLate state ∧ Once reportsLate state)
    (fun _ turn holds => ⟨holds.1.step turn, Once.step holds.1 holds.2 turn⟩) ⟨fits, once⟩
    schedule).2

/-! ## All handlers -/

/-- A handler never hears of a connection after its loss, and of the connection at most once. -/
theorem Fits.heard_in_order (fits : Fits reportsLate state) (handler : Nat) :
    ¬ [.disconnected, .connected].Sublist (state.shared.heard handler) ∧
      (state.shared.heard handler).count .connected ≤ 1 := by
  have shape : ∃ first count, state.shared.heard handler =
      Option.toList first ++ List.replicate count .disconnected := by
    by_cases isSet : ∃ phase, state.processes[handler]? = some (.setHandler handler phase)
    · rcases isSet with ⟨phase, found⟩
      exact (fits.views handler handler phase found).2.ordered
    · have silent := (fits.unknown handler fun phase found => isSet ⟨phase, found⟩).2
      exact ⟨none, 0, silent⟩
  rcases shape with ⟨first, count, shape⟩
  rw [shape]
  constructor
  · intro out
    cases first with
    | none =>
        have member := out.subset (List.mem_cons_of_mem _ (List.mem_singleton_self _))
        simp at member
    | some report =>
        have rest : [RpcTransportState.connected].Sublist (List.replicate count .disconnected) := by
          cases out with
          | cons _ out => exact (List.sublist_cons_self _ _).trans out
          | cons_cons _ out => exact out
        have member := rest.subset (List.mem_singleton_self _)
        simp at member
  · rw [List.count_append]
    cases first with
    | none => simp [List.count_replicate]
    | some report => cases report <;> simp [List.count_replicate]

/-- When all is done the handler that is set knows of the loss. -/
theorem Fits.told_of_loss (fits : Fits reportsLate state)
    (allDone : ∀ task ∈ state.processes, task.isDone = true)
    (lost : state.shared.isConnected = false)
    {handler : Nat} (isSet : state.shared.stateChangeHandler = some handler) :
    (state.shared.heard handler).getLast? = some .disconnected ∨
      (reportsLate = false ∧ state.shared.heard handler = []) := by
  have known : ∃ phase, state.processes[handler]? = some (.setHandler handler phase) := by
    by_contra unknown
    exact (fits.unknown handler fun phase found => unknown ⟨phase, found⟩).1 isSet
  rcases known with ⟨phase, found⟩
  have done := allDone _ (List.mem_of_getElem? found)
  obtain rfl : phase = .done := by simpa [StateTask.isDone] using done
  have view := (fits.views handler handler .done found).2
  cases last : (state.shared.heard handler).getLast? with
  | none =>
      have silent := List.getLast?_eq_none_iff.mp last
      cases isLate : reportsLate with
      | false => exact .inr ⟨rfl, silent⟩
      | true => exact absurd silent ((view.late isLate).2 rfl)
  | some report =>
      cases report with
      | disconnected => exact .inl rfl
      | connected =>
          exfalso
          rcases view.settled isSet (.inl last) with isConnected | ⟨turn, task, present, awaited⟩
          · exact absurd (lost.symm.trans isConnected) Bool.false_ne_true
          · have taskDone := allDone task (List.mem_of_getElem? present)
            exact absurd (task.not_awaited_of_done taskDone) (by simp [awaited])

/-- A teardown stays a teardown. -/
theorem teardown_run (reportsLate : Bool) {turn : Nat} {swaps : Bool}
    (present : ∃ phase, state.processes[turn]? = some (.teardown swaps phase))
    (schedule : List Nat) :
    ∃ phase, (state.run (StateTask.act reportsLate) schedule).processes[turn]? =
      some (.teardown swaps phase) := by
  refine Interleaving.run_invariant
    (fun state => ∃ phase, state.processes[turn]? = some (StateTask.teardown swaps phase)) ?_
    present schedule
  rintro before next ⟨phase, found⟩
  by_cases here : next = turn
  · subst here
    exact ⟨_, Interleaving.step_own found⟩
  · exact ⟨phase, (Interleaving.step_other here).trans found⟩

/-- Handlers set concurrently with teardowns, in any order of turns. -/
theorem handlers_follow_the_connection (reportsLate : Bool) (kinds : List TaskKind)
    (schedule : List Nat) :
    let final : Interleaving StateChanges StateTask :=
      (start kinds).run (StateTask.act reportsLate) schedule
    (∀ handler, ¬ [.disconnected, .connected].Sublist (final.shared.heard handler) ∧
      (final.shared.heard handler).count .connected ≤ 1) ∧
    ((∀ task ∈ final.processes, task.isDone = true) → (∃ swaps, .teardown swaps ∈ kinds) →
      ∀ handler, final.shared.stateChangeHandler = some handler →
        (final.shared.heard handler).getLast? = some .disconnected ∨
          (reportsLate = false ∧ final.shared.heard handler = [])) ∧
    (TeardownsSwap kinds →
      (∀ handler, (final.shared.heard handler).length ≤ 2) ∧
        (reportsLate = false → final.shared.losses ≤ 1)) := by
  intro final
  have fits : Fits reportsLate final := (Fits.start reportsLate kinds).run schedule
  refine ⟨fits.heard_in_order, ?_, ?_⟩
  · rintro allDone ⟨swaps, member⟩ handler isSet
    rcases List.mem_iff_getElem?.mp member with ⟨turn, isKind⟩
    have atStart : (start kinds).processes[turn]? = some (.teardown swaps .clear) := by
      rw [start_processes, isKind]
      rfl
    rcases teardown_run reportsLate ⟨_, atStart⟩ schedule with ⟨phase, present⟩
    have done := allDone _ (List.mem_of_getElem? present)
    have lost := fits.cleared turn swaps phase present (by rintro rfl; cases done)
    exact fits.told_of_loss allDone lost isSet
  · intro sole
    have once := Once.run (Fits.start reportsLate kinds) (Once.start reportsLate sole) schedule
    exact ⟨fun handler => (once.atMost handler).1, fun prompt => (once.once prompt).1⟩

/-- Of two handlers on a sync client the second is set while the reader, which has cleared the
flag, waits for the lock: it hears of the loss twice, the first one never. -/
theorem handlers_follow_the_connection_of_two :
    let kinds : List TaskKind := [.setHandler, .teardown true, .setHandler]
    let schedule := [0, 0, 0, 0, 0, 2, 1, 1, 2, 2, 2, 2, 1, 1, 1]
    let final : Interleaving StateChanges StateTask :=
      (start kinds).run (StateTask.act true) schedule
    (∀ task ∈ final.processes, task.isDone = true) ∧
      final.shared.stateChangeHandler = some 2 ∧ TeardownsSwap kinds ∧
      final.shared.heard 0 = [.connected] ∧
      final.shared.heard 2 = [.disconnected, .disconnected] ∧
      (final.shared.heard 2).getLast? = some .disconnected ∧
      (final.shared.heard 2).length ≤ 2 := by
  intro kinds schedule final
  have allDone : ∀ task ∈ final.processes, task.isDone = true := by decide
  have sole : TeardownsSwap kinds := by
    intro first _ swaps _ isFirst _ _
    simpa [kinds] using List.mem_of_getElem? isFirst
  rcases handlers_follow_the_connection true kinds schedule with ⟨-, told, atMost⟩
  refine ⟨allDone, by decide, sole, by decide, by decide, ?_, (atMost sole).1 2⟩
  rcases told allDone ⟨true, by decide⟩ 2 (by decide) with last | ⟨late, -⟩
  · exact last
  · cases late

end StateChanges

end Muxio.Service
