import Muxio.Service.Disconnect
import Muxio.Service.CallResults
import Muxio.Service.Traffic

/-!
# Read loops and the handlers they wait for

On every transport one task reads the bytes of a connection, and before it reads again
it awaits the handlers of the requests that are complete.  `RpcServer`, `RpcWasmClient`
and the reader threads of the synchronous transports keep the dispatcher locked
meanwhile; `spawn_client_read_loop` and `RpcIpcServer` do not.  A handler may itself
call the peer through the connection that it serves.  The response to that call would
have to be read by the task that waits for the handler.
-/

namespace Muxio.Service

open Std
open Muxio.Encoding
open Muxio.Framing
open Muxio.Rpc

universe u

/-! ## Handlers that may call -/

/-- A prebuffered handler after it has been given its arguments: it returns, or it awaits
`RpcCallPrebuffered::call` on its own connection and goes on with the result. -/
inductive HandlerProgram where
  | done (result : Except HandlerError (List UInt8))
  | call (methodId : UInt64) (encodedArgs : List UInt8)
      (resume : Except RpcServiceError (List UInt8) → HandlerProgram)

structure AsyncEndpoint where
  prebufferedHandlers : ExtTreeMap UInt64 (List UInt8 → HandlerProgram) compare
  streamHandlers : ExtTreeMap UInt64 StreamHandler compare
  encodeError : RpcServiceErrorPayload → List UInt8

/-- The first stage of a read runs no prebuffered handler. -/
def AsyncEndpoint.decoding (endpoint : AsyncEndpoint) : RpcServiceEndpoint :=
  ⟨∅, endpoint.streamHandlers, endpoint.encodeError⟩

inductive HandlerTask where
  /-- No handler is registered for the method. -/
  | missing
  | ready (program : HandlerProgram)
  /-- The connection was up when the call asked; it goes on to lock the dispatcher. -/
  | checked (methodId : UInt64) (encodedArgs : List UInt8)
      (resume : Except RpcServiceError (List UInt8) → HandlerProgram)
  /-- The call of this number has been made. -/
  | waiting (call : Nat) (resume : Except RpcServiceError (List UInt8) → HandlerProgram)

/-- The next step is to lock the dispatcher. -/
def HandlerTask.isChecked : HandlerTask → Bool
  | checked .. => true
  | _ => false

/-- A run of `process_single_prebuffered_request`. -/
structure RunningHandler where
  requestId : UInt32
  rpcMethodId : UInt64
  task : HandlerTask

namespace RunningHandler

def start (endpoint : AsyncEndpoint) (entry : UInt32 × RpcRequest) : RunningHandler where
  requestId := entry.1
  rpcMethodId := entry.2.rpcMethodId
  task := match endpoint.prebufferedHandlers[entry.2.rpcMethodId]? with
    | some handler => .ready (handler (RpcServiceEndpoint.argsForHandler entry.2))
    | none => .missing

/-- The response, once the handler has returned. -/
def response (endpoint : AsyncEndpoint) (running : RunningHandler) : Option RpcResponse :=
  let answer (status : RpcResultStatus) (payload : Option (List UInt8)) : RpcResponse :=
    { rpcRequestId := running.requestId
      rpcMethodId := running.rpcMethodId
      rpcResultStatus := some status.toUInt8
      rpcPrebufferedPayloadBytes := payload
      isFinalized := true }
  match running.task with
  | .missing => some (answer .methodNotFound none)
  | .ready (.done (.ok encoded)) => some (answer .success (some encoded))
  | .ready (.done (.error (.structured payload))) =>
      some (answer payload.code.status (some (endpoint.encodeError payload)))
  | .ready (.done (.error (.other text))) =>
      some (answer .systemError (some (utf8Bytes text)))
  | .ready (.call ..) => none
  | .checked .. => none
  | .waiting .. => none

end RunningHandler

/-! ## Connections and their read loops -/

inductive LoopKind where
  /-- The loop calls `read_bytes` and holds the dispatcher for the whole of it. -/
  | locked
  /-- The loop runs the three stages itself and awaits handlers without the lock. -/
  | staged
  deriving DecidableEq, Repr

inductive LoopPhase where
  | reading
  /-- At `join_all` in `run_handlers`. -/
  | handling (handlers : List RunningHandler)
  | left

/-- One end of a connection.  The response handler of the call number `n` is
`.response n`. -/
structure ReadLoop where
  kind : LoopKind
  state : EndpointState Nat
  handedOut : Nat
  isConnected : Bool
  reader : LoopPhase
  madeCalls : Nat
  log : List (Action (EndpointHandler Nat))
  sent : List RpcResponse

inductive LoopStep where
  | receive (bytes : List UInt8)
  /-- The reader finds the connection closed and leaves its loop. -/
  | endOfInput
  /-- A handler takes its next step. -/
  | handler (index : Nat)
  /-- All handlers have returned; their responses are sent. -/
  | reply
  /-- Another task calls the peer. -/
  | call (methodId : UInt64) (encodedArgs : List UInt8)
  /-- Something else clears the connected flag. -/
  | disconnect
  /-- Whoever cleared the flag fails the pending requests. -/
  | failPending (error : FrameDecodeError)
  /-- The reader is aborted, as `RpcIpcServer` does when its writer has ended and
  `RpcClient` when it is dropped. -/
  | abort

/-- The connection is left alone. -/
def LoopStep.isCalm : LoopStep → Bool
  | disconnect => false
  | abort => false
  | _ => true

namespace ReadLoop

def new (kind : LoopKind) (idSpace : IdSpace) (handedOut : Nat) : ReadLoop :=
  let made := EndpointState.new idSpace handedOut
  ⟨kind, made.1, made.2, true, .reading, 0, [], []⟩

def handlers (loop : ReadLoop) : List RunningHandler :=
  match loop.reader with
  | .handling handlers => handlers
  | _ => []

/-- The reader holds the dispatcher while it awaits handlers. -/
def lockHeld (loop : ReadLoop) : Bool :=
  match loop.kind, loop.reader with
  | .locked, .handling _ => true
  | _, _ => false

/-- Some handler wants to lock the dispatcher. -/
def lockWanted (loop : ReadLoop) : Bool := loop.handlers.any fun running => running.task.isChecked

/-- Register a call with the dispatcher, which must not be locked.  With the chunk size of
the service this never fails. -/
def makeCall (loop : ReadLoop) (methodId : UInt64) (encodedArgs : List UInt8) : ReadLoop :=
  let called := loop.state.call (prebufferedRequest methodId encodedArgs)
    defaultServiceMaxChunkSize (some loop.madeCalls) false loop.handedOut
  { loop with state := called.2.1, handedOut := called.2.2, madeCalls := loop.madeCalls + 1 }

def setTask (loop : ReadLoop) (index : Nat) (task : HandlerTask) : ReadLoop :=
  { loop with
    reader := .handling (loop.handlers.modify index fun running => { running with task := task }) }

section Steps

variable (endpoint : AsyncEndpoint)

/-- What the call of this number has returned. -/
def result (loop : ReadLoop) (call : Nat) : Option (Except RpcServiceError (List UInt8)) :=
  callResult .ok (heard (.response call) loop.log)

def receive (loop : ReadLoop) (bytes : List UInt8) : ReadLoop :=
  let decoded := endpoint.decoding.decodeBytes loop.state bytes loop.handedOut
  let requests := decoded.result.toOption.getD []
  { loop with
    state := decoded.state
    handedOut := decoded.handedOut
    log := loop.log ++ decoded.actions
    reader := if requests.isEmpty then .reading
      else .handling (requests.map (RunningHandler.start endpoint)) }

/-- The next step of a handler; it may have to wait. -/
def advance (loop : ReadLoop) (index : Nat) : HandlerTask → ReadLoop
  | .missing => loop
  | .ready (.done _) => loop
  | .ready (.call methodId encodedArgs resume) =>
      if loop.isConnected then
        loop.setTask index (.checked methodId encodedArgs resume)
      else
        loop.setTask index (.ready (resume (.error disconnectedError)))
  | .checked methodId encodedArgs resume =>
      if loop.lockHeld then
        loop
      else
        (loop.makeCall methodId encodedArgs).setTask index (.waiting loop.madeCalls resume)
  | .waiting call resume =>
      match loop.result call with
      | none => loop
      | some returned => loop.setTask index (.ready (resume returned))

def reply (loop : ReadLoop) : ReadLoop :=
  if loop.handlers.all fun running => (running.response endpoint).isSome then
    let responses := loop.handlers.filterMap (RunningHandler.response endpoint)
    let sent := sendResponses loop.state.dispatcher loop.handedOut responses
    { loop with
      state := loop.state.withDispatcher sent.2.1 (setup_sendResponses _ _ _)
        loop.state.responders
      handedOut := sent.2.2
      reader := .reading
      sent := loop.sent ++ responses }
  else
    loop

def failPending (loop : ReadLoop) (error : FrameDecodeError) : ReadLoop :=
  let failed := loop.state.dispatcher.failAllPendingRequests error
  { loop with
    state := loop.state.withDispatcher failed.1 rfl loop.state.responders
    log := loop.log ++ failed.2 }

def step (loop : ReadLoop) : LoopStep → ReadLoop
  | .receive bytes =>
      match loop.reader with
      | .reading => loop.receive endpoint bytes
      | _ => loop
  | .endOfInput =>
      match loop.reader with
      | .reading => { loop with reader := .left, isConnected := false }
      | _ => loop
  | .handler index =>
      match loop.handlers[index]? with
      | some running => loop.advance index running.task
      | none => loop
  | .reply =>
      match loop.reader with
      | .handling _ => loop.reply endpoint
      | _ => loop
  | .call methodId encodedArgs =>
      if loop.lockHeld then loop else loop.makeCall methodId encodedArgs
  | .disconnect => { loop with isConnected := false }
  | .failPending error =>
      if loop.isConnected || loop.lockHeld then loop else loop.failPending error
  | .abort =>
      match loop.kind with
      | .staged => { loop with reader := .left, isConnected := false }
      | .locked => loop

def run (loop : ReadLoop) (steps : List LoopStep) : ReadLoop :=
  steps.foldl (step endpoint) loop

end Steps

/-! ## Waiting handlers -/

/-- The task waits for something that only the reader, or a teardown, can bring about. -/
inductive Awaits
    (log : List (Action (EndpointHandler Nat))) : HandlerTask → Prop where
  | call {methodId encodedArgs resume} :
      Awaits log (.ready (.call methodId encodedArgs resume))
  | lock {methodId encodedArgs resume} :
      Awaits log (.checked methodId encodedArgs resume)
  | response {call resume} (pending : callResult (T := List UInt8) .ok
      (heard (.response call) log) = none) : Awaits log (.waiting call resume)

/-- A step that leaves the reader where it is. -/
structure Waits (loop next : ReadLoop) : Prop where
  kind : next.kind = loop.kind
  connected : next.isConnected = loop.isConnected
  log : next.log = loop.log
  sent : next.sent = loop.sent
  calls : loop.madeCalls ≤ next.madeCalls
  handling : (∃ handlers, loop.reader = .handling handlers) →
    ∃ handlers, next.reader = .handling handlers

namespace Waits

variable {loop next : ReadLoop}

theorem refl (loop : ReadLoop) : Waits loop loop := ⟨rfl, rfl, rfl, rfl, Nat.le_refl _, id⟩

theorem setTask (loop : ReadLoop) (index : Nat) (task : HandlerTask) :
    Waits loop (loop.setTask index task) :=
  ⟨rfl, rfl, rfl, rfl, Nat.le_refl _, fun _ => ⟨_, rfl⟩⟩

theorem makeCall (loop : ReadLoop) (methodId : UInt64) (encodedArgs : List UInt8) :
    Waits loop (loop.makeCall methodId encodedArgs) :=
  ⟨rfl, rfl, rfl, rfl, Nat.le_succ _, id⟩

theorem trans {last : ReadLoop} (first : Waits loop next) (second : Waits next last) :
    Waits loop last where
  kind := second.kind.trans first.kind
  connected := second.connected.trans first.connected
  log := second.log.trans first.log
  sent := second.sent.trans first.sent
  calls := first.calls.trans second.calls
  handling := second.handling ∘ first.handling

end Waits

variable {endpoint : AsyncEndpoint} {loop : ReadLoop}

theorem handlers_of_handling {handlers : List RunningHandler}
    (handling : loop.reader = .handling handlers) : loop.handlers = handlers := by
  rw [ReadLoop.handlers, handling]

theorem handling_of_handler {index : Nat} {running : RunningHandler}
    (found : loop.handlers[index]? = some running) :
    ∃ handlers, loop.reader = .handling handlers := by
  unfold handlers at found
  split at found
  · rename_i handlers handling
    exact ⟨handlers, handling⟩
  · contradiction

theorem setTask_handlers (index : Nat) (task : HandlerTask) (other : Nat) :
    (loop.setTask index task).handlers[other]? =
      if index = other then loop.handlers[other]?.map fun running => { running with task := task }
      else loop.handlers[other]? := by
  rw [handlers_of_handling rfl, List.getElem?_modify]
  split
  · rfl
  · exact Option.map_id'

theorem advance_waits (loop : ReadLoop) (index : Nat)
    (task : HandlerTask) :
    Waits loop (loop.advance index task) := by
  cases task with
  | missing => exact .refl loop
  | ready program =>
      cases program with
      | done => exact .refl loop
      | call methodId encodedArgs resume =>
          rw [advance]
          split
          · exact .setTask loop index _
          · exact .setTask loop index _
  | checked methodId encodedArgs resume =>
      rw [advance]
      split
      · exact .refl loop
      · exact (Waits.makeCall loop methodId encodedArgs).trans (.setTask _ index _)
  | waiting call resume =>
      rw [advance]
      split
      · exact .refl loop
      · exact .setTask loop index _

/-- A step of one handler does not move another. -/
theorem advance_other {index other : Nat} (different : index ≠ other) (task : HandlerTask) :
    (loop.advance index task).handlers[other]? = loop.handlers[other]? := by
  have set : ∀ (changed : ReadLoop) task', changed.handlers = loop.handlers →
      (changed.setTask index task').handlers[other]? = loop.handlers[other]? := by
    intro changed task' same
    rw [setTask_handlers, if_neg different, same]
  cases task with
  | missing => rfl
  | ready program =>
      cases program with
      | done => rfl
      | call methodId encodedArgs resume =>
          rw [advance]
          split
          · exact set loop _ rfl
          · exact set loop _ rfl
  | checked methodId encodedArgs resume =>
      rw [advance]
      split
      · rfl
      · exact set _ _ rfl
  | waiting call resume =>
      rw [advance]
      split
      · rfl
      · exact set loop _ rfl

theorem Awaits.unanswered {log : List (Action (EndpointHandler Nat))} {running : RunningHandler}
    (awaits : Awaits log running.task) : running.response endpoint = none := by
  rcases running with ⟨requestId, methodId, task⟩
  cases awaits with
  | call => rfl
  | lock => rfl
  | response => rfl

/-- Responses are not sent before the last handler has returned. -/
theorem reply_of_unanswered {index : Nat} {running : RunningHandler}
    (found : loop.handlers[index]? = some running) (unanswered : running.response endpoint = none) :
    loop.reply endpoint = loop := by
  rw [reply, if_neg]
  intro all
  have answered := List.all_eq_true.mp all running (List.mem_of_getElem? found)
  rw [unanswered] at answered
  contradiction

/-! ## A handler that calls back -/

/-- The reader waits for a handler that waits for the reader. -/
structure Hanging (index : Nat) (before loop : ReadLoop) :
    Prop where
  handling : ∃ handlers, loop.reader = .handling handlers
  connected : loop.isConnected = true
  awaits : ∃ running, loop.handlers[index]? = some running ∧
    Awaits loop.log running.task
  unheard : ∀ call, loop.madeCalls ≤ call → heard (.response call) loop.log = []
  log : loop.log = before.log
  sent : loop.sent = before.sent

namespace Hanging

variable {index : Nat} {before : ReadLoop}

theorem of_waits {next : ReadLoop} (hanging : Hanging index before loop)
    (waits : Waits loop next)
    (awaits : ∃ running, next.handlers[index]? = some running ∧
      Awaits loop.log running.task) :
    Hanging index before next where
  handling := waits.handling hanging.handling
  connected := waits.connected.trans hanging.connected
  awaits := waits.log ▸ awaits
  unheard call later := waits.log ▸ hanging.unheard call (waits.calls.trans later)
  log := waits.log.trans hanging.log
  sent := waits.sent.trans hanging.sent

/-- The handler itself comes no further than to its call. -/
theorem own (hanging : Hanging index before loop) {running : RunningHandler}
    (found : loop.handlers[index]? = some running)
    (awaits : Awaits loop.log running.task) :
    ∃ moved, (loop.advance index running.task).handlers[index]? = some moved ∧
      Awaits loop.log moved.task := by
  have set : ∀ (changed : ReadLoop) task, changed.handlers = loop.handlers →
      Awaits loop.log task →
      ∃ moved, (changed.setTask index task).handlers[index]? = some moved ∧
        Awaits loop.log moved.task := by
    intro changed task same stillAwaits
    refine ⟨{ running with task := task }, ?_, stillAwaits⟩
    rw [setTask_handlers, if_pos rfl, same, found]
    rfl
  rcases running with ⟨requestId, rpcMethodId, task⟩
  cases awaits with
  | call =>
      rw [advance, if_pos hanging.connected]
      exact set loop _ rfl .lock
  | lock =>
      rw [advance]
      split
      · exact ⟨_, found, .lock⟩
      · apply set _ _ rfl
        apply Awaits.response
        rw [hanging.unheard loop.madeCalls (Nat.le_refl _)]
        exact callResult_unended _ fun event member => absurd member List.not_mem_nil
  | response pending =>
      rw [advance, result, pending]
      exact ⟨_, found, .response pending⟩

/-- As long as the connection is left alone, the loop hangs. -/
theorem step (hanging : Hanging index before loop) {step : LoopStep}
    (calm : step.isCalm = true) :
    Hanging index before (loop.step endpoint step) := by
  rcases hanging.handling with ⟨handlers, handling⟩
  rcases hanging.awaits with ⟨running, found, awaits⟩
  cases step with
  | receive bytes =>
      rw [ReadLoop.step, handling]
      exact hanging
  | endOfInput =>
      rw [ReadLoop.step, handling]
      exact hanging
  | handler other =>
      rw [ReadLoop.step]
      split
      · rename_i moving foundOther
        apply hanging.of_waits (advance_waits _ other moving.task)
        by_cases same : other = index
        · subst same
          obtain rfl : running = moving := Option.some.inj (found.symm.trans foundOther)
          exact hanging.own found awaits
        · exact ⟨running, (advance_other same moving.task).trans found, awaits⟩
      · exact hanging
  | reply =>
      rw [ReadLoop.step, handling]
      simp only
      rw [reply_of_unanswered found awaits.unanswered]
      exact hanging
  | call methodId encodedArgs =>
      rw [ReadLoop.step]
      split
      · exact hanging
      · exact hanging.of_waits (.makeCall loop methodId encodedArgs) ⟨running, found, awaits⟩
  | disconnect => contradiction
  | failPending error =>
      rw [ReadLoop.step, if_pos (by rw [hanging.connected]; rfl)]
      exact hanging
  | abort => contradiction

theorem run (endpoint : AsyncEndpoint) (hanging : Hanging index before loop)
    {steps : List LoopStep} (calm : ∀ step ∈ steps, step.isCalm = true) :
    Hanging index before (loop.run endpoint steps) := by
  induction steps generalizing loop with
  | nil => exact hanging
  | cons first rest ih =>
      exact ih (hanging.step (calm first List.mem_cons_self))
        fun step member => calm step (List.mem_cons_of_mem _ member)

end Hanging

/-! ## A handler that waits for the lock -/

/-- The reader holds the dispatcher and waits for a handler that wants to lock it. -/
structure Deadlocked (index : Nat) (before loop : ReadLoop) : Prop where
  kind : loop.kind = .locked
  handling : ∃ handlers, loop.reader = .handling handlers
  wantsLock : ∃ running methodId encodedArgs resume, loop.handlers[index]? = some running ∧
    running.task = .checked methodId encodedArgs resume
  dispatcher : loop.state.dispatcher = before.state.dispatcher
  log : loop.log = before.log
  sent : loop.sent = before.sent

namespace Deadlocked

variable {index : Nat} {before : ReadLoop}

theorem lockHeld (deadlocked : Deadlocked index before loop) : loop.lockHeld = true := by
  rcases deadlocked.handling with ⟨handlers, handling⟩
  rw [ReadLoop.lockHeld, deadlocked.kind, handling]

/-- With the dispatcher locked no handler changes it. -/
theorem advance_dispatcher (deadlocked : Deadlocked index before loop) (other : Nat)
    (task : HandlerTask) :
    (loop.advance other task).state.dispatcher = before.state.dispatcher := by
  rw [← deadlocked.dispatcher]
  cases task with
  | missing => rfl
  | ready program =>
      cases program with
      | done => rfl
      | call methodId encodedArgs resume =>
          rw [advance]
          split <;> rfl
  | checked methodId encodedArgs resume => rw [advance, if_pos deadlocked.lockHeld]
  | waiting call resume =>
      rw [advance]
      split <;> rfl

/-- Nothing helps, not even the loss of the connection. -/
theorem step (deadlocked : Deadlocked index before loop) (step : LoopStep) :
    Deadlocked index before (loop.step endpoint step) := by
  rcases deadlocked.handling with ⟨handlers, handling⟩
  rcases deadlocked.wantsLock with ⟨running, methodId, encodedArgs, resume, found, isChecked⟩
  cases step with
  | receive bytes =>
      rw [ReadLoop.step, handling]
      exact deadlocked
  | endOfInput =>
      rw [ReadLoop.step, handling]
      exact deadlocked
  | handler other =>
      rw [ReadLoop.step]
      split
      · rename_i moving foundOther
        have waits := advance_waits loop other moving.task
        constructor
        case kind => exact waits.kind.trans deadlocked.kind
        case handling => exact waits.handling deadlocked.handling
        case wantsLock =>
          by_cases same : other = index
          · subst same
            obtain rfl : running = moving := Option.some.inj (found.symm.trans foundOther)
            rw [isChecked, advance, if_pos deadlocked.lockHeld]
            exact deadlocked.wantsLock
          · rw [advance_other same]
            exact deadlocked.wantsLock
        case dispatcher => exact deadlocked.advance_dispatcher other moving.task
        case log => exact waits.log.trans deadlocked.log
        case sent => exact waits.sent.trans deadlocked.sent
      · exact deadlocked
  | reply =>
      have unanswered : running.response endpoint = none := by
        rw [RunningHandler.response, isChecked]
      rw [ReadLoop.step, handling]
      simp only
      rw [reply_of_unanswered found unanswered]
      exact deadlocked
  | call methodId encodedArgs =>
      rw [ReadLoop.step, if_pos deadlocked.lockHeld]
      exact deadlocked
  | disconnect =>
      exact ⟨deadlocked.kind, deadlocked.handling, deadlocked.wantsLock, deadlocked.dispatcher,
        deadlocked.log, deadlocked.sent⟩
  | failPending error =>
      rw [ReadLoop.step, if_pos (by rw [deadlocked.lockHeld, Bool.or_true])]
      exact deadlocked
  | abort =>
      rw [ReadLoop.step, deadlocked.kind]
      exact deadlocked

theorem run (endpoint : AsyncEndpoint)
    (deadlocked : Deadlocked index before loop) (steps : List LoopStep) :
    Deadlocked index before (loop.run endpoint steps) := by
  induction steps generalizing loop with
  | nil => exact deadlocked
  | cons first rest ih => exact ih (deadlocked.step first)

end Deadlocked

theorem deadlocked_of_lockWanted (kind : loop.kind = .locked) (wanted : loop.lockWanted = true) :
    ∃ index, Deadlocked index loop loop := by
  rcases List.any_eq_true.mp wanted with ⟨running, member, isChecked⟩
  rcases List.getElem?_of_mem member with ⟨index, found⟩
  refine ⟨index, ⟨kind, handling_of_handler found, ⟨running, ?_⟩, rfl, rfl, rfl⟩⟩
  cases task : running.task with
  | checked methodId encodedArgs resume => exact ⟨methodId, encodedArgs, resume, found, rfl⟩
  | _ =>
      rw [task] at isChecked
      contradiction

end ReadLoop

/-! ## Which handlers are called -/

/-- All stored handlers are of some kind. -/
def Stores {H : Type u} (kind : H → Prop) (routing : Routing H) : Prop :=
  ∀ rpcId handler, (routing.slot rpcId).handler = some handler → kind handler

namespace Stores

variable {H : Type u} {kind : H → Prop} {router : Option (StreamMethodRouter H)}
  {routing : Routing H}

theorem slot_onEvent (catchAll : Bool) {slot : Slot H} {rpcId : UInt32} {event : RpcStreamEvent}
    (named : event.requestId = some rpcId)
    (offers : ∀ handler, offered router event = some handler → kind handler)
    (stored : ∀ handler, slot.handler = some handler → kind handler) :
    (∀ handler, (slot.onEvent router catchAll rpcId event).1.handler = some handler →
        kind handler) ∧
      ∀ handler delivered,
        .invoked handler delivered ∈ (slot.onEvent router catchAll rpcId event).2 →
          kind handler := by
  have routed : ∀ handler, (slot.route router rpcId event).1.handler = some handler →
      kind handler := by
    intro handler isHandler
    cases event with
    | header requestId methodId header =>
        obtain rfl : requestId = rpcId := Option.some.inj named
        cases offer : router.bind fun routerFn => routerFn methodId requestId with
        | none =>
            rw [Slot.route, offer] at isHandler
            exact stored handler isHandler
        | some other =>
            rw [Slot.route, offer] at isHandler
            exact offers handler (offer.trans isHandler)
    | _ => exact stored handler isHandler
  constructor
  · intro handler isHandler
    rw [Slot.onEvent_tables] at isHandler
    split at isHandler
    · contradiction
    · exact routed handler isHandler
  · intro handler delivered member
    rcases List.mem_append.mp member with routes | settles
    · rcases Slot.mem_route routes with ⟨_, _, differs⟩
      contradiction
    · rcases Slot.mem_settle named settles with ⟨other, _, isStored, same, -⟩ | caught
      · cases same
        exact routed handler isStored
      · contradiction

theorem onEvent (stores : Stores kind routing) (catchAll : Bool) {event : RpcStreamEvent}
    (offers : ∀ handler, offered router event = some handler → kind handler) :
    Stores kind (routing.onEvent router catchAll event).1 ∧
      ∀ handler delivered, .invoked handler delivered ∈ (routing.onEvent router catchAll event).2 →
        kind handler := by
  cases named : event.requestId with
  | none =>
      rw [routing.onEvent_unnamed router catchAll named]
      refine ⟨stores, ?_⟩
      intro handler delivered member
      simp only at member
      split at member
      · rw [List.mem_singleton] at member
        contradiction
      · contradiction
  | some rpcId =>
      rcases routing.onEvent_slot router catchAll named with ⟨slotEq, actionsEq⟩
      rcases slot_onEvent catchAll named offers (stores rpcId) with
        ⟨kept, called⟩
      constructor
      · intro other handler isHandler
        by_cases own : other = rpcId
        · subst own
          rw [slotEq] at isHandler
          exact kept handler isHandler
        · rw [routing.onEvent_slot_other router catchAll
            (by rw [named]; exact fun same => own (Option.some.inj same).symm)] at isHandler
          exact stores other handler isHandler
      · rw [actionsEq]
        exact called

/-- Events call handlers that were stored or that the router offers. -/
theorem onEvents (stores : Stores kind routing) (catchAll : Bool) (events : List RpcStreamEvent)
    (offers : ∀ event handler, offered router event = some handler → kind handler) :
    Stores kind (routing.onEvents router catchAll events).1 ∧
      ∀ handler delivered,
        .invoked handler delivered ∈ (routing.onEvents router catchAll events).2 →
          kind handler := by
  induction events generalizing routing with
  | nil => exact ⟨stores, fun handler delivered member => absurd member List.not_mem_nil⟩
  | cons event rest ih =>
      rcases stores.onEvent catchAll (offers event) with ⟨kept, called⟩
      rcases ih kept with ⟨keptLater, calledLater⟩
      refine ⟨keptLater, ?_⟩
      intro handler delivered member
      rcases List.mem_append.mp member with now | later
      · exact called handler delivered now
      · exact calledLater handler delivered later

end Stores

/-- Response handlers have the numbers of calls already made. -/
def numbered (calls : Nat) : EndpointHandler Nat → Prop
  | .response call => call < calls
  | .stream _ => True

theorem numbered_mono {calls more : Nat} (le : calls ≤ more) {handler : EndpointHandler Nat}
    (holds : numbered calls handler) : numbered more handler := by
  cases handler with
  | response call => exact Nat.lt_of_lt_of_le holds le
  | stream => trivial

namespace ReadLoop

variable {endpoint : AsyncEndpoint} {loop : ReadLoop}

/-- Only calls that have been made are stored or have been heard. -/
structure Numbered (loop : ReadLoop) : Prop where
  stored : Stores (numbered loop.madeCalls) loop.state.dispatcher.routing
  called : ∀ handler delivered, .invoked handler delivered ∈ loop.log →
    numbered loop.madeCalls handler

namespace Numbered

theorem unheard (holds : loop.Numbered) (call : Nat) (later : loop.madeCalls ≤ call) :
    heard (.response call) loop.log = [] := by
  apply List.filterMap_eq_nil_iff.mpr
  intro action member
  cases action with
  | invoked handler delivered =>
      have isNumbered := holds.called handler delivered member
      rw [Action.heardBy, if_neg]
      rintro rfl
      exact absurd later (Nat.not_le.mpr isNumbered)
  | routed => rfl
  | caught => rfl

theorem new (kind : LoopKind) (idSpace : IdSpace) (handedOut : Nat) :
    (ReadLoop.new kind idSpace handedOut).Numbered where
  stored rpcId handler isHandler := by
    rw [show (ReadLoop.new kind idSpace handedOut).state.dispatcher.routing.slot rpcId =
      Slot.empty from Routing.slot_new rpcId] at isHandler
    contradiction
  called handler delivered member := absurd member List.not_mem_nil

theorem makeCall (holds : loop.Numbered) (methodId : UInt64) (encodedArgs : List UInt8) :
    (loop.makeCall methodId encodedArgs).Numbered where
  stored rpcId handler isHandler := by
    have handlerEq := loop.state.dispatcher.call_handlers
      (prebufferedRequest methodId encodedArgs) defaultServiceMaxChunkSize
      (some (.response loop.madeCalls)) false loop.handedOut rpcId
    have isHandler := handlerEq.symm.trans isHandler
    split at isHandler
    · cases isHandler
      exact Nat.lt_succ_self loop.madeCalls
    · exact numbered_mono (Nat.le_succ _) (holds.stored rpcId handler isHandler)
  called handler delivered member :=
    numbered_mono (Nat.le_succ _) (holds.called handler delivered member)

theorem setTask (holds : loop.Numbered) (index : Nat) (task : HandlerTask) :
    (loop.setTask index task).Numbered :=
  ⟨holds.stored, holds.called⟩

theorem receive (holds : loop.Numbered) (bytes : List UInt8) :
    (loop.receive endpoint bytes).Numbered := by
  let routed := endpoint.decoding.installRouter loop.state
  rcases endpoint.decoding.decodeBytes_traffic loop.state bytes loop.handedOut with
    ⟨same, actionsEq⟩
  have stored : Stores (numbered loop.madeCalls) routed.dispatcher.routing := by
    rw [endpoint.decoding.installRouter_routing loop.state]
    exact holds.stored
  have offers : ∀ event handler, offered (setup routed.dispatcher).2 event = some handler →
      numbered loop.madeCalls handler := by
    intro event handler offer
    have isStream := routed.routesStreams event handler offer
    cases handler with
    | response => contradiction
    | stream => trivial
  rcases stored.onEvents (setup routed.dispatcher).1
    (routed.dispatcher.session.decodeBytes bytes).1 offers with ⟨kept, called⟩
  have readEq := routed.dispatcher.readBytes_eq bytes
  constructor
  case stored =>
    intro rpcId handler isHandler
    apply kept rpcId handler
    rw [← isHandler]
    have routingEq : (loop.receive endpoint bytes).state.dispatcher.routing =
        (routed.dispatcher.actionsOf (routed.dispatcher.session.decodeBytes bytes).1).1 := by
      refine same.routing.trans ?_
      rw [show endpoint.decoding.installRouter loop.state = routed from rfl, readEq]
      rfl
    rw [routingEq]
    rfl
  case called =>
    intro handler delivered member
    rcases List.mem_append.mp member with earlier | now
    · exact holds.called handler delivered earlier
    · rw [actionsEq, show endpoint.decoding.installRouter loop.state = routed from rfl,
        readEq] at now
      exact called handler delivered now

theorem failPending (holds : loop.Numbered) (error : FrameDecodeError) :
    (loop.failPending error).Numbered where
  stored rpcId handler isHandler := by
    rw [show (loop.failPending error).state.dispatcher.routing.slot rpcId = Slot.empty from
      Routing.slot_new rpcId] at isHandler
    contradiction
  called handler delivered member := by
    rcases List.mem_append.mp member with earlier | failed
    · exact holds.called handler delivered earlier
    · rcases List.mem_map.mp failed with ⟨entry, entryMem, same⟩
      cases same
      exact holds.stored entry.1 entry.2
        (ExtTreeMap.mem_toList_iff_getElem?_eq_some.mp entryMem)

theorem reply (holds : loop.Numbered) : (loop.reply endpoint).Numbered := by
  rw [ReadLoop.reply]
  split
  · constructor
    case stored =>
      intro rpcId handler isHandler
      apply holds.stored rpcId handler
      rw [← isHandler]
      have same := SameTraffic.sendResponses loop.state.dispatcher loop.handedOut
        (loop.handlers.filterMap (RunningHandler.response endpoint))
      exact congrArg (fun routing => (Routing.slot routing rpcId).handler) same.routing.symm
    case called => exact holds.called
  · exact holds

theorem advance (holds : loop.Numbered) (index : Nat) (task : HandlerTask) :
    (loop.advance index task).Numbered := by
  cases task with
  | missing => exact holds
  | ready program =>
      cases program with
      | done => exact holds
      | call methodId encodedArgs resume =>
          rw [ReadLoop.advance]
          split
          · exact holds.setTask index _
          · exact holds.setTask index _
  | checked methodId encodedArgs resume =>
      rw [ReadLoop.advance]
      split
      · exact holds
      · exact (holds.makeCall methodId encodedArgs).setTask index _
  | waiting call resume =>
      rw [ReadLoop.advance]
      split
      · exact holds
      · exact holds.setTask index _

theorem step (holds : loop.Numbered) (step : LoopStep) :
    (loop.step endpoint step).Numbered := by
  cases step with
  | receive bytes =>
      rw [ReadLoop.step]
      split
      · exact holds.receive bytes
      · exact holds
  | endOfInput =>
      rw [ReadLoop.step]
      split
      · exact ⟨holds.stored, holds.called⟩
      · exact holds
  | handler index =>
      rw [ReadLoop.step]
      split
      · exact holds.advance index _
      · exact holds
  | reply =>
      rw [ReadLoop.step]
      split
      · exact holds.reply
      · exact holds
  | call methodId encodedArgs =>
      rw [ReadLoop.step]
      split
      · exact holds
      · exact holds.makeCall methodId encodedArgs
  | disconnect => exact ⟨holds.stored, holds.called⟩
  | failPending error =>
      rw [ReadLoop.step]
      split
      · exact holds
      · exact holds.failPending error
  | abort =>
      rw [ReadLoop.step]
      split
      · exact ⟨holds.stored, holds.called⟩
      · exact holds

theorem run (holds : loop.Numbered) (steps : List LoopStep) :
    (loop.run endpoint steps).Numbered := by
  induction steps generalizing loop with
  | nil => exact holds
  | cons first rest ih => exact ih (holds.step first)

end Numbered

/-! ## What a read leads to -/

theorem step_kind (step : LoopStep) :
    (loop.step endpoint step).kind = loop.kind := by
  cases step with
  | handler index =>
      rw [ReadLoop.step]
      split
      · exact (advance_waits _ index _).kind
      · rfl
  | reply =>
      rw [ReadLoop.step]
      split
      · rw [ReadLoop.reply]
        split <;> rfl
      · rfl
  | disconnect => rfl
  | _ =>
      rw [ReadLoop.step]
      split <;> rfl

theorem run_kind (steps : List LoopStep) :
    (loop.run endpoint steps).kind = loop.kind := by
  induction steps generalizing loop with
  | nil => rfl
  | cons first rest ih => exact ih.trans (step_kind first)

theorem receive_handlers (endpoint : AsyncEndpoint) (loop : ReadLoop) (bytes : List UInt8) :
    ∃ requests : List (UInt32 × RpcRequest), (loop.receive endpoint bytes).handlers =
        requests.map (RunningHandler.start endpoint) ∧
      (loop.receive endpoint bytes).reader =
        if requests.isEmpty then .reading
        else .handling (requests.map (RunningHandler.start endpoint)) := by
  let decoded := endpoint.decoding.decodeBytes loop.state bytes loop.handedOut
  refine ⟨decoded.result.toOption.getD [], ?_, rfl⟩
  unfold handlers receive
  simp only
  split
  · rename_i handling isHandling
    split at isHandling
    · contradiction
    · exact (LoopPhase.handling.inj isHandling).symm
  · rename_i notHandling
    split at notHandling
    · rename_i empty
      rw [show decoded.result.toOption.getD [] = [] from List.isEmpty_iff.mp empty]
      rfl
    · exact absurd rfl (notHandling _)

/-- A handler that has just been started has returned, or it is about to call. -/
theorem awaits_of_unanswered (log : List (Action (EndpointHandler Nat)))
    {entry : UInt32 × RpcRequest}
    (unanswered : (RunningHandler.start endpoint entry).response endpoint = none) :
    Awaits log (RunningHandler.start endpoint entry).task := by
  unfold RunningHandler.response at unanswered
  simp only at unanswered
  split at unanswered
  · contradiction
  · contradiction
  · contradiction
  · contradiction
  · rename_i isCall
    rw [isCall]
    exact .call
  · rename_i isChecked
    unfold RunningHandler.start at isChecked
    simp only at isChecked
    split at isChecked <;> contradiction
  · rename_i isWaiting
    unfold RunningHandler.start at isWaiting
    simp only at isWaiting
    split at isWaiting <;> contradiction

/-- A batch with a handler that calls back hangs from the start. -/
theorem hanging_of_unanswered (holds : loop.Numbered) (connected : loop.isConnected = true)
    (bytes : List UInt8) {running : RunningHandler}
    (member : running ∈ (loop.receive endpoint bytes).handlers)
    (unanswered : running.response endpoint = none) :
    ∃ index, Hanging index (loop.receive endpoint bytes)
      (loop.receive endpoint bytes) := by
  rcases receive_handlers endpoint loop bytes with
    ⟨requests, handlersEq, readerEq⟩
  rcases List.getElem?_of_mem member with ⟨index, found⟩
  rw [handlersEq] at member
  rcases List.mem_map.mp member with ⟨entry, entryMem, rfl⟩
  refine ⟨index, ⟨⟨_, readerEq.trans (if_neg ?_)⟩, connected,
    ⟨_, found, awaits_of_unanswered _ unanswered⟩, (holds.receive bytes).unheard, rfl, rfl⟩⟩
  intro empty
  rw [List.isEmpty_iff.mp empty] at entryMem
  contradiction

/-- If all handlers have returned, the responses are sent and reading goes on. -/
theorem reply_of_answered (bytes : List UInt8)
    (answered : ∀ running ∈ (loop.receive endpoint bytes).handlers,
      (running.response endpoint).isSome = true) :
    ((loop.receive endpoint bytes).step endpoint .reply).reader = .reading ∧
      ((loop.receive endpoint bytes).step endpoint .reply).sent =
        loop.sent ++ (loop.receive endpoint bytes).handlers.filterMap
          (RunningHandler.response endpoint) := by
  rcases receive_handlers endpoint loop bytes with
    ⟨requests, handlersEq, readerEq⟩
  rw [ReadLoop.step]
  split
  · rw [ReadLoop.reply, if_pos (List.all_eq_true.mpr answered)]
    exact ⟨rfl, rfl⟩
  · rename_i notHandling
    have empty : requests.isEmpty = true := by
      by_contra nonempty
      exact notHandling _ (readerEq.trans (if_neg nonempty))
    rw [handlersEq, List.isEmpty_iff.mp empty]
    rw [if_pos empty] at readerEq
    exact ⟨readerEq, (List.append_nil _).symm⟩

end ReadLoop

/-- A handler must not call back.  After a read at any point of the life of a connection, the
reader gets to read again, as long as the connection is left alone, exactly if every handler
that the read has started returns without a call over the same connection.  Otherwise no
further bytes are read and no response is sent, so that no call of any task gets its response.
A loop that holds the dispatcher is then lost for good: once a handler has asked for the lock,
neither the loss of the connection nor anything else changes the dispatcher again. -/
theorem ReadLoop.handlers_must_not_call_back
    (endpoint : AsyncEndpoint) (kind : LoopKind) (idSpace : IdSpace) (handedOut : Nat)
    (steps : List LoopStep) (bytes : List UInt8)
    (reading : ((ReadLoop.new kind idSpace handedOut).run endpoint steps).reader =
      .reading)
    (connected : ((ReadLoop.new kind idSpace handedOut).run endpoint
      steps).isConnected = true) :
    let before := (ReadLoop.new kind idSpace handedOut).run endpoint steps
    let after := before.step endpoint (.receive bytes)
    ((∃ later, (∀ step ∈ later, LoopStep.isCalm step = true) ∧
        (after.run endpoint later).reader = .reading) ↔
      ∀ running ∈ after.handlers, (running.response endpoint).isSome = true) ∧
    (∀ running ∈ after.handlers, running.response endpoint = none →
      ∀ later, (∀ step ∈ later, LoopStep.isCalm step = true) →
        (after.run endpoint later).log = after.log ∧
          (after.run endpoint later).sent = before.sent) ∧
    (kind = .locked → ∀ later more,
      let stuck := after.run endpoint later
      stuck.lockWanted = true →
        (stuck.run endpoint more).state.dispatcher = stuck.state.dispatcher ∧
          (stuck.run endpoint more).log = stuck.log ∧
          (stuck.run endpoint more).sent = stuck.sent) := by
  intro before after
  have afterEq : after = before.receive endpoint bytes := by
    unfold after
    rw [ReadLoop.step, show before.reader = .reading from reading]
  have holds : before.Numbered := (Numbered.new kind idSpace handedOut).run steps
  have hangs : ∀ running ∈ after.handlers, running.response endpoint = none →
      ∃ index, Hanging index after after := by
    intro running member unanswered
    rw [afterEq] at member ⊢
    exact hanging_of_unanswered holds connected bytes member unanswered
  refine ⟨⟨?_, ?_⟩, ?_, ?_⟩
  · rintro ⟨later, calm, backToReading⟩ running member
    cases response : running.response endpoint with
    | some => rfl
    | none =>
        rcases hangs running member response with ⟨index, hanging⟩
        rcases (hanging.run endpoint calm).handling with ⟨handlers, handling⟩
        rw [backToReading] at handling
        contradiction
  · intro answered
    rw [afterEq] at answered ⊢
    refine ⟨[.reply], ?_, (reply_of_answered bytes answered).1⟩
    intro step member
    rw [List.mem_singleton.mp member]
    rfl
  · intro running member unanswered later calm
    rcases hangs running member unanswered with ⟨index, hanging⟩
    have hung := hanging.run endpoint calm
    refine ⟨hung.log, hung.sent.trans ?_⟩
    rw [afterEq]
    rfl
  · intro isLocked later more stuck wanted
    have kindEq : stuck.kind = .locked := by
      unfold stuck after before
      rw [run_kind, ReadLoop.step_kind, run_kind]
      exact isLocked
    rcases deadlocked_of_lockWanted kindEq wanted with ⟨index, deadlocked⟩
    have after := deadlocked.run endpoint more
    exact ⟨after.dispatcher, after.log, after.sent⟩

/-- An endpoint whose method `7` calls method `9` of the peer before it answers. -/
def askingBack : AsyncEndpoint where
  prebufferedHandlers := (∅ : ExtTreeMap UInt64 (List UInt8 → HandlerProgram) compare).insert 7
    fun args => .call 9 args fun _ => .done (.ok [])
  streamHandlers := ∅
  encodeError _ := []

/-- The bytes of a call of method `7`. -/
def callOfSeven : List UInt8 :=
  let made : RpcDispatcher Bool × Nat := RpcDispatcher.newWithIdSpace .client 0
  frameBytes (made.1.call ⟨7, none, none, true⟩ 64 (some true) false made.2).outcome.frames

theorem ReadLoop.handlers_must_not_call_back_of_seven :
    let loop : ReadLoop := (ReadLoop.new .locked .server 0).run askingBack []
    let after := loop.step askingBack (.receive callOfSeven)
    loop.reader = .reading ∧ loop.isConnected = true ∧
      (after.handlers.map fun running => (running.response askingBack).isSome) = [false] ∧
      ¬∃ later, (∀ step ∈ later, LoopStep.isCalm step = true) ∧
        (after.run askingBack later).reader = .reading := by
  intro loop after
  have waits : (after.handlers.map fun running => (running.response askingBack).isSome) =
      [false] := by
    decide +kernel
  have result := handlers_must_not_call_back askingBack .locked .server 0 []
    callOfSeven rfl rfl
  refine ⟨rfl, rfl, waits, ?_⟩
  intro returns
  have answered := result.1.mp returns
  have silent : false ∈ after.handlers.map fun running =>
      (running.response askingBack).isSome := by
    rw [waits]
    exact List.mem_singleton_self false
  rcases List.mem_map.mp silent with ⟨running, member, unanswered⟩
  exact absurd (answered running member) (by rw [unanswered]; decide)

end Muxio.Service
