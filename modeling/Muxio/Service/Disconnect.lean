import Muxio.Rpc.TerminalEvents
import Muxio.Service.Caller

/-!
# Calls against a disconnect

A client's calls run concurrently with its shutdown.  A call first reads the
`is_connected` flag and later, under the dispatcher lock, registers its response
handler.  The shutdown first clears the flag and later, under the same lock, fails
everything that is registered.  Between its two steps a call may be overtaken by the
whole shutdown; it then registers a handler that nobody will ever call.
-/

namespace Muxio.Service

open Std
open Muxio.Framing
open Muxio.Rpc
open Muxio.Transition

/-! ## Clients -/

inductive CallPhase where
  | started
  /-- The client was connected when it was asked. -/
  | checked
  | registered
  | returned
  deriving DecidableEq, Repr

/-- The call has not registered its handler. -/
def CallPhase.isEarly : CallPhase → Bool
  | started => true
  | checked => true
  | _ => false

/-- A call of `call_rpc_streaming`. -/
structure StreamingCall where
  request : RpcRequest
  phase : CallPhase
  response : ResponseState
  /-- The events its handler was called with. -/
  heard : List RpcStreamEvent
  /-- What the call has returned. -/
  result : Option (Except RpcServiceError Unit)

namespace StreamingCall

def new (request : RpcRequest) (kind : DynamicChannelType) : StreamingCall :=
  ⟨request, .started, ResponseState.new kind, [], none⟩

/-- The handler of the call hears an event. -/
def hear (event : RpcStreamEvent) (call : StreamingCall) : StreamingCall :=
  { call with
    response := call.response.recvFn event
    heard := call.heard ++ [event] }

end StreamingCall

inductive ShutdownPhase where
  | running
  /-- The connected flag is cleared. -/
  | cleared
  | finished
  deriving DecidableEq, Repr

/-- A client with its calls.  The response handler of a call is named by the index of
the call. -/
structure RpcClient where
  isConnected : Bool
  shutdown : ShutdownPhase
  dispatcher : RpcDispatcher Nat
  handedOut : Nat
  calls : List StreamingCall

/-- The steps of `call_rpc_streaming` and of `shutdown_async`. -/
inductive ClientStep where
  | check (index : Nat)
  | register (index : Nat)
  | finish (index : Nat)
  | clearConnected
  | failPending
  deriving DecidableEq, Repr

def ClientStep.isRegister : ClientStep → Bool
  | register _ => true
  | _ => false

/-- Some handler is registered after the pending requests were failed. -/
def registersAfterFailing : List ClientStep → Bool
  | [] => false
  | .failPending :: rest => rest.any ClientStep.isRegister
  | _ :: rest => registersAfterFailing rest

/-- The error of a call on a disconnected client. -/
def disconnectedError : RpcServiceError :=
  .transport ⟨.connectionAborted, "RPC call attempted on a disconnected client."⟩

/-- Dispatch an action to the handler that it names. -/
def hearAction (calls : List StreamingCall) : Action Nat → List StreamingCall
  | .invoked index event => calls.modify index (StreamingCall.hear event)
  | _ => calls

namespace RpcClient

/-- A new client about to make calls. -/
def new (calls : List (RpcRequest × DynamicChannelType)) (handedOut : Nat) : RpcClient :=
  let made : RpcDispatcher Nat × Nat := RpcDispatcher.new handedOut
  ⟨true, .running, made.1, made.2, calls.map fun (request, kind) => StreamingCall.new request kind⟩

def callIn (client : RpcClient) (phase : CallPhase) (index : Nat) : Option StreamingCall :=
  client.calls[index]?.filter fun call => call.phase = phase

def setCall (client : RpcClient) (index : Nat) (call : StreamingCall) : RpcClient :=
  { client with calls := client.calls.set index call }

/-- Register a handler with `RpcDispatcher::call`. -/
def dispatch (client : RpcClient) (request : RpcRequest) (index : Nat) : Opened Nat :=
  client.dispatcher.call request defaultServiceMaxChunkSize (some index) false client.handedOut

/-- The client after it has registered a handler. -/
def dispatched (client : RpcClient) (request : RpcRequest) (index : Nat) : RpcClient :=
  { client with
    dispatcher := (client.dispatch request index).dispatcher
    handedOut := (client.dispatch request index).handedOut }

/-- One step, if it is the next one of its call or of the shutdown. -/
def step (client : RpcClient) : ClientStep → Option RpcClient
  | .check index => do
      let call ← client.callIn .started index
      if client.isConnected then
        some (client.setCall index { call with phase := .checked })
      else
        some (client.setCall index
          { call with phase := .returned, result := some (.error disconnectedError) })
  | .register index => do
      let call ← client.callIn .checked index
      let client' := client.dispatched call.request index
      match (client.dispatch call.request index).outcome.result with
      | .ok _ => some (client'.setCall index { call with phase := .registered })
      | .error error =>
          some (client'.setCall index
            { call with
              phase := .returned
              result := some (.error (.transport ⟨.other, debugEncodeError error⟩)) })
  | .finish index => do
      let call ← client.callIn .registered index
      let response := call.response.signalReady (.ok ())
      some (client.setCall index
        { call with
          phase := .returned
          response := response
          result := some response.returned })
  | .clearConnected =>
      if client.shutdown = .running then
        if client.isConnected then
          some { client with isConnected := false, shutdown := .cleared }
        else
          some { client with shutdown := .finished }
      else
        none
  | .failPending =>
      if client.shutdown = .cleared then
        let failed := client.dispatcher.failAllPendingRequests .readAfterCancel
        some { client with
          shutdown := .finished
          dispatcher := failed.1
          calls := failed.2.foldl hearAction client.calls }
      else
        none

def run : RpcClient → List ClientStep → Option RpcClient
  | client, [] => some client
  | client, first :: rest => do run (← client.step first) rest

/-- All calls have returned and the shutdown is done. -/
def Finished (client : RpcClient) : Prop :=
  client.shutdown = .finished ∧ ∀ call ∈ client.calls, call.phase = .returned

/-- The handler of a call that returned `Ok` is registered and has heard no terminal
event. -/
def Stranded (client : RpcClient) (index : Nat) : Prop :=
  ∃ call, client.calls[index]? = some call ∧ call.result = some (.ok ()) ∧
    (∃ rpcId : UInt32, client.dispatcher.routing.responseHandlers[rpcId]? = some index) ∧
    ∀ event ∈ call.heard, event.isTerminal = false

theorem callIn_eq_some {client : RpcClient} {phase : CallPhase} {index : Nat}
    {call : StreamingCall} :
    client.callIn phase index = some call ↔
      client.calls[index]? = some call ∧ call.phase = phase := by
  simp [callIn, Option.filter_eq_some_iff]

/-- What a step can do. -/
theorem step_cases {client next : RpcClient} {first : ClientStep}
    (steps : client.step first = some next) :
    match first with
    | .check index => ∃ call checked, client.calls[index]? = some call ∧ call.phase = .started ∧
        next = client.setCall index checked ∧ checked.response = call.response ∧
        checked.heard = call.heard ∧
        (checked.phase = .checked ∨ checked.phase = .returned)
    | .register index => ∃ call, client.calls[index]? = some call ∧ call.phase = .checked ∧
        next = (client.dispatched call.request index).setCall index
          { call with phase := .registered }
    | .finish index => ∃ call, client.calls[index]? = some call ∧ call.phase = .registered ∧
        let response := call.response.signalReady (.ok ())
        next = client.setCall index
          { call with
            phase := .returned
            response := response
            result := some response.returned }
    | .clearConnected => client.shutdown = .running ∧
        (next = { client with isConnected := false, shutdown := .cleared } ∨
          client.isConnected = false)
    | .failPending => client.shutdown = .cleared ∧
        let failed := client.dispatcher.failAllPendingRequests .readAfterCancel
        next = { client with
          shutdown := .finished
          dispatcher := failed.1
          calls := failed.2.foldl hearAction client.calls } := by
  cases first with
  | check index =>
      obtain ⟨call, found, rest⟩ := Option.bind_eq_some_iff.mp steps
      obtain ⟨stored, started⟩ := callIn_eq_some.mp found
      split at rest
      · exact ⟨call, _, stored, started, (Option.some.inj rest).symm, rfl, rfl, .inl rfl⟩
      · exact ⟨call, _, stored, started, (Option.some.inj rest).symm, rfl, rfl, .inr rfl⟩
  | register index =>
      obtain ⟨call, found, rest⟩ := Option.bind_eq_some_iff.mp steps
      obtain ⟨stored, checked⟩ := callIn_eq_some.mp found
      obtain ⟨emitted, succeeds⟩ := sendPayload_ok client.dispatcher.streamId
        (show 0 < defaultServiceMaxChunkSize by decide)
        (client.dispatcher.callHeader call.request) call.request.rpcPrebufferedPayloadBytes
        call.request.isFinalized
      have succeeds : (client.dispatch call.request index).outcome.result = .ok emitted := succeeds
      simp only [succeeds] at rest
      exact ⟨call, stored, checked, (Option.some.inj rest).symm⟩
  | finish index =>
      obtain ⟨call, found, rest⟩ := Option.bind_eq_some_iff.mp steps
      obtain ⟨stored, registered⟩ := callIn_eq_some.mp found
      exact ⟨call, stored, registered, (Option.some.inj rest).symm⟩
  | clearConnected =>
      rw [step] at steps
      split at steps
      · rename_i running
        split at steps
        · exact ⟨running, .inl (Option.some.inj steps).symm⟩
        · rename_i disconnected
          exact ⟨running, .inr (Bool.eq_false_iff.mpr disconnected)⟩
      · contradiction
  | failPending =>
      rw [step] at steps
      split at steps
      · rename_i cleared
        exact ⟨cleared, (Option.some.inj steps).symm⟩
      · contradiction

theorem getElem?_setCall {client : RpcClient} {index : Nat} {old : StreamingCall}
    (stored : client.calls[index]? = some old) (call : StreamingCall) (other : Nat) :
    (client.setCall index call).calls[other]? =
      if index = other then some call else client.calls[other]? := by
  have within : index < client.calls.length := (List.getElem?_eq_some_iff.mp stored).1
  rw [setCall, List.getElem?_set, if_pos within]

theorem dispatched_handlers (client : RpcClient) (request : RpcRequest) (index : Nat)
    (rpcId : UInt32) :
    (client.dispatched request index).dispatcher.routing.responseHandlers[rpcId]? =
      if client.dispatcher.callId = rpcId then some index
      else client.dispatcher.routing.responseHandlers[rpcId]? := by
  have stores := client.dispatcher.call_handlers request defaultServiceMaxChunkSize (some index)
    false client.handedOut rpcId
  simp only [Option.isSome_some, and_true] at stores
  exact stores

section Failing

variable (calls : List StreamingCall) (actions : List (Action Nat)) (index : Nat)

/-- Hearing events does not move a call on. -/
theorem hearActions_phase :
    (actions.foldl hearAction calls)[index]?.map StreamingCall.phase =
      calls[index]?.map StreamingCall.phase := by
  induction actions generalizing calls with
  | nil => rfl
  | cons action rest ih =>
      rw [List.foldl_cons, ih]
      cases action with
      | invoked other event =>
          rw [hearAction, List.getElem?_modify]
          cases calls[index]? with
          | none => rfl
          | some call =>
              change some (StreamingCall.phase (if _ then _ else _)) = some call.phase
              split <;> rfl
      | _ => rfl

/-- A call whose handler is not called hears nothing. -/
theorem hearActions_untouched (spared : ∀ event, .invoked index event ∉ actions) :
    (actions.foldl hearAction calls)[index]? = calls[index]? := by
  induction actions generalizing calls with
  | nil => rfl
  | cons action rest ih =>
      rw [List.foldl_cons, ih _ fun event member => spared event (List.mem_cons_of_mem _ member)]
      cases action with
      | invoked other event =>
          have different : other ≠ index := by
            rintro rfl
            exact spared event List.mem_cons_self
          rw [hearAction, List.getElem?_modify]
          simp only [different, if_false]
          exact Option.map_id'
      | _ => rfl

end Failing

/-! ## Invariants -/

/-- Calls that have not registered are as new, and only calls that have are
stored. -/
structure Sound (client : RpcClient) : Prop where
  connected : client.shutdown = .running → client.isConnected = true
  untouched : ∀ (index : Nat) call, client.calls[index]? = some call →
    call.phase.isEarly = true → call.response.ready = none ∧ call.heard = []
  stored : ∀ (rpcId : UInt32) (index : Nat),
    client.dispatcher.routing.responseHandlers[rpcId]? = some index →
    ∃ call, client.calls[index]? = some call ∧ call.phase.isEarly = false

theorem new_sound (calls : List (RpcRequest × DynamicChannelType)) (handedOut : Nat) :
    (new calls handedOut).Sound where
  connected := fun _ => rfl
  untouched := by
    intro index call found _
    rw [new, List.getElem?_map, Option.map_eq_some_iff] at found
    obtain ⟨_, -, rfl⟩ := found
    exact ⟨rfl, rfl⟩
  stored := by
    intro rpcId index found
    exact absurd found empty_entry_ne

theorem Sound.setCall {client : RpcClient} (sound : client.Sound) {index : Nat}
    {old : StreamingCall} (found : client.calls[index]? = some old) {call : StreamingCall}
    (untouched : call.phase.isEarly = true → call.response.ready = none ∧ call.heard = [])
    (later : old.phase.isEarly = false → call.phase.isEarly = false) :
    (client.setCall index call).Sound where
  connected := sound.connected
  untouched := by
    intro other there thereAt
    rw [getElem?_setCall found] at thereAt
    split at thereAt
    · rw [← Option.some.inj thereAt]
      exact untouched
    · exact sound.untouched other there thereAt
  stored := by
    intro rpcId other there
    obtain ⟨known, knownAt, registered⟩ := sound.stored rpcId other there
    rw [getElem?_setCall found]
    split
    · rename_i same
      subst same
      rw [found, Option.some.injEq] at knownAt
      subst knownAt
      exact ⟨call, rfl, later registered⟩
    · exact ⟨known, knownAt, registered⟩

theorem Sound.step {client next : RpcClient} (sound : client.Sound) {first : ClientStep}
    (steps : client.step first = some next) : next.Sound := by
  have steps := step_cases steps
  cases first with
  | check index =>
      obtain ⟨call, checked, found, started, rfl, sameResponse, sameHeard, -⟩ := steps
      apply sound.setCall found
      · intro _
        rw [sameResponse, sameHeard]
        exact sound.untouched index call found (by rw [started]; rfl)
      · intro registered
        rw [started] at registered
        contradiction
  | register index =>
      obtain ⟨call, found, checked, rfl⟩ := steps
      have foundAfter : (client.dispatched call.request index).calls[index]? = some call := found
      constructor
      · exact sound.connected
      · intro other there thereAt early
        rw [getElem?_setCall foundAfter] at thereAt
        split at thereAt
        · rw [← Option.some.inj thereAt] at early
          contradiction
        · exact sound.untouched other there thereAt early
      · intro rpcId other there
        rw [getElem?_setCall foundAfter]
        split
        · exact ⟨_, rfl, rfl⟩
        · rename_i different
          have stores := client.dispatched_handlers call.request index rpcId
          rw [show (client.dispatched call.request index).dispatcher.routing.responseHandlers[
            rpcId]? = some other from there] at stores
          split at stores
          · exact absurd (Option.some.inj stores).symm different
          · exact sound.stored rpcId other stores.symm
  | finish index =>
      obtain ⟨call, found, registered, rfl⟩ := steps
      exact sound.setCall found (fun early => nomatch early) fun _ => rfl
  | clearConnected =>
      obtain ⟨running, rfl | disconnected⟩ := steps
      · exact ⟨nofun, sound.untouched, sound.stored⟩
      · rw [sound.connected running] at disconnected
        contradiction
  | failPending =>
      obtain ⟨cleared, rfl⟩ := steps
      constructor
      · nofun
      · intro index call found early
        have phase := congrArg (Option.map StreamingCall.phase) found
        rw [hearActions_phase, Option.map_some, Option.map_eq_some_iff] at phase
        obtain ⟨before, beforeAt, samePhase⟩ := phase
        have spared : ∀ event, .invoked index event ∉
            (client.dispatcher.failAllPendingRequests .readAfterCancel).2 := by
          intro event member
          obtain ⟨⟨rpcId, handler⟩, listed, invoked⟩ := List.mem_map.mp member
          obtain ⟨rfl, -⟩ := Action.invoked.inj invoked
          obtain ⟨known, knownAt, registered⟩ := sound.stored rpcId handler
            (ExtTreeMap.mem_toList_iff_getElem?_eq_some.mp listed)
          rw [beforeAt, Option.some.injEq] at knownAt
          rw [← knownAt, samePhase, early] at registered
          contradiction
        rw [hearActions_untouched _ _ _ spared] at found
        exact sound.untouched index call found early
      · intro rpcId index found
        exact absurd found empty_entry_ne

/-! ## After the shutdown -/

/-- The handler of a call is stored and has heard nothing, and the call has returned or
will return `Ok`. -/
def Waiting (client : RpcClient) (index : Nat) : Prop :=
  ∃ call, client.calls[index]? = some call ∧ call.heard = [] ∧
    (call.phase = .registered ∧ call.response.ready = none ∨
      call.phase = .returned ∧ call.result = some (.ok ())) ∧
    ∃ rpcId : UInt32, client.dispatcher.routing.responseHandlers[rpcId]? = some index

/-- A step of another call leaves a waiting call waiting. -/
theorem Waiting.setCall {client : RpcClient} {index other : Nat} {old : StreamingCall}
    (waiting : client.Waiting index) (found : client.calls[other]? = some old)
    (different : other ≠ index) (call : StreamingCall) :
    (client.setCall other call).Waiting index := by
  obtain ⟨there, thereAt, rest⟩ := waiting
  refine ⟨there, ?_, rest⟩
  rw [getElem?_setCall found, if_neg different]
  exact thereAt

/-- Once the shutdown is done, some call waits for ever after a registration. -/
theorem Sound.waiting_step {client next : RpcClient} (sound : client.Sound) {first : ClientStep}
    (ended : client.shutdown = .finished)
    (steps : client.step first = some next)
    (cause : first.isRegister = true ∨ ∃ index, client.Waiting index) :
    ∃ index, next.Waiting index := by
  have steps := step_cases steps
  cases first with
  | register index =>
      obtain ⟨call, found, checked, rfl⟩ := steps
      have foundAfter : (client.dispatched call.request index).calls[index]? = some call := found
      obtain ⟨notReady, unheard⟩ := sound.untouched index call found (by rw [checked]; rfl)
      refine ⟨index, { call with phase := .registered }, ?_, unheard, .inl ⟨rfl, notReady⟩,
        client.dispatcher.callId, ?_⟩
      · rw [getElem?_setCall foundAfter, if_pos rfl]
      · exact (client.dispatched_handlers call.request index _).trans (if_pos rfl)
  | check other =>
      obtain ⟨index, waiting⟩ := cause.resolve_left Bool.false_ne_true
      obtain ⟨call, checked, found, started, rfl, -⟩ := steps
      refine ⟨index, waiting.setCall found ?_ checked⟩
      rintro rfl
      obtain ⟨there, thereAt, -, registered | returned, -⟩ := waiting
      · rw [found, Option.some.injEq] at thereAt
        rw [← thereAt, started] at registered
        exact CallPhase.noConfusion registered.1
      · rw [found, Option.some.injEq] at thereAt
        rw [← thereAt, started] at returned
        exact CallPhase.noConfusion returned.1
  | finish other =>
      obtain ⟨index, waiting⟩ := cause.resolve_left Bool.false_ne_true
      obtain ⟨call, found, registered, rfl⟩ := steps
      by_cases same : other = index
      · subst same
        obtain ⟨there, thereAt, unheard, ready, stored⟩ := waiting
        rw [found, Option.some.injEq] at thereAt
        subst thereAt
        have notReady : call.response.ready = none := by
          rcases ready with ⟨-, notReady⟩ | ⟨returned, -⟩
          · exact notReady
          · rw [registered] at returned
            contradiction
        refine ⟨other, _, (getElem?_setCall found _ other).trans (if_pos rfl), unheard,
          .inr ⟨rfl, ?_⟩, stored⟩
        simp only [ResponseState.signalReady, ResponseState.returned, notReady, Option.getD_none]
      · exact ⟨index, waiting.setCall found same _⟩
  | clearConnected =>
      rw [ended] at steps
      exact ShutdownPhase.noConfusion steps.1
  | failPending =>
      rw [ended] at steps
      exact ShutdownPhase.noConfusion steps.1

/-- Only the last step of the shutdown ends it. -/
theorem Sound.shutdown_step {client next : RpcClient} (sound : client.Sound) {first : ClientStep}
    (steps : client.step first = some next) (other : first ≠ .failPending) :
    next.shutdown = .finished ↔ client.shutdown = .finished := by
  have steps := step_cases steps
  cases first with
  | check index => obtain ⟨_, _, -, -, rfl, -⟩ := steps; exact Iff.rfl
  | register index => obtain ⟨_, -, -, rfl⟩ := steps; exact Iff.rfl
  | finish index => obtain ⟨_, -, -, rfl⟩ := steps; exact Iff.rfl
  | clearConnected =>
      obtain ⟨running, rfl | disconnected⟩ := steps
      · exact iff_of_false nofun (by rw [running]; nofun)
      · rw [sound.connected running] at disconnected
        contradiction
  | failPending => contradiction

/-- After the shutdown, what is stored comes from registrations. -/
theorem Sound.run_after {client final : RpcClient} {script : List ClientStep}
    (sound : client.Sound) (ended : client.shutdown = .finished)
    (runs : client.run script = some final) :
    ((script.any ClientStep.isRegister = true ∨ ∃ index, client.Waiting index) →
        ∃ index, final.Waiting index) ∧
      (script.any ClientStep.isRegister = false → final.dispatcher = client.dispatcher) := by
  induction script generalizing client with
  | nil =>
      rw [run, Option.some.injEq] at runs
      subst runs
      exact ⟨fun cause => cause.resolve_left Bool.false_ne_true, fun _ => rfl⟩
  | cons first rest ih =>
      obtain ⟨next, steps, runs⟩ := Option.bind_eq_some_iff.mp runs
      have goesOn : first ≠ .failPending := by
        rintro rfl
        have cleared := (step_cases steps).1
        rw [ended] at cleared
        contradiction
      obtain ⟨waits, keeps⟩ := ih (sound.step steps)
        ((sound.shutdown_step steps goesOn).mpr ended) runs
      rw [List.any_cons]
      constructor
      · intro cause
        apply waits
        cases registers : rest.any ClientStep.isRegister with
        | true => exact .inl rfl
        | false =>
            rw [registers, Bool.or_false] at cause
            exact .inr (sound.waiting_step ended steps cause)
      · intro quiet
        rw [Bool.or_eq_false_iff] at quiet
        rw [keeps quiet.2]
        have steps := step_cases steps
        cases first with
        | check index => obtain ⟨_, _, -, -, rfl, -⟩ := steps; rfl
        | register index => exact absurd quiet.1.symm Bool.false_ne_true
        | finish index => obtain ⟨_, -, -, rfl⟩ := steps; rfl
        | clearConnected =>
            rw [ended] at steps
            exact ShutdownPhase.noConfusion steps.1
        | failPending => contradiction

/-- A script ends without a stranded call exactly when no call registers after the
pending requests were failed. -/
theorem Sound.stranded_iff {client final : RpcClient} {script : List ClientStep}
    (sound : client.Sound) (before : client.shutdown ≠ .finished)
    (runs : client.run script = some final) (finished : final.Finished) :
    (∀ index, ¬ final.Stranded index) ↔ registersAfterFailing script = false := by
  induction script generalizing client with
  | nil =>
      rw [run, Option.some.injEq] at runs
      subst runs
      exact absurd finished.1 before
  | cons first rest ih =>
      obtain ⟨next, steps, runsOn⟩ := Option.bind_eq_some_iff.mp runs
      by_cases fails : first = .failPending
      · subst fails
        obtain ⟨cleared, nextEq⟩ := step_cases steps
        have ended : next.shutdown = .finished := by rw [nextEq]
        obtain ⟨waits, keeps⟩ := (sound.step steps).run_after ended runsOn
        rw [registersAfterFailing]
        constructor
        · intro none_stranded
          by_contra registers
          obtain ⟨index, call, found, unheard, ready, stored⟩ :=
            waits (.inl (Bool.eq_true_of_not_eq_false registers))
          have returned := finished.2 call (List.mem_of_getElem? found)
          refine none_stranded index ⟨call, found, ?_, stored, ?_⟩
          · rcases ready with ⟨registered, -⟩ | ⟨-, succeeded⟩
            · rw [registered] at returned
              contradiction
            · exact succeeded
          · rw [unheard]
            nofun
        · rintro quiet index ⟨call, -, -, ⟨rpcId, stored⟩, -⟩
          rw [keeps quiet, nextEq] at stored
          exact absurd stored empty_entry_ne
      · have later := ih (sound.step steps)
          (fun ended => before ((sound.shutdown_step steps fails).mp ended)) runsOn
        rw [later]
        cases first <;> first | rfl | contradiction

end RpcClient

/-- Calls and one disconnect in any interleaving: no call is lost exactly when none
registers its handler after the pending requests were failed. -/
theorem no_call_lost_iff (calls : List (RpcRequest × DynamicChannelType)) (handedOut : Nat)
    (script : List ClientStep) (client : RpcClient)
    (runs : (RpcClient.new calls handedOut).run script = some client)
    (finished : client.Finished) :
    (∀ index, ¬ client.Stranded index) ↔ registersAfterFailing script = false :=
  (RpcClient.new_sound calls handedOut).stranded_iff nofun runs finished

/-- A call that registers before the shutdown fails it. -/
theorem no_call_lost_before_failing :
    let script : List ClientStep :=
      [.check 0, .clearConnected, .register 0, .finish 0, .failPending]
    ∃ client, (RpcClient.new [(⟨5, none, none, true⟩, .unbounded)] 0).run script =
        some client ∧ ∀ index, ¬ client.Stranded index := by
  intro script
  refine ⟨_, rfl, ?_⟩
  refine (no_call_lost_iff [(⟨5, none, none, true⟩, .unbounded)] 0 script _ rfl
    ⟨rfl, ?_⟩).mpr rfl
  intro call member
  rw [List.mem_singleton.mp member]
  rfl

/-- A call that checks the flag before the shutdown and registers after it returns
`Ok`; its handler stays registered, and the channel stays open and empty. -/
theorem call_lost_to_disconnect :
    let script : List ClientStep :=
      [.check 0, .clearConnected, .failPending, .register 0, .finish 0]
    ∃ client, (RpcClient.new [(⟨5, none, none, true⟩, .unbounded)] 0).run script =
        some client ∧ client.Finished ∧ client.Stranded 0 ∧
      client.calls.map (fun call => (call.response.channel.items, call.response.channel.senderHeld))
        = [([], true)] := by
  intro script
  refine ⟨_, rfl, ⟨rfl, ?_⟩, ⟨_, rfl, rfl, ⟨1, rfl⟩, nofun⟩, rfl⟩
  rintro call (_ | ⟨_, ⟨⟩⟩)
  rfl

end Muxio.Service
