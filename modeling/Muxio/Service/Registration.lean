import Muxio.Service.Endpoint
import Muxio.Transition.Interleaving

/-!
# Registration of handlers

An endpoint has two maps of handlers, each behind its own lock.  A registration
looks for its method id in the other map, and then enters its handler in its own
map; in between it holds neither lock.  One of each kind for the same method id
can therefore both succeed: that happens when the first of them enters its
handler while the other one has looked and not yet entered.
-/

namespace Muxio.Service

open Std
open Muxio.Transition

universe u

/-! ## The two halves of a registration -/

section Closures

variable {V : Type u} (handlers : ExtTreeMap UInt64 V compare) (methodId : UInt64)

/-- Refuse a method id that a map contains. -/
def refuse (message : String) : Except RpcServiceEndpointError Unit :=
  if methodId ∈ handlers then .error (.handler message) else .ok ()

/-- Enter a handler unless the entry is occupied. -/
def enter (handler : V) (message : String) :
    Except RpcServiceEndpointError Unit × ExtTreeMap UInt64 V compare :=
  if methodId ∈ handlers then (.error (.handler message), handlers)
  else (.ok (), handlers.insert methodId handler)

end Closures

namespace RpcServiceEndpoint

variable (endpoint : RpcServiceEndpoint) (methodId : UInt64)

/-- The first half of `register_prebuffered`. -/
def checkPrebuffered : Except RpcServiceEndpointError Unit :=
  refuse endpoint.streamHandlers methodId
    s!"A streaming handler for method ID {methodId} is already registered."

/-- The second half of `register_prebuffered`. -/
def enterPrebuffered (handler : PrebufferedHandler) :
    Except RpcServiceEndpointError Unit × RpcServiceEndpoint :=
  let entered := enter endpoint.prebufferedHandlers methodId handler
    s!"A handler for method ID {methodId} is already registered."
  (entered.1, { endpoint with prebufferedHandlers := entered.2 })

/-- The first half of `register_stream_handler`. -/
def checkStreamHandler : Except RpcServiceEndpointError Unit :=
  refuse endpoint.prebufferedHandlers methodId
    s!"A prebuffered handler for method ID {methodId} is already registered."

/-- The second half of `register_stream_handler`. -/
def enterStreamHandler (handler : StreamHandler) :
    Except RpcServiceEndpointError Unit × RpcServiceEndpoint :=
  let entered := enter endpoint.streamHandlers methodId handler
    s!"A streaming handler for method ID {methodId} is already registered."
  (entered.1, { endpoint with streamHandlers := entered.2 })

end RpcServiceEndpoint

inductive HandlerKind where
  | prebuffered
  | stream
  deriving DecidableEq, Repr

/-- A call of `register_prebuffered` or `register_stream_handler`. -/
inductive Registration where
  | prebuffered (methodId : UInt64) (handler : PrebufferedHandler)
  | stream (methodId : UInt64) (handler : StreamHandler)

namespace Registration

def kind : Registration → HandlerKind
  | prebuffered .. => .prebuffered
  | stream .. => .stream

def methodId : Registration → UInt64
  | prebuffered methodId _ => methodId
  | stream methodId _ => methodId

def check (endpoint : RpcServiceEndpoint) : Registration → Except RpcServiceEndpointError Unit
  | prebuffered methodId _ => endpoint.checkPrebuffered methodId
  | stream methodId _ => endpoint.checkStreamHandler methodId

def enter (endpoint : RpcServiceEndpoint) :
    Registration → Except RpcServiceEndpointError Unit × RpcServiceEndpoint
  | prebuffered methodId handler => endpoint.enterPrebuffered methodId handler
  | stream methodId handler => endpoint.enterStreamHandler methodId handler

end Registration

inductive RegistrationPhase where
  | called
  /-- The other map did not contain the method id. -/
  | checked
  | returned (result : Except RpcServiceEndpointError Unit)

structure RegistrationCall where
  registration : Registration
  phase : RegistrationPhase

namespace RegistrationCall

/-- The next atomic step of a call. -/
def act (call : RegistrationCall) (endpoint : RpcServiceEndpoint) :
    RegistrationCall × RpcServiceEndpoint :=
  match call.phase with
  | .called =>
      match call.registration.check endpoint with
      | .error error => ({ call with phase := .returned (.error error) }, endpoint)
      | .ok () => ({ call with phase := .checked }, endpoint)
  | .checked =>
      let entered := call.registration.enter endpoint
      ({ call with phase := .returned entered.1 }, entered.2)
  | .returned _ => (call, endpoint)

end RegistrationCall

/-- Calls about to be made on an endpoint without handlers. -/
def registrations (encodeError : RpcServiceErrorPayload → List UInt8)
    (calls : List Registration) : Interleaving RpcServiceEndpoint RegistrationCall :=
  ⟨⟨∅, ∅, encodeError⟩, calls.map fun registration => ⟨registration, .called⟩⟩

/-! ## What one step does -/

/-- The map of a kind contains a method id. -/
def RpcServiceEndpoint.Has (endpoint : RpcServiceEndpoint) :
    HandlerKind → UInt64 → Prop
  | .prebuffered, methodId => methodId ∈ endpoint.prebufferedHandlers
  | .stream, methodId => methodId ∈ endpoint.streamHandlers

/-- The other kind. -/
def HandlerKind.other : HandlerKind → HandlerKind
  | prebuffered => stream
  | stream => prebuffered

theorem HandlerKind.other_other (kind : HandlerKind) : kind.other.other = kind := by
  cases kind <;> rfl

theorem HandlerKind.eq_other {first second : HandlerKind} (different : first ≠ second) :
    second = first.other := by
  cases first <;> cases second <;> trivial

section Closures

variable {V : Type u} {handlers : ExtTreeMap UInt64 V compare} {methodId : UInt64}
  (message : String)

theorem refuse_present (present : methodId ∈ handlers) :
    refuse handlers methodId message = .error (.handler message) :=
  if_pos present

theorem refuse_absent (absent : methodId ∉ handlers) :
    refuse handlers methodId message = .ok () :=
  if_neg absent

theorem enter_present (present : methodId ∈ handlers) (handler : V) :
    enter handlers methodId handler message = (.error (.handler message), handlers) :=
  if_pos present

theorem enter_absent (absent : methodId ∉ handlers) (handler : V) :
    enter handlers methodId handler message = (.ok (), handlers.insert methodId handler) :=
  if_neg absent

end Closures

namespace Registration

variable (registration : Registration) (endpoint : RpcServiceEndpoint)

/-- The check looks in the map of the other kind. -/
theorem check_cases :
    (endpoint.Has registration.kind.other registration.methodId ∧
      ∃ message, registration.check endpoint = .error (.handler message)) ∨
    (¬ endpoint.Has registration.kind.other registration.methodId ∧
      registration.check endpoint = .ok ()) := by
  cases registration with
  | prebuffered methodId handler =>
      by_cases present : methodId ∈ endpoint.streamHandlers
      · exact Or.inl ⟨present, _, refuse_present _ present⟩
      · exact Or.inr ⟨present, refuse_absent _ present⟩
  | stream methodId handler =>
      by_cases present : methodId ∈ endpoint.prebufferedHandlers
      · exact Or.inl ⟨present, _, refuse_present _ present⟩
      · exact Or.inr ⟨present, refuse_absent _ present⟩

/-- An occupied entry stays as it is, a vacant one is filled, and no other changes. -/
theorem enter_cases :
    (endpoint.Has registration.kind registration.methodId ∧
      ∃ message, registration.enter endpoint = (.error (.handler message), endpoint)) ∨
    (¬ endpoint.Has registration.kind registration.methodId ∧
      (registration.enter endpoint).1 = .ok () ∧
      ∀ kind methodId, (registration.enter endpoint).2.Has kind methodId ↔
        kind = registration.kind ∧ registration.methodId = methodId ∨
          endpoint.Has kind methodId) := by
  cases registration with
  | prebuffered methodId handler =>
      by_cases present : methodId ∈ endpoint.prebufferedHandlers
      · refine Or.inl ⟨present, s!"A handler for method ID {methodId} is already registered.", ?_⟩
        rw [enter, RpcServiceEndpoint.enterPrebuffered, enter_present _ present]
      · refine Or.inr ⟨present, ?_, ?_⟩
        · rw [enter, RpcServiceEndpoint.enterPrebuffered, enter_absent _ present]
        · rw [enter, RpcServiceEndpoint.enterPrebuffered, enter_absent _ present]
          intro kind other
          cases kind with
          | prebuffered => simp [RpcServiceEndpoint.Has, Registration.kind, Registration.methodId]
          | stream => simp [RpcServiceEndpoint.Has, Registration.kind]
  | stream methodId handler =>
      by_cases present : methodId ∈ endpoint.streamHandlers
      · refine Or.inl ⟨present,
          s!"A streaming handler for method ID {methodId} is already registered.", ?_⟩
        rw [enter, RpcServiceEndpoint.enterStreamHandler, enter_present _ present]
      · refine Or.inr ⟨present, ?_, ?_⟩
        · rw [enter, RpcServiceEndpoint.enterStreamHandler, enter_absent _ present]
        · rw [enter, RpcServiceEndpoint.enterStreamHandler, enter_absent _ present]
          intro kind other
          cases kind with
          | prebuffered => simp [RpcServiceEndpoint.Has, Registration.kind]
          | stream => simp [RpcServiceEndpoint.Has, Registration.kind, Registration.methodId]

end Registration

/-- What the next step of a call does: the check, which changes no map, or the entry, which adds
the method id of the call to the map of its kind. -/
theorem RegistrationCall.act_cases (call : RegistrationCall) (endpoint : RpcServiceEndpoint) :
    (call.phase = .called ∧
      endpoint.Has call.registration.kind.other call.registration.methodId ∧
      ∃ message, call.act endpoint =
        (⟨call.registration, .returned (.error (.handler message))⟩, endpoint)) ∨
    (call.phase = .called ∧
      ¬ endpoint.Has call.registration.kind.other call.registration.methodId ∧
      call.act endpoint = (⟨call.registration, .checked⟩, endpoint)) ∨
    (call.phase = .checked ∧ endpoint.Has call.registration.kind call.registration.methodId ∧
      ∃ message, call.act endpoint =
        (⟨call.registration, .returned (.error (.handler message))⟩, endpoint)) ∨
    (call.phase = .checked ∧ ¬ endpoint.Has call.registration.kind call.registration.methodId ∧
      (call.act endpoint).1 = ⟨call.registration, .returned (.ok ())⟩ ∧
      ∀ kind methodId, (call.act endpoint).2.Has kind methodId ↔
        kind = call.registration.kind ∧ call.registration.methodId = methodId ∨
          endpoint.Has kind methodId) ∨
    ((∃ result, call.phase = .returned result) ∧ call.act endpoint = (call, endpoint)) := by
  obtain ⟨registration, phase⟩ := call
  cases phase with
  | called =>
      rcases registration.check_cases endpoint with ⟨present, message, refused⟩ | ⟨absent, passed⟩
      · refine Or.inl ⟨rfl, present, message, ?_⟩
        simp only [act, refused]
      · refine Or.inr (Or.inl ⟨rfl, absent, ?_⟩)
        simp only [act, passed]
  | checked =>
      rcases registration.enter_cases endpoint with
        ⟨present, message, refused⟩ | ⟨absent, entered, contents⟩
      · refine Or.inr (Or.inr (Or.inl ⟨rfl, present, message, ?_⟩))
        simp only [act, refused]
      · refine Or.inr (Or.inr (Or.inr (Or.inl ⟨rfl, absent, ?_, contents⟩)))
        simp only [act, entered]
  | returned result => exact Or.inr (Or.inr (Or.inr (Or.inr ⟨⟨result, rfl⟩, rfl⟩)))

/-! ## Interleaved registrations -/

/-- Calls on one endpoint. -/
abbrev Registry := Interleaving RpcServiceEndpoint RegistrationCall

namespace RegistrationCall

variable {call : RegistrationCall} {endpoint : RpcServiceEndpoint}

theorem act_registration (call : RegistrationCall) (endpoint : RpcServiceEndpoint) :
    (call.act endpoint).1.registration = call.registration := by
  rcases call.act_cases endpoint with ⟨_, _, _, acted⟩ | ⟨_, _, acted⟩ | ⟨_, _, _, acted⟩ |
    ⟨_, _, acted, _⟩ | ⟨_, acted⟩
  all_goals rw [acted]

/-- A step leaves the endpoint as it is, or fills a vacant entry and succeeds. -/
theorem act_endpoint (call : RegistrationCall) (endpoint : RpcServiceEndpoint) :
    (call.act endpoint).2 = endpoint ∨
      call.phase = .checked ∧
      (call.act endpoint).1 = ⟨call.registration, .returned (.ok ())⟩ ∧
      ∀ kind methodId, (call.act endpoint).2.Has kind methodId ↔
        kind = call.registration.kind ∧ call.registration.methodId = methodId ∨
          endpoint.Has kind methodId := by
  rcases call.act_cases endpoint with ⟨_, _, _, acted⟩ | ⟨_, _, acted⟩ | ⟨_, _, _, acted⟩ |
    ⟨checked, _, acted, contents⟩ | ⟨_, acted⟩
  · exact Or.inl (congrArg Prod.snd acted)
  · exact Or.inl (congrArg Prod.snd acted)
  · exact Or.inl (congrArg Prod.snd acted)
  · exact Or.inr ⟨checked, acted, contents⟩
  · exact Or.inl (congrArg Prod.snd acted)

/-- Nothing is ever removed. -/
theorem has_act {kind : HandlerKind} {methodId : UInt64} (call : RegistrationCall)
    (present : endpoint.Has kind methodId) : (call.act endpoint).2.Has kind methodId := by
  rcases call.act_endpoint endpoint with unchanged | ⟨_, _, contents⟩
  · rwa [unchanged]
  · exact (contents kind methodId).mpr (Or.inr present)

/-- What the number of its turns and the maps say about a call. -/
def Standing (call : RegistrationCall) (turns : Nat) (endpoint : RpcServiceEndpoint) : Prop :=
  match call.phase with
  | .called => turns = 0
  | .checked => turns = 1
  | .returned (.ok ()) =>
      2 ≤ turns ∧ endpoint.Has call.registration.kind call.registration.methodId
  | .returned (.error error) =>
      1 ≤ turns ∧ (∃ message, error = .handler message) ∧
        ∃ kind, endpoint.Has kind call.registration.methodId

/-- A turn of another call changes nothing for this one. -/
theorem Standing.mono {turns : Nat} {next : RpcServiceEndpoint}
    (standing : call.Standing turns endpoint)
    (grows : ∀ kind methodId, endpoint.Has kind methodId → next.Has kind methodId) :
    call.Standing turns next := by
  unfold Standing at standing ⊢
  split at standing
  · exact standing
  · exact standing
  · exact ⟨standing.1, grows _ _ standing.2⟩
  · obtain ⟨taken, text, kind, present⟩ := standing
    exact ⟨taken, text, kind, grows _ _ present⟩

theorem Standing.act {turns : Nat} (standing : call.Standing turns endpoint) :
    (call.act endpoint).1.Standing (turns + 1) (call.act endpoint).2 := by
  obtain ⟨registration, phase⟩ := call
  rcases act_cases ⟨registration, phase⟩ endpoint with
    ⟨called, present, message, acted⟩ | ⟨called, _, acted⟩ | ⟨checked, present, message, acted⟩ |
    ⟨checked, _, acted, contents⟩ | ⟨⟨result, returned⟩, acted⟩
  · rw [acted]
    exact ⟨Nat.le_add_left _ _, ⟨message, rfl⟩, _, present⟩
  · rw [acted]
    obtain rfl : phase = .called := called
    exact congrArg (· + 1) standing
  · rw [acted]
    exact ⟨Nat.le_add_left _ _, ⟨message, rfl⟩, _, present⟩
  · rw [acted]
    obtain rfl : phase = .checked := checked
    have once : turns = 1 := standing
    rw [once]
    exact ⟨le_rfl, (contents _ _).mpr (Or.inl ⟨rfl, rfl⟩)⟩
  · rw [acted]
    obtain rfl : phase = .returned result := returned
    cases result with
    | ok =>
        obtain ⟨taken, present⟩ := standing
        exact ⟨Nat.le_succ_of_le taken, present⟩
    | error error =>
        obtain ⟨taken, text, present⟩ := standing
        exact ⟨Nat.le_succ_of_le taken, text, present⟩

theorem act_returned {result : Except RpcServiceEndpointError Unit}
    (returned : call.phase = .returned result) (endpoint : RpcServiceEndpoint) :
    call.act endpoint = (call, endpoint) := by
  rw [act, returned]

end RegistrationCall

namespace Registry

variable {state : Registry} {turn index : Nat} {call : RegistrationCall} {kind : HandlerKind}
  {methodId : UInt64}

/-- What a call has returned. -/
def result (state : Registry) (index : Nat) : Option (Except RpcServiceEndpointError Unit) :=
  match state.processes[index]? with
  | some ⟨_, .returned result⟩ => some result
  | _ => none

theorem result_eq_some {returned : Except RpcServiceEndpointError Unit} :
    result state index = some returned ↔
      ∃ call, state.processes[index]? = some call ∧ call.phase = .returned returned := by
  unfold result
  cases found : state.processes[index]? with
  | none => simp
  | some call =>
      obtain ⟨registration, phase⟩ := call
      cases phase with
      | called => simp
      | checked => simp
      | returned other => simp

theorem has_step (present : state.shared.Has kind methodId) (turn : Nat) :
    (state.step RegistrationCall.act turn).shared.Has kind methodId := by
  cases acting : state.processes[turn]? with
  | none => rwa [Interleaving.step_absent acting]
  | some call =>
      rw [Interleaving.step_shared acting]
      exact call.has_act present

theorem returned_step {result : Except RpcServiceEndpointError Unit}
    (found : state.processes[index]? = some call) (returned : call.phase = .returned result)
    (turn : Nat) : (state.step RegistrationCall.act turn).processes[index]? = some call := by
  by_cases own : turn = index
  · rw [own, Interleaving.step_own found, RegistrationCall.act_returned returned]
  · rw [Interleaving.step_other own, found]

/-- A call that has succeeded had done so before, or has just found its entry vacant. -/
theorem succeeded_step (succeeded : (state.step RegistrationCall.act turn).processes[index]? =
      some call) (returned : call.phase = .returned (.ok ())) :
    state.processes[index]? = some call ∨
      index = turn ∧ ¬ state.shared.Has call.registration.kind call.registration.methodId := by
  by_cases own : turn = index
  · cases acting : state.processes[turn]? with
    | none =>
        rw [Interleaving.step_absent acting] at succeeded
        exact Or.inl succeeded
    | some before =>
        rw [← own, Interleaving.step_own acting] at succeeded
        have after := Option.some.inj succeeded
        rcases before.act_cases state.shared with ⟨_, _, _, acted⟩ | ⟨_, _, acted⟩ |
          ⟨_, _, _, acted⟩ | ⟨_, vacant, acted, _⟩ | ⟨_, acted⟩
        · rw [← after, acted] at returned
          exact nomatch RegistrationPhase.returned.inj returned
        · rw [← after, acted] at returned
          contradiction
        · rw [← after, acted] at returned
          exact nomatch RegistrationPhase.returned.inj returned
        · rw [← after, acted]
          exact Or.inr ⟨own.symm, vacant⟩
        · rw [← after, acted, ← own]
          exact Or.inl acting
  · rw [Interleaving.step_other own] at succeeded
    exact Or.inl succeeded

/-- What a schedule and the state it leads to have to do with each other. -/
structure Consistent (calls : List Registration) (schedule : List Nat) (state : Registry) :
    Prop where
  registered : ∀ i : Nat, state.processes[i]?.map RegistrationCall.registration = calls[i]?
  standing : ∀ (i : Nat) (call : RegistrationCall), state.processes[i]? = some call →
    call.Standing (schedule.count i) state.shared
  owned : ∀ kind methodId, state.shared.Has kind methodId →
    ∃ (i : Nat) (call : RegistrationCall), state.processes[i]? = some call ∧
      call.phase = .returned (.ok ()) ∧ call.registration.kind = kind ∧
      call.registration.methodId = methodId
  unique : ∀ (i j : Nat) (first second : RegistrationCall),
    state.processes[i]? = some first → state.processes[j]? = some second →
    first.phase = .returned (.ok ()) → second.phase = .returned (.ok ()) →
    first.registration.kind = second.registration.kind →
    first.registration.methodId = second.registration.methodId → i = j

theorem start_absent (encodeError : RpcServiceErrorPayload → List UInt8)
    (calls : List Registration) (kind : HandlerKind) (methodId : UInt64) :
    ¬ (registrations encodeError calls).shared.Has kind methodId := by
  cases kind <;> simp [registrations, RpcServiceEndpoint.Has]

theorem start_consistent (encodeError : RpcServiceErrorPayload → List UInt8)
    (calls : List Registration) : Consistent calls [] (registrations encodeError calls) := by
  have waiting : ∀ (i : Nat) (call : RegistrationCall),
      (registrations encodeError calls).processes[i]? = some call →
      call.phase = .called := by
    intro i call found
    rcases List.mem_map.mp (List.mem_of_getElem? found) with ⟨registration, _, rfl⟩
    rfl
  constructor
  · intro i
    simp [registrations, Function.comp_def]
  · intro i call found
    rw [RegistrationCall.Standing, waiting i call found]
    rfl
  · intro kind methodId present
    exact absurd present (start_absent encodeError calls kind methodId)
  · intro i j first second foundFirst _ succeeded
    rw [waiting i first foundFirst] at succeeded
    contradiction

/-- A call that has succeeded has had two turns, and the map of its kind holds its method id. -/
theorem Consistent.succeeded {calls : List Registration} {schedule : List Nat}
    (consistent : Consistent calls schedule state) (found : state.processes[index]? = some call)
    (succeeded : call.phase = .returned (.ok ())) :
    2 ≤ schedule.count index ∧
      state.shared.Has call.registration.kind call.registration.methodId := by
  have standing := consistent.standing index call found
  rw [RegistrationCall.Standing, succeeded] at standing
  exact standing

theorem Consistent.step {calls : List Registration} {schedule : List Nat}
    (consistent : Consistent calls schedule state) (turn : Nat) :
    Consistent calls (schedule ++ [turn]) (state.step RegistrationCall.act turn) := by
  have others : ∀ i, turn ≠ i → (schedule ++ [turn]).count i = schedule.count i := by
    intro i different
    rw [List.count_append, List.count_singleton, if_neg (by simpa using different), Nat.add_zero]
  constructor
  · intro i
    rw [← consistent.registered i]
    by_cases own : turn = i
    · cases acting : state.processes[turn]? with
      | none => rw [Interleaving.step_absent acting]
      | some call =>
          rw [← own, Interleaving.step_own acting, acting, Option.map_some, Option.map_some,
            RegistrationCall.act_registration]
    · rw [Interleaving.step_other own]
  · intro i call found
    by_cases own : turn = i
    · cases acting : state.processes[turn]? with
      | none =>
          rw [Interleaving.step_absent acting, ← own, acting] at found
          contradiction
      | some before =>
          rw [← own, Interleaving.step_own acting] at found
          rw [← Option.some.inj found, Interleaving.step_shared acting, ← own,
            List.count_append, List.count_singleton_self]
          exact (consistent.standing turn before acting).act
    · rw [Interleaving.step_other own] at found
      rw [others i own]
      exact (consistent.standing i call found).mono fun _ _ present => has_step present turn
  · intro kind methodId present
    have earlier : state.shared.Has kind methodId → ∃ (i : Nat) (call : RegistrationCall),
        (state.step RegistrationCall.act turn).processes[i]? = some call ∧
          call.phase = .returned (.ok ()) ∧ call.registration.kind = kind ∧
          call.registration.methodId = methodId := by
      intro presentBefore
      obtain ⟨i, call, found, returned, own⟩ := consistent.owned kind methodId presentBefore
      exact ⟨i, call, returned_step found returned turn, returned, own⟩
    cases acting : state.processes[turn]? with
    | none =>
        rw [Interleaving.step_absent acting] at present
        exact earlier present
    | some call =>
        rw [Interleaving.step_shared acting] at present
        rcases call.act_endpoint state.shared with unchanged | ⟨_, acted, contents⟩
        · rw [unchanged] at present
          exact earlier present
        · rcases (contents kind methodId).mp present with ⟨own, ownId⟩ | presentBefore
          · exact ⟨turn, _, Interleaving.step_own acting, by rw [acted], by rw [acted, own],
              by rw [acted, ownId]⟩
          · exact earlier presentBefore
  · intro i j first second foundFirst foundSecond firstOk secondOk sameKind sameId
    rcases succeeded_step foundFirst firstOk with oldFirst | ⟨isFirst, vacantFirst⟩
    · rcases succeeded_step foundSecond secondOk with oldSecond | ⟨isSecond, vacantSecond⟩
      · exact consistent.unique i j first second oldFirst oldSecond firstOk secondOk sameKind
          sameId
      · rw [← sameKind, ← sameId] at vacantSecond
        exact absurd (consistent.succeeded oldFirst firstOk).2 vacantSecond
    · rcases succeeded_step foundSecond secondOk with oldSecond | ⟨isSecond, vacantSecond⟩
      · rw [sameKind, sameId] at vacantFirst
        exact absurd (consistent.succeeded oldSecond secondOk).2 vacantFirst
      · rw [isFirst, isSecond]

/-- The state after a schedule. -/
def after (encodeError : RpcServiceErrorPayload → List UInt8) (calls : List Registration)
    (schedule : List Nat) : Registry :=
  (registrations encodeError calls).run RegistrationCall.act schedule

variable {encodeError : RpcServiceErrorPayload → List UInt8} {calls : List Registration}
  {schedule : List Nat}

theorem after_append (encodeError : RpcServiceErrorPayload → List UInt8)
    (calls : List Registration) (before later : List Nat) :
    after encodeError calls (before ++ later) =
      (after encodeError calls before).run RegistrationCall.act later :=
  Interleaving.run_append RegistrationCall.act _ before later

theorem after_consistent (encodeError : RpcServiceErrorPayload → List UInt8)
    (calls : List Registration) (schedule : List Nat) :
    Consistent calls schedule (after encodeError calls schedule) := by
  induction schedule using List.reverseRecOn with
  | nil => exact start_consistent encodeError calls
  | append_singleton schedule turn ih =>
      rw [after_append]
      exact ih.step turn

namespace Consistent

variable {registration : Registration}

theorem found (consistent : Consistent calls schedule state)
    (given : calls[index]? = some registration) :
    ∃ phase, state.processes[index]? = some ⟨registration, phase⟩ := by
  have registered := consistent.registered index
  rw [given] at registered
  obtain ⟨call, present, rfl⟩ := Option.map_eq_some_iff.mp registered
  exact ⟨call.phase, present⟩

theorem given (consistent : Consistent calls schedule state)
    (found : state.processes[index]? = some call) : calls[index]? = some call.registration := by
  rw [← consistent.registered index, found, Option.map_some]

theorem called_of_no_turn (consistent : Consistent calls schedule state)
    (given : calls[index]? = some registration) (never : schedule.count index = 0) :
    state.processes[index]? = some ⟨registration, .called⟩ := by
  obtain ⟨phase, present⟩ := consistent.found given
  have standing := consistent.standing index _ present
  rw [never] at standing
  cases phase with
  | called => exact present
  | checked => contradiction
  | returned result =>
      cases result with
      | ok => exact absurd standing.1 (by decide)
      | error => exact absurd standing.1 (by decide)

/-- After two turns of one of its calls a method id is registered. -/
theorem has_of_two_turns (consistent : Consistent calls schedule state)
    (given : calls[index]? = some registration) (twice : 2 ≤ schedule.count index) :
    (∃ returned, state.processes[index]? = some ⟨registration, .returned returned⟩) ∧
      ∃ kind, state.shared.Has kind registration.methodId := by
  obtain ⟨phase, present⟩ := consistent.found given
  have standing := consistent.standing index _ present
  cases phase with
  | called =>
      have none_ : schedule.count index = 0 := standing
      omega
  | checked =>
      have once : schedule.count index = 1 := standing
      omega
  | returned result =>
      refine ⟨⟨result, present⟩, ?_⟩
      cases result with
      | ok => exact ⟨_, standing.2⟩
      | error => exact standing.2.2

/-- As long as its method id is not registered, a call that has had one turn is between its
check and its entry. -/
theorem checked_of_one_turn (consistent : Consistent calls schedule state)
    (given : calls[index]? = some registration) (once : schedule.count index = 1)
    (absent : ∀ kind, ¬ state.shared.Has kind registration.methodId) :
    state.processes[index]? = some ⟨registration, .checked⟩ := by
  obtain ⟨phase, present⟩ := consistent.found given
  have standing := consistent.standing index _ present
  cases phase with
  | called =>
      have none_ : schedule.count index = 0 := standing
      omega
  | checked => exact present
  | returned result =>
      cases result with
      | ok => exact absurd standing.2 (absent _)
      | error =>
          obtain ⟨_, _, kind, registered⟩ := standing
          exact absurd registered (absent kind)

end Consistent

theorem has_run (present : state.shared.Has kind methodId) (schedule : List Nat) :
    (state.run RegistrationCall.act schedule).shared.Has kind methodId :=
  Interleaving.run_invariant (fun state : Registry => state.shared.Has kind methodId)
    (fun _ turn present => has_step present turn) present schedule

theorem returned_run {result : Except RpcServiceEndpointError Unit}
    (found : state.processes[index]? = some call) (returned : call.phase = .returned result)
    (schedule : List Nat) :
    (state.run RegistrationCall.act schedule).processes[index]? = some call :=
  Interleaving.run_invariant (fun state : Registry => state.processes[index]? = some call)
    (fun _ turn found => returned_step found returned turn) found schedule

/-- The other kind is registered, and the call has not made its check or was refused. -/
def ShutOut (registration : Registration) (index : Nat) (state : Registry) : Prop :=
  state.shared.Has registration.kind.other registration.methodId ∧
    (state.processes[index]? = some ⟨registration, .called⟩ ∨
      ∃ error, state.processes[index]? = some ⟨registration, .returned (.error error)⟩)

theorem ShutOut.step {registration : Registration} (shutOut : ShutOut registration index state)
    (turn : Nat) : ShutOut registration index (state.step RegistrationCall.act turn) := by
  obtain ⟨present, waiting | ⟨error, refused⟩⟩ := shutOut
  · refine ⟨has_step present turn, ?_⟩
    by_cases own : turn = index
    · rw [own, Interleaving.step_own waiting]
      rcases RegistrationCall.act_cases ⟨registration, .called⟩ state.shared with
        ⟨_, _, message, acted⟩ | ⟨_, absent, _⟩ | ⟨checked, _⟩ | ⟨checked, _⟩ | ⟨⟨_, returned⟩, _⟩
      · rw [acted]
        exact Or.inr ⟨_, rfl⟩
      · exact absurd present absent
      · contradiction
      · contradiction
      · contradiction
    · rw [Interleaving.step_other own]
      exact Or.inl waiting
  · exact ⟨has_step present turn, Or.inr ⟨error, returned_step refused rfl turn⟩⟩

/-- A call that starts when the other kind is registered does not succeed. -/
theorem not_succeeded_of_waiting {registration : Registration}
    (present : state.shared.Has registration.kind.other registration.methodId)
    (waiting : state.processes[index]? = some ⟨registration, .called⟩) (schedule : List Nat) :
    (state.run RegistrationCall.act schedule).processes[index]? ≠
      some ⟨registration, .returned (.ok ())⟩ := by
  intro succeeded
  have shutOut := Interleaving.run_invariant (ShutOut registration index)
    (fun _ turn shutOut => shutOut.step turn) ⟨present, Or.inl waiting⟩ schedule
  rcases shutOut.2 with called | ⟨error, refused⟩
  · rw [called] at succeeded
    simp at succeeded
  · rw [refused] at succeeded
    simp at succeeded

/-- The map of its kind holds the method id of a call that has had its second turn. -/
theorem has_of_entry {registration : Registration}
    (checked : state.processes[index]? = some ⟨registration, .checked⟩) {schedule : List Nat}
    (turned : index ∈ schedule) :
    (state.run RegistrationCall.act schedule).shared.Has registration.kind
      registration.methodId := by
  induction schedule generalizing state with
  | nil => contradiction
  | cons turn rest ih =>
      rw [Interleaving.run_cons]
      by_cases own : turn = index
      · apply has_run
        rw [own, Interleaving.step_shared checked]
        rcases RegistrationCall.act_cases ⟨registration, .checked⟩ state.shared with
          ⟨called, _⟩ | ⟨called, _⟩ | ⟨_, present, _, acted⟩ | ⟨_, _, _, contents⟩ |
          ⟨⟨_, returned⟩, _⟩
        · contradiction
        · contradiction
        · rw [acted]
          exact present
        · exact (contents _ _).mpr (Or.inl ⟨rfl, rfl⟩)
        · contradiction
      · apply ih
        · rw [Interleaving.step_other own, checked]
        · exact (List.mem_cons.mp turned).resolve_left (Ne.symm own)

/-- Registrations of one method id overlap: when the first of them has its second turn, one of the
other kind has had its first turn, and it will have its second. -/
def Overlaps (calls : List Registration) (schedule : List Nat) : Prop :=
  ∃ (before after : List Nat) (i j : Nat) (first second : Registration),
    schedule = before ++ i :: after ∧ calls[i]? = some first ∧ calls[j]? = some second ∧
    first.methodId = second.methodId ∧ first.kind ≠ second.kind ∧
    (∀ (k : Nat) (third : Registration), calls[k]? = some third →
      third.methodId = first.methodId → before.count k < 2) ∧
    before.count i = 1 ∧ j ∈ before ∧ 2 ≤ schedule.count j

/-- A method id that is in no map is entered in a turn of one of its calls that has made its
check. -/
theorem entered_step (absent : ∀ kind, ¬ state.shared.Has kind methodId)
    (present : (state.step RegistrationCall.act turn).shared.Has kind methodId) :
    ∃ registration, state.processes[turn]? = some ⟨registration, .checked⟩ ∧
      registration.kind = kind ∧ registration.methodId = methodId := by
  cases acting : state.processes[turn]? with
  | none =>
      rw [Interleaving.step_absent acting] at present
      exact absurd present (absent kind)
  | some call =>
      rw [Interleaving.step_shared acting] at present
      rcases call.act_endpoint state.shared with unchanged | ⟨checked, _, contents⟩
      · rw [unchanged] at present
        exact absurd present (absent kind)
      · rcases (contents kind methodId).mp present with ⟨own, ownId⟩ | presentBefore
        · refine ⟨call.registration, ?_, own.symm, ownId⟩
          rw [← checked]
        · exact absurd presentBefore (absent kind)

/-- A method id gets into both maps exactly if registrations of it overlap. -/
theorem has_both_iff_overlaps (encodeError : RpcServiceErrorPayload → List UInt8)
    (calls : List Registration) (schedule : List Nat) :
    (∃ methodId, ∀ kind, (after encodeError calls schedule).shared.Has kind methodId) ↔
      Overlaps calls schedule := by
  constructor
  · rintro ⟨methodId, both⟩
    have notYet : ¬ ∃ kind, (registrations encodeError calls).shared.Has kind methodId := by
      rintro ⟨kind, present⟩
      exact start_absent encodeError calls kind methodId present
    obtain ⟨before, i, later, rfl, earlier, kind, now⟩ := Interleaving.exists_first_turn
      (fun state : Registry => ∃ kind, state.shared.Has kind methodId) notYet
      ⟨.prebuffered, both .prebuffered⟩
    have absent := not_exists.mp earlier
    obtain ⟨first, checked, rfl, rfl⟩ := entered_step absent now
    have consistent := after_consistent encodeError calls before
    have final := after_consistent encodeError calls (before ++ i :: later)
    obtain ⟨j, ⟨second, phase⟩, found, succeeded, otherKind, sameId⟩ :=
      final.owned first.kind.other first.methodId (both first.kind.other)
    obtain rfl : phase = .returned (.ok ()) := succeeded
    have once : before.count i = 1 := consistent.standing i _ checked
    refine ⟨before, later, i, j, first, second, rfl, consistent.given checked, final.given found,
      sameId.symm, ?_, ?_, once, ?_, (final.succeeded found rfl).1⟩
    · rw [show second.kind = first.kind.other from otherKind]
      cases first.kind <;> decide
    · intro k third given sameMethod
      by_contra twice
      obtain ⟨_, other, present⟩ := consistent.has_of_two_turns given (Nat.le_of_not_lt twice)
      rw [sameMethod] at present
      exact absent other present
    · by_contra late
      have never : before.count j = 0 := List.count_eq_zero_of_not_mem late
      have waiting := consistent.called_of_no_turn (final.given found) never
      have different : i ≠ j := by
        rintro rfl
        omega
      rw [after_append, Interleaving.run_cons] at found
      refine not_succeeded_of_waiting ?_ ?_ later found
      · rw [show second.kind = first.kind.other from otherKind, HandlerKind.other_other,
          show second.methodId = first.methodId from sameId]
        exact now
      · rw [Interleaving.step_other different]
        exact waiting
  · rintro ⟨before, later, i, j, first, second, rfl, isFirst, isSecond, sameId, different, fresh,
      once, underWay, twice⟩
    have consistent := after_consistent encodeError calls before
    have absent : ∀ kind, ¬ (after encodeError calls before).shared.Has kind first.methodId := by
      intro kind present
      obtain ⟨k, call, found, succeeded, _, sameMethod⟩ := consistent.owned kind _ present
      have taken := (consistent.succeeded found succeeded).1
      have few := fresh k call.registration (consistent.given found) sameMethod
      omega
    have secondOnce : before.count j = 1 := by
      have taken := List.count_pos_iff.mpr underWay
      have few := fresh j second isSecond sameId.symm
      omega
    have firstChecked := consistent.checked_of_one_turn isFirst once absent
    rw [sameId] at absent
    have secondChecked := consistent.checked_of_one_turn isSecond secondOnce absent
    have secondTurn : j ∈ i :: later := by
      rw [List.count_append, secondOnce] at twice
      apply List.count_pos_iff.mp
      omega
    refine ⟨first.methodId, ?_⟩
    intro kind
    rw [after_append]
    by_cases isFirstKind : first.kind = kind
    · rw [← isFirstKind]
      exact has_of_entry firstChecked List.mem_cons_self
    · have isSecondKind : second.kind = kind := by
        rw [HandlerKind.eq_other different, HandlerKind.eq_other isFirstKind]
      rw [← isSecondKind, sameId]
      exact has_of_entry secondChecked secondTurn

/-- A method id has one kind of handler, registered by one call; any other registration of it is
refused and changes nothing. -/
structure OneHandler (encodeError : RpcServiceErrorPayload → List UInt8)
    (calls : List Registration) (schedule : List Nat) : Prop where
  apart : ∀ methodId,
    ¬ (methodId ∈ (after encodeError calls schedule).shared.prebufferedHandlers ∧
      methodId ∈ (after encodeError calls schedule).shared.streamHandlers)
  once : ∀ (i j : Nat) (first second : Registration), calls[i]? = some first →
    calls[j]? = some second → first.methodId = second.methodId →
    result (after encodeError calls schedule) i = some (.ok ()) →
    result (after encodeError calls schedule) j = some (.ok ()) → i = j
  refused : ∀ (i j : Nat) (first second : Registration), calls[i]? = some first →
    calls[j]? = some second → first.methodId = second.methodId → i ≠ j →
    result (after encodeError calls schedule) i = some (.ok ()) → 2 ≤ schedule.count j →
    ∃ message, result (after encodeError calls schedule) j = some (.error (.handler message))
  unchanged : ∀ (before later : List Nat) (i : Nat) (error : RpcServiceEndpointError),
    schedule = before ++ i :: later →
    result (after encodeError calls schedule) i = some (.error error) →
    (after encodeError calls (before ++ [i])).shared = (after encodeError calls before).shared

/-- The turns of a call that is refused change nothing. -/
theorem unchanged_of_refused {before later : List Nat} {error : RpcServiceEndpointError}
    (refused : result (after encodeError calls (before ++ index :: later)) index =
      some (.error error)) :
    (after encodeError calls (before ++ [index])).shared =
      (after encodeError calls before).shared := by
  obtain ⟨final, finalFound, finalPhase⟩ := result_eq_some.mp refused
  rw [after_append, Interleaving.run_cons] at finalFound
  rw [after_append, Interleaving.run_cons, Interleaving.run_nil]
  cases acting : (after encodeError calls before).processes[index]? with
  | none => rw [Interleaving.step_absent acting]
  | some call =>
      rw [Interleaving.step_shared acting]
      rcases call.act_endpoint (after encodeError calls before).shared with unchanged |
        ⟨_, acted, _⟩
      · exact unchanged
      · have entered : ((after encodeError calls before).step RegistrationCall.act
            index).processes[index]? = some ⟨call.registration, .returned (.ok ())⟩ := by
          rw [Interleaving.step_own acting, acted]
        have kept := returned_run entered rfl later
        rw [finalFound] at kept
        rw [Option.some.inj kept] at finalPhase
        exact nomatch RegistrationPhase.returned.inj finalPhase

/-- Each method id has one handler, in every interleaving in which no registrations of it
overlap, and in no other. -/
theorem one_handler_iff (encodeError : RpcServiceErrorPayload → List UInt8)
    (calls : List Registration) (schedule : List Nat) :
    OneHandler encodeError calls schedule ↔ ¬ Overlaps calls schedule := by
  rw [← has_both_iff_overlaps encodeError]
  have consistent := after_consistent encodeError calls schedule
  constructor
  · rintro oneHandler ⟨methodId, both⟩
    exact oneHandler.apart methodId ⟨both .prebuffered, both .stream⟩
  · intro apart
    have once : ∀ (i j : Nat) (first second : Registration), calls[i]? = some first →
        calls[j]? = some second → first.methodId = second.methodId →
        result (after encodeError calls schedule) i = some (.ok ()) →
        result (after encodeError calls schedule) j = some (.ok ()) → i = j := by
      intro i j first second isFirst isSecond sameId firstOk secondOk
      obtain ⟨firstCall, foundFirst, firstPhase⟩ := result_eq_some.mp firstOk
      obtain ⟨secondCall, foundSecond, secondPhase⟩ := result_eq_some.mp secondOk
      obtain rfl := Option.some.inj (isFirst.symm.trans (consistent.given foundFirst))
      obtain rfl := Option.some.inj (isSecond.symm.trans (consistent.given foundSecond))
      by_cases sameKind : firstCall.registration.kind = secondCall.registration.kind
      · exact consistent.unique i j firstCall secondCall foundFirst foundSecond firstPhase
          secondPhase sameKind sameId
      · refine absurd ⟨firstCall.registration.methodId, ?_⟩ apart
        intro kind
        by_cases isFirstKind : firstCall.registration.kind = kind
        · rw [← isFirstKind]
          exact (consistent.succeeded foundFirst firstPhase).2
        · rw [HandlerKind.eq_other isFirstKind, ← HandlerKind.eq_other sameKind, sameId]
          exact (consistent.succeeded foundSecond secondPhase).2
    refine ⟨?_, once, ?_, ?_⟩
    · rintro methodId ⟨prebuffered, stream⟩
      refine apart ⟨methodId, ?_⟩
      intro kind
      cases kind with
      | prebuffered => exact prebuffered
      | stream => exact stream
    · intro i j first second isFirst isSecond sameId different firstOk twice
      obtain ⟨⟨returned, found⟩, -⟩ := consistent.has_of_two_turns isSecond twice
      have secondResult := result_eq_some.mpr ⟨_, found, rfl⟩
      cases returned with
      | ok =>
          have same := once i j first second isFirst isSecond sameId firstOk secondResult
          exact absurd same different
      | error error =>
          obtain ⟨-, ⟨message, rfl⟩, -⟩ := consistent.standing j _ found
          exact ⟨message, secondResult⟩
    · rintro before later i error rfl refused
      exact unchanged_of_refused refused

/-- A prebuffered and a streaming handler for method 5 are registered at the same time: both calls
make their check, and both enter their handler. -/
theorem both_kinds_registered :
    let calls : List Registration := [.prebuffered 5 fun _ => .ok [], .stream 5 fun _ => []]
    let registry := after (fun _ => []) calls [0, 1, 0, 1]
    result registry 0 = some (.ok ()) ∧ result registry 1 = some (.ok ()) ∧
      5 ∈ registry.shared.prebufferedHandlers ∧ 5 ∈ registry.shared.streamHandlers := by
  decide

end Registry

end Muxio.Service
