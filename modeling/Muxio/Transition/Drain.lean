import Mathlib

/-!
# Loops that run until their body declines

A loop body either declines, which leaves the loop, or emits some outputs and
passes to a next state.  The executable loop is fuelled; as soon as a measure
decreases at every iteration the fuel is immaterial, and the loop is governed
by its two unfolding equations.

The second half concerns bodies that consume an input buffer.  When an
iteration that can run is not disturbed by bytes appended behind it, running
the loop after each of several deliveries is the same as running it once after
all of them.
-/

namespace Muxio.Transition

universe u v w

variable {σ : Type u} {ω : Type v} {α : Type w}

/-- One iteration of a loop: `none` leaves the loop, `some` carries the outputs
of the iteration and the state it leaves behind. -/
abbrev LoopBody (σ : Type u) (ω : Type v) := σ → Option (List ω × σ)

/-- Run at most `fuel` iterations, collecting the outputs in order. -/
def drain (body : LoopBody σ ω) : Nat → σ → List ω × σ
  | 0, state => ([], state)
  | fuel + 1, state =>
      match body state with
      | none => ([], state)
      | some (out, next) =>
          let rest := drain body fuel next
          (out ++ rest.1, rest.2)

/-- Every iteration that runs lowers the measure. -/
def Decreasing (body : LoopBody σ ω) (measure : σ → Nat) : Prop :=
  ∀ ⦃state out next⦄, body state = some (out, next) → measure next < measure state

theorem drain_of_none {body : LoopBody σ ω} {state : σ} (declines : body state = none)
    (fuel : Nat) : drain body fuel state = ([], state) := by
  cases fuel with
  | zero => rfl
  | succ fuel => simp [drain, declines]

theorem drain_succ_of_some {body : LoopBody σ ω} {state next : σ} {out : List ω}
    (runs : body state = some (out, next)) (fuel : Nat) :
    drain body (fuel + 1) state =
      (out ++ (drain body fuel next).1, (drain body fuel next).2) := by
  simp [drain, runs]

/-- Two amounts of fuel that both cover the measure give the same run. -/
theorem drain_fuel_irrelevant {body : LoopBody σ ω} {measure : σ → Nat}
    (decreasing : Decreasing body measure) {first second : Nat} {state : σ}
    (coversFirst : measure state ≤ first) (coversSecond : measure state ≤ second) :
    drain body first state = drain body second state := by
  induction first generalizing second state with
  | zero =>
      cases runs : body state with
      | none => rw [drain_of_none runs, drain_of_none runs]
      | some result =>
          rcases result with ⟨out, next⟩
          have lower := decreasing runs
          omega
  | succ first ih =>
      cases runs : body state with
      | none => rw [drain_of_none runs, drain_of_none runs]
      | some result =>
          rcases result with ⟨out, next⟩
          have lower := decreasing runs
          obtain ⟨second, rfl⟩ : ∃ m, second = m + 1 := ⟨second - 1, by omega⟩
          have nextFirst : measure next ≤ first := by omega
          have nextSecond : measure next ≤ second := by omega
          rw [drain_succ_of_some runs, drain_succ_of_some runs, ih nextFirst nextSecond]

/-- Run the loop to its end, with the measure as fuel. -/
def exhaust (body : LoopBody σ ω) (measure : σ → Nat) (state : σ) : List ω × σ :=
  drain body (measure state) state

theorem exhaust_of_none {body : LoopBody σ ω} (measure : σ → Nat) {state : σ}
    (declines : body state = none) : exhaust body measure state = ([], state) :=
  drain_of_none declines _

theorem exhaust_of_some {body : LoopBody σ ω} {measure : σ → Nat}
    (decreasing : Decreasing body measure) {state next : σ} {out : List ω}
    (runs : body state = some (out, next)) :
    exhaust body measure state =
      (out ++ (exhaust body measure next).1, (exhaust body measure next).2) := by
  have lower := decreasing runs
  obtain ⟨fuel, fuelEq⟩ : ∃ m, measure state = m + 1 := ⟨measure state - 1, by omega⟩
  have fuelCovers : measure next ≤ fuel := by omega
  have sameRun := drain_fuel_irrelevant decreasing fuelCovers (le_refl (measure next))
  rw [exhaust, fuelEq, drain_succ_of_some runs, sameRun]
  rfl

/-- Induction along the iterations of a terminating loop. -/
@[elab_as_elim]
theorem exhaust_induction {body : LoopBody σ ω} {measure : σ → Nat}
    (decreasing : Decreasing body measure) {motive : σ → Prop}
    (declined : ∀ state, body state = none → motive state)
    (iterated : ∀ state out next, body state = some (out, next) → motive next → motive state)
    (state : σ) : motive state := by
  induction h : measure state using Nat.strong_induction_on generalizing state with
  | _ bound ih =>
      cases runs : body state with
      | none => exact declined state runs
      | some result =>
          rcases result with ⟨out, next⟩
          have lower := decreasing runs
          exact iterated state out next runs (ih (measure next) (by omega) next rfl)

/-- A terminating loop stops in a state whose body declines. -/
theorem exhaust_declines {body : LoopBody σ ω} {measure : σ → Nat}
    (decreasing : Decreasing body measure) (state : σ) :
    body (exhaust body measure state).2 = none := by
  induction state using exhaust_induction decreasing with
  | declined state declines =>
      rw [exhaust_of_none measure declines]
      exact declines
  | iterated state out next runs ih =>
      rw [exhaust_of_some decreasing runs]
      exact ih

/-- What every iteration preserves holds after any number of them. -/
theorem drain_invariant {body : LoopBody σ ω} {invariant : σ → Prop}
    (kept : ∀ ⦃state out next⦄, body state = some (out, next) → invariant state → invariant next)
    (fuel : Nat) {state : σ} (start : invariant state) : invariant (drain body fuel state).2 := by
  induction fuel generalizing state with
  | zero => exact start
  | succ fuel ih =>
      cases runs : body state with
      | none =>
          rw [drain_of_none runs]
          exact start
      | some result =>
          rw [drain_succ_of_some runs]
          exact ih (kept runs start)

/-- What every iteration preserves holds at the end. -/
theorem exhaust_invariant {body : LoopBody σ ω} {invariant : σ → Prop}
    (kept : ∀ ⦃state out next⦄, body state = some (out, next) → invariant state → invariant next)
    (measure : σ → Nat) {state : σ} (start : invariant state) :
    invariant (exhaust body measure state).2 :=
  drain_invariant kept (measure state) start

/-- What holds of the outputs of every iteration holds of all outputs. -/
theorem exhaust_outputs {body : LoopBody σ ω} {holds : ω → Prop}
    (emits : ∀ ⦃state out next⦄, body state = some (out, next) → ∀ item ∈ out, holds item)
    (measure : σ → Nat) (state : σ) : ∀ item ∈ (exhaust body measure state).1, holds item := by
  unfold exhaust
  induction measure state generalizing state with
  | zero => exact fun item member => absurd member List.not_mem_nil
  | succ fuel ih =>
      cases runs : body state with
      | none =>
          rw [drain_of_none runs]
          exact fun item member => absurd member List.not_mem_nil
      | some result =>
          rw [drain_succ_of_some runs]
          intro item member
          rcases List.mem_append.mp member with first | later
          · exact emits runs item first
          · exact ih result.2 item later

/-- Two loops whose iterations keep them related and emit the same. -/
theorem exhaust_related {body : LoopBody σ ω} {measure : σ → Nat} {related : σ → σ → Prop}
    (sameMeasure : ∀ ⦃first second⦄, related first second → measure first = measure second)
    (stops : ∀ ⦃first second⦄, related first second → body first = none → body second = none)
    (steps : ∀ ⦃first second out firstNext⦄, related first second →
      body first = some (out, firstNext) →
      ∃ secondNext, body second = some (out, secondNext) ∧ related firstNext secondNext)
    {first second : σ} (start : related first second) :
    (exhaust body measure first).1 = (exhaust body measure second).1 ∧
      related (exhaust body measure first).2 (exhaust body measure second).2 := by
  unfold exhaust
  rw [← sameMeasure start]
  induction measure first generalizing first second with
  | zero => exact ⟨rfl, start⟩
  | succ fuel ih =>
      cases runs : body first with
      | none =>
          rw [drain_of_none runs, drain_of_none (stops start runs)]
          exact ⟨rfl, start⟩
      | some result =>
          obtain ⟨out, firstNext⟩ := result
          obtain ⟨secondNext, secondRuns, next⟩ := steps start runs
          rw [drain_succ_of_some runs, drain_succ_of_some secondRuns]
          exact ⟨congrArg (out ++ ·) (ih next).1, (ih next).2⟩

/-! ## Loops that need not end -/

/-- After finitely many iterations the body declines. -/
def Terminates (body : LoopBody σ ω) (state : σ) : Prop :=
  ∃ iterations, body (drain body iterations state).2 = none

/-- Every iteration that runs takes its state to a related one. -/
def Throughout (body : LoopBody σ ω) (relates : σ → σ → Prop) (state : σ) : Prop :=
  ∀ ⦃iterations out next⦄, body (drain body iterations state).2 = some (out, next) →
    relates (drain body iterations state).2 next

section Throughout

variable {body : LoopBody σ ω} {relates : σ → σ → Prop} {state next : σ} {out : List ω}

theorem Throughout.first (throughout : Throughout body relates state)
    (runs : body state = some (out, next)) : relates state next :=
  @throughout 0 out next runs

theorem Throughout.later (throughout : Throughout body relates state)
    (runs : body state = some (out, next)) : Throughout body relates next := by
  intro iterations laterOut later laterRuns
  have step := @throughout (iterations + 1) laterOut later
  rw [drain_succ_of_some runs] at step
  exact step laterRuns

theorem throughout_of_none (declines : body state = none) : Throughout body relates state := by
  intro iterations laterOut later laterRuns
  rw [drain_of_none declines, declines] at laterRuns
  contradiction

theorem throughout_of_some (runs : body state = some (out, next)) (first : relates state next)
    (later : Throughout body relates next) : Throughout body relates state := by
  intro iterations laterOut last laterRuns
  cases iterations with
  | zero =>
      rw [drain, runs] at laterRuns
      obtain ⟨rfl, rfl⟩ := Prod.mk.inj (Option.some.inj laterRuns)
      exact first
  | succ iterations =>
      rw [drain_succ_of_some runs] at laterRuns ⊢
      exact later laterRuns

/-- A loop that lowers a measure as long as it runs comes to an end. -/
theorem Throughout.terminates {measure : σ → Nat}
    (lower : ∀ ⦃before after⦄, relates before after → measure after < measure before)
    (throughout : Throughout body relates state) : Terminates body state := by
  induction bound : measure state using Nat.strong_induction_on generalizing state with
  | _ bound ih =>
      cases runs : body state with
      | none => exact ⟨0, runs⟩
      | some result =>
          obtain ⟨out, next⟩ := result
          have smaller := lower (throughout.first runs)
          obtain ⟨iterations, declines⟩ :=
            ih (measure next) (bound ▸ smaller) (throughout.later runs) rfl
          apply Exists.intro (iterations + 1)
          rw [drain_succ_of_some runs]
          exact declines

end Throughout

/-- Run a loop that may not end: `none` when the body still runs after `fuel` iterations. -/
def drainWithin (body : LoopBody σ ω) (fuel : Nat) (state : σ) : Option (List ω × σ) :=
  let run := drain body fuel state
  if (body run.2).isNone then some run else none

section Within

variable {body : LoopBody σ ω} {state : σ} {run : List ω × σ} {fuel : Nat}

theorem drainWithin_eq_some_iff :
    drainWithin body fuel state = some run ↔
      drain body fuel state = run ∧ body (drain body fuel state).2 = none := by
  simp [drainWithin, and_comm]

/-- With a decreasing measure the loop leaves, in the state that exhausts it. -/
theorem drainWithin_of_decreasing {measure : σ → Nat} (decreasing : Decreasing body measure)
    (covers : measure state ≤ fuel) :
    drainWithin body fuel state = some (exhaust body measure state) := by
  have sameRun : drain body fuel state = exhaust body measure state :=
    drain_fuel_irrelevant decreasing covers le_rfl
  rw [drainWithin_eq_some_iff, sameRun]
  exact ⟨rfl, exhaust_declines decreasing state⟩

/-- A body that never declines does not leave its loop. -/
theorem drainWithin_of_runs (runs : ∀ state, body state ≠ none) (fuel : Nat) (state : σ) :
    drainWithin body fuel state = none := by
  have stillRuns := runs (drain body fuel state).2
  simp [drainWithin, stillRuns]

theorem drainWithin_invariant {invariant : σ → Prop}
    (kept : ∀ ⦃state out next⦄, body state = some (out, next) → invariant state → invariant next)
    (start : invariant state) (left : drainWithin body fuel state = some run) :
    invariant run.2 := by
  rw [← (drainWithin_eq_some_iff.mp left).1]
  exact drain_invariant kept fuel start

end Within

/-! ## Loops fed in several deliveries -/

/-- An iteration that runs also runs, with the same outputs, when more input
waits behind it. -/
def Stable (body : LoopBody σ ω) (feed : σ → List α → σ) : Prop :=
  ∀ ⦃state out next⦄, body state = some (out, next) →
    ∀ data, body (feed state data) = some (out, feed next data)

/-- Deliver the chunks one after another, running the loop after each. -/
def readAll (body : LoopBody σ ω) (measure : σ → Nat) (feed : σ → List α → σ) :
    σ → List (List α) → List ω × σ
  | state, [] => ([], state)
  | state, chunk :: rest =>
      let first := exhaust body measure (feed state chunk)
      let second := readAll body measure feed first.2 rest
      (first.1 ++ second.1, second.2)

section Feeding

variable {body : LoopBody σ ω} {measure : σ → Nat} {feed : σ → List α → σ}

/-- Input appended before the loop starts may as well be appended after the
iterations that do not need it. -/
theorem exhaust_feed (decreasing : Decreasing body measure) (stable : Stable body feed)
    (state : σ) (data : List α) :
    exhaust body measure (feed state data) =
      ((exhaust body measure state).1 ++
          (exhaust body measure (feed (exhaust body measure state).2 data)).1,
        (exhaust body measure (feed (exhaust body measure state).2 data)).2) := by
  induction state using exhaust_induction decreasing with
  | declined state declines => simp [exhaust_of_none measure declines]
  | iterated state out next runs ih =>
      rw [exhaust_of_some decreasing (stable runs data), ih, exhaust_of_some decreasing runs]
      simp [List.append_assoc]

/-- Reading several chunks from a state that waits for input is reading their
concatenation at once. -/
theorem readAll_eq_exhaust (decreasing : Decreasing body measure) (stable : Stable body feed)
    (feed_nil : ∀ state, feed state [] = state)
    (feed_append : ∀ state first second,
      feed (feed state first) second = feed state (first ++ second))
    {state : σ} (waiting : body state = none) (chunks : List (List α)) :
    readAll body measure feed state chunks = exhaust body measure (feed state chunks.flatten) := by
  induction chunks generalizing state with
  | nil => simp [readAll, feed_nil, exhaust_of_none measure waiting]
  | cons chunk rest ih =>
      have waits := exhaust_declines decreasing (feed state chunk)
      rw [readAll, ih waits, List.flatten_cons, ← feed_append,
        exhaust_feed decreasing stable (feed state chunk)]

/-- The same from any state once there is a first chunk, since the loop runs
to its end before the second. -/
theorem readAll_of_ne_nil (decreasing : Decreasing body measure) (stable : Stable body feed)
    (feed_nil : ∀ state, feed state [] = state)
    (feed_append : ∀ state first second,
      feed (feed state first) second = feed state (first ++ second))
    (state : σ) {chunks : List (List α)} (nonempty : chunks ≠ []) :
    readAll body measure feed state chunks = exhaust body measure (feed state chunks.flatten) := by
  cases chunks with
  | nil => contradiction
  | cons chunk rest =>
      have waits := exhaust_declines decreasing (feed state chunk)
      rw [readAll, readAll_eq_exhaust decreasing stable feed_nil feed_append waits,
        List.flatten_cons, ← feed_append, exhaust_feed decreasing stable (feed state chunk)]

end Feeding

/-! ## Loops whose body may panic -/

/-- Run a loop whose body may panic; a panic is `none` and ends the run. -/
def drainChecked (body : σ → Option (Option (List ω × σ))) : Nat → σ → Option (List ω × σ)
  | 0, state => some ([], state)
  | fuel + 1, state => do
      match ← body state with
      | none => some ([], state)
      | some (out, next) =>
          let rest ← drainChecked body fuel next
          some (out ++ rest.1, rest.2)

/-- A body that never panics gives a loop that never panics. -/
theorem drainChecked_eq {checked : σ → Option (Option (List ω × σ))} {body : LoopBody σ ω}
    (safe : ∀ state, checked state = some (body state)) (fuel : Nat) (state : σ) :
    drainChecked checked fuel state = some (drain body fuel state) := by
  induction fuel generalizing state with
  | zero => rfl
  | succ fuel ih =>
      cases runs : body state with
      | none => simp [drainChecked, drain, safe, runs]
      | some result => simp [drainChecked, drain, safe, runs, ih]

end Muxio.Transition
