import Mathlib.Data.List.Basic

/-!
# Interleavings of atomic actions

Processes that share a state take turns in an order given by a schedule.  Each
turn is one atomic action of the process whose turn it is, on its own state and
on the shared one; a turn of a process that does not exist does nothing.
-/

namespace Muxio.Transition

universe u v

/-- A shared state with the processes that act on it. -/
structure Interleaving (σ : Type u) (π : Type v) where
  shared : σ
  processes : List π

namespace Interleaving

variable {σ : Type u} {π : Type v} (act : π → σ → π × σ)

/-- One turn. -/
def step (state : Interleaving σ π) (turn : Nat) : Interleaving σ π :=
  match state.processes[turn]? with
  | none => state
  | some process =>
      let acted := act process state.shared
      ⟨acted.2, state.processes.set turn acted.1⟩

def run (state : Interleaving σ π) (schedule : List Nat) : Interleaving σ π :=
  schedule.foldl (step act) state

@[simp]
theorem run_nil (state : Interleaving σ π) : state.run act [] = state :=
  rfl

theorem run_cons (state : Interleaving σ π) (turn : Nat) (rest : List Nat) :
    state.run act (turn :: rest) = (state.step act turn).run act rest :=
  rfl

theorem run_append (state : Interleaving σ π) (first second : List Nat) :
    state.run act (first ++ second) = (state.run act first).run act second :=
  List.foldl_append

variable {act} {state : Interleaving σ π} {process : π} {turn : Nat}

theorem step_absent (absent : state.processes[turn]? = none) : state.step act turn = state := by
  rw [step, absent]

theorem step_shared (present : state.processes[turn]? = some process) :
    (state.step act turn).shared = (act process state.shared).2 := by
  rw [step, present]

theorem step_own (present : state.processes[turn]? = some process) :
    (state.step act turn).processes[turn]? = some (act process state.shared).1 := by
  obtain ⟨inRange, _⟩ := List.getElem?_eq_some_iff.mp present
  rw [step, present]
  exact List.getElem?_set_self inRange

/-- A turn leaves the other processes alone. -/
theorem step_other {other : Nat} (different : turn ≠ other) :
    (state.step act turn).processes[other]? = state.processes[other]? := by
  cases present : state.processes[turn]? with
  | none => rw [step_absent present]
  | some process =>
      rw [step, present]
      exact List.getElem?_set_ne different

/-- What every turn preserves, a run preserves. -/
theorem run_invariant (invariant : Interleaving σ π → Prop)
    (preserved : ∀ state turn, invariant state → invariant (state.step act turn))
    (holds : invariant state) (schedule : List Nat) : invariant (state.run act schedule) := by
  induction schedule generalizing state with
  | nil => exact holds
  | cons turn rest ih => exact ih (preserved state turn holds)

/-- What comes to hold during a run comes to hold in one of its turns. -/
theorem exists_first_turn (reached : Interleaving σ π → Prop) (notYet : ¬ reached state)
    {schedule : List Nat} (holds : reached (state.run act schedule)) :
    ∃ before turn after, schedule = before ++ turn :: after ∧
      ¬ reached (state.run act before) ∧ reached ((state.run act before).step act turn) := by
  induction schedule generalizing state with
  | nil => exact absurd holds notYet
  | cons turn rest ih =>
      by_cases now : reached (state.step act turn)
      · exact ⟨[], turn, rest, rfl, notYet, now⟩
      · obtain ⟨before, next, after, rfl, earlier, later⟩ := ih now holds
        exact ⟨turn :: before, next, after, rfl, earlier, later⟩

end Interleaving

end Muxio.Transition
