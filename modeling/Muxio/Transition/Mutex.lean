import Muxio.Transition.Interleaving

/-!
# Critical sections

Processes of an interleaving share a lock.  A process that finds it taken waits; one
that takes it is inside its critical section until it gives the lock back.  Whatever the
schedule, at most one process is inside.
-/

namespace Muxio.Transition.Interleaving

universe u v

variable {σ : Type u} {π : Type v} {act : π → σ → π × σ} {locked : σ → Bool} {inside : π → Bool}

/-- How the processes use the lock. -/
structure Guarded (act : π → σ → π × σ) (locked : σ → Bool) (inside : π → Bool) : Prop where
  waits : ∀ process shared, inside process = false → locked shared = true →
    inside (act process shared).1 = false ∧ locked (act process shared).2 = true
  holds : ∀ process shared, inside process = locked shared →
    locked (act process shared).2 = inside (act process shared).1

/-- At most one process is inside, and then the lock is taken. -/
structure Exclusive (locked : σ → Bool) (inside : π → Bool) (state : Interleaving σ π) :
    Prop where
  taken : ∀ (turn : Nat) (process : π), state.processes[turn]? = some process →
    inside process = true → locked state.shared = true
  alone : ∀ (first second : Nat) (process other : π),
    state.processes[first]? = some process → state.processes[second]? = some other →
    inside process = true → inside other = true → first = second

namespace Exclusive

variable {state : Interleaving σ π} {turn : Nat} {process : π}

/-- The others are outside while one is inside. -/
theorem outside (exclusive : Exclusive locked inside state)
    (present : state.processes[turn]? = some process) (isInside : inside process = true)
    {other : Nat} (different : turn ≠ other) {process' : π}
    (presentOther : state.processes[other]? = some process') : inside process' = false := by
  cases insideOther : inside process' with
  | false => rfl
  | true =>
      exact absurd (exclusive.alone turn other process process' present presentOther isInside
        insideOther) different

theorem step (guarded : Guarded act locked inside) (exclusive : Exclusive locked inside state)
    (turn : Nat) : Exclusive locked inside (state.step act turn) := by
  cases present : state.processes[turn]? with
  | none =>
      rw [step_absent present]
      exact exclusive
  | some process =>
      have shared : (state.step act turn).shared = (act process state.shared).2 :=
        step_shared present
      have own : (state.step act turn).processes[turn]? = some (act process state.shared).1 :=
        step_own present
      have decided : (inside process = false ∧ locked state.shared = true) ∨
          inside process = locked state.shared := by
        cases isInside : inside process with
        | true => exact .inr (exclusive.taken turn process present isInside).symm
        | false =>
            cases locked state.shared with
            | true => exact .inl ⟨rfl, rfl⟩
            | false => exact .inr rfl
      have after : ∀ (first : Nat) (other : π),
          (state.step act turn).processes[first]? = some other → inside other = true →
            (first = turn ∧ other = (act process state.shared).1) ∨
              (first ≠ turn ∧ state.processes[first]? = some other) := by
        intro first other found _
        by_cases same : first = turn
        · subst same
          rw [own, Option.some.injEq] at found
          exact .inl ⟨rfl, found.symm⟩
        · rw [step_other fun equal => same equal.symm] at found
          exact .inr ⟨same, found⟩
      rcases decided with ⟨isOutside, taken⟩ | agrees
      · rcases guarded.waits process state.shared isOutside taken with ⟨stays, stillTaken⟩
        constructor
        case taken =>
          intro _ _ _ _
          rw [shared]
          exact stillTaken
        case alone =>
          intro first second other third atFirst atSecond isInside isInside'
          rcases after first other atFirst isInside with ⟨-, rfl⟩ | ⟨-, before⟩
          · exact absurd (stays.symm.trans isInside) Bool.false_ne_true
          rcases after second third atSecond isInside' with ⟨-, rfl⟩ | ⟨-, before'⟩
          · exact absurd (stays.symm.trans isInside') Bool.false_ne_true
          exact exclusive.alone first second other third before before' isInside isInside'
      · have lockAfter := guarded.holds process state.shared agrees
        have others : ∀ (first : Nat) (other : π), first ≠ turn →
            state.processes[first]? = some other → inside other = false := by
          intro first other different found
          cases isInside : inside other with
          | false => rfl
          | true =>
              have taken := exclusive.taken first other found isInside
              exact absurd (exclusive.alone first turn other process found present isInside
                (agrees.trans taken)) different
        constructor
        case taken =>
          intro first other found isInside
          rcases after first other found isInside with ⟨-, rfl⟩ | ⟨different, before⟩
          · rw [shared, lockAfter]
            exact isInside
          · exact absurd ((others first other different before).symm.trans isInside)
              Bool.false_ne_true
        case alone =>
          intro first second other third atFirst atSecond isInside isInside'
          rcases after first other atFirst isInside with ⟨rfl, -⟩ | ⟨different, before⟩
          · rcases after second third atSecond isInside' with ⟨rfl, -⟩ | ⟨different, before⟩
            · rfl
            · exact absurd ((others second third different before).symm.trans isInside')
                Bool.false_ne_true
          · exact absurd ((others first other different before).symm.trans isInside)
              Bool.false_ne_true

/-- Nobody is inside when all processes start. -/
theorem of_outside (allOutside : ∀ process ∈ state.processes, inside process = false) :
    Exclusive locked inside state where
  taken _ process found isInside :=
    absurd ((allOutside process (List.mem_of_getElem? found)).symm.trans isInside)
      Bool.false_ne_true
  alone _ _ process _ found _ isInside _ :=
    absurd ((allOutside process (List.mem_of_getElem? found)).symm.trans isInside)
      Bool.false_ne_true

end Exclusive

end Muxio.Transition.Interleaving
