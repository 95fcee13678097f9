import Mathlib.Logic.Relation

/-!
# Refinement of runs

A system is driven by inputs, one step for each.  It refines an abstract system
along a map of its states if every step that it takes is matched by finitely many
abstract steps, or by none.  Steps are matched where an invariant holds and the
input is one that the environment may give there.
-/

namespace Muxio.Transition

universe u v w

variable {σ : Type u} {ι : Type v} {α : Type w}

/-- Every input of a run is allowed in the state in which it comes. -/
def Along (step : σ → ι → σ) (allowed : σ → ι → Prop) : σ → List ι → Prop
  | _, [] => True
  | state, input :: rest => allowed state input ∧ Along step allowed (step state input) rest

/-- The steps of a system keep the invariant and are steps of the abstract one. -/
structure Refines (step : σ → ι → σ) (allowed : σ → ι → Prop) (invariant : σ → Prop)
    (abstraction : σ → α) (next : α → α → Prop) : Prop where
  preserves : ∀ state input, invariant state → allowed state input →
    invariant (step state input)
  simulates : ∀ state input, invariant state → allowed state input →
    Relation.ReflTransGen next (abstraction state) (abstraction (step state input))

/-- Runs refine as steps do. -/
theorem Refines.run {step : σ → ι → σ} {allowed : σ → ι → Prop} {invariant : σ → Prop}
    {abstraction : σ → α} {next : α → α → Prop}
    (refines : Refines step allowed invariant abstraction next) {state : σ} {inputs : List ι}
    (holds : invariant state) (along : Along step allowed state inputs) :
    invariant (inputs.foldl step state) ∧
      Relation.ReflTransGen next (abstraction state)
        (abstraction (inputs.foldl step state)) := by
  induction inputs generalizing state with
  | nil => exact ⟨holds, .refl⟩
  | cons input rest ih =>
      rcases along with ⟨allowedHere, allowedLater⟩
      have next := refines.preserves state input holds allowedHere
      rcases ih next allowedLater with ⟨kept, later⟩
      exact ⟨kept, (refines.simulates state input holds allowedHere).trans later⟩

end Muxio.Transition
