import Mathlib.Data.List.Basic

/-!
# Systems that fall apart by keys

A system is driven by inputs, one step for each.  To one key an input is a list of
local events, which may depend on the state in which it comes.  If the part of the
state that belongs to a key changes by its local events alone, then the system is a
product of local systems that know nothing of each other.
-/

namespace Muxio.Transition

universe u v w x y

variable {σ : Type u} {ι : Type v} {κ : Type w} {ε : Type x} {ℓ : Type y}

/-- What the inputs of a run are to one key. -/
def observedRun (step : σ → ι → σ) (observe : σ → ι → List ε) : σ → List ι → List ε
  | _, [] => []
  | state, input :: rest =>
      observe state input ++ observedRun step observe (step state input) rest

/-- Every step keeps the invariant and acts on the part of a key as its local events
do. -/
structure Separates (step : σ → ι → σ) (invariant : σ → Prop) (observe : κ → σ → ι → List ε)
    (part : κ → σ → ℓ) (advance : κ → ℓ → ε → ℓ) : Prop where
  preserves : ∀ state input, invariant state → invariant (step state input)
  separates : ∀ key state input, invariant state →
    part key (step state input) = (observe key state input).foldl (advance key) (part key state)

namespace Separates

variable {step : σ → ι → σ} {invariant : σ → Prop} {observe : κ → σ → ι → List ε}
  {part : κ → σ → ℓ} {advance : κ → ℓ → ε → ℓ}

theorem run_invariant (separates : Separates step invariant observe part advance) {state : σ}
    (holds : invariant state) (inputs : List ι) : invariant (inputs.foldl step state) := by
  induction inputs generalizing state with
  | nil => exact holds
  | cons input rest ih => exact ih (separates.preserves state input holds)

/-- Over a whole run, the part of a key is what the local run makes of it. -/
theorem run (separates : Separates step invariant observe part advance) {state : σ}
    (holds : invariant state) (inputs : List ι) (key : κ) :
    part key (inputs.foldl step state) =
      (observedRun step (observe key) state inputs).foldl (advance key) (part key state) := by
  induction inputs generalizing state with
  | nil => rfl
  | cons input rest ih =>
      rw [List.foldl_cons, ih (separates.preserves state input holds),
        separates.separates key state input holds, observedRun, List.foldl_append]

end Separates

end Muxio.Transition
