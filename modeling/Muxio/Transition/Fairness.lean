import Mathlib.Order.WellFounded

/-!
# Progress under fair schedules

A schedule gives a system one input after the other, without end.  As long as the
system has not reached its goal there is a wish: a kind of input that would bring it
forward.  A wish stays until something has brought the system forward.  If inputs of
every kind come again and again, the goal is reached.
-/

namespace Muxio.Transition

universe u v w x

variable {σ : Type u} {ι : Type v} {ω : Type w} {μ : Type x}

/-- The state after the first inputs of a schedule. -/
def trace (step : σ → ι → σ) (start : σ) (schedule : Nat → ι) : Nat → σ
  | 0 => start
  | count + 1 => step (trace step start schedule count) (schedule count)

/-- Inputs of this kind come again and again. -/
def Recurs (schedule : Nat → ι) (kind : ι → Prop) : Prop :=
  ∀ now, ∃ later, now ≤ later ∧ kind (schedule later)

/-- A system that is brought forward by what it wishes for. -/
structure Progress [Preorder μ] (step : σ → ι → σ) (allowed : ι → Prop) (invariant : σ → Prop)
    (goal : σ → Prop) (wished : ω → σ → Prop) (granted : ω → ι → Prop) (rank : σ → μ) : Prop where
  preserves : ∀ {state input}, invariant state → allowed input → invariant (step state input)
  wishes : ∀ {state}, invariant state → ¬ goal state → ∃ wish, wished wish state
  /-- A step lowers the rank, or it grants no wish and the wish stays. -/
  forward : ∀ {state input wish}, invariant state → allowed input → wished wish state →
    rank (step state input) < rank state ∨
      rank (step state input) ≤ rank state ∧ ¬ granted wish input ∧ wished wish (step state input)

namespace Progress

variable [Preorder μ] {step : σ → ι → σ} {allowed : ι → Prop} {invariant : σ → Prop}
  {goal : σ → Prop} {wished : ω → σ → Prop} {granted : ω → ι → Prop} {rank : σ → μ}
  (progress : Progress step allowed invariant goal wished granted rank)
  {start : σ} {schedule : Nat → ι} (holds : invariant start) (allows : ∀ n, allowed (schedule n))

include progress holds allows

theorem invariant_trace (count : Nat) : invariant (trace step start schedule count) := by
  induction count with
  | zero => exact holds
  | succ count ih => exact progress.preserves ih (allows count)

/-- While a wish is not granted, the rank falls or the wish stays. -/
theorem walk {now : Nat} {wish : ω} (isWished : wished wish (trace step start schedule now))
    (distance : Nat) :
    (∃ later, rank (trace step start schedule later) < rank (trace step start schedule now)) ∨
      rank (trace step start schedule (now + distance)) ≤ rank (trace step start schedule now) ∧
        wished wish (trace step start schedule (now + distance)) := by
  induction distance with
  | zero => exact .inr ⟨le_refl _, isWished⟩
  | succ distance ih =>
      rcases ih with fallen | ⟨atMost, stillWished⟩
      · exact .inl fallen
      · have kept := progress.invariant_trace holds allows (now + distance)
        rcases progress.forward kept (allows _) stillWished with falls | ⟨same, -, stays⟩
        · exact .inl ⟨now + distance + 1, lt_of_lt_of_le falls atMost⟩
        · exact .inr ⟨le_trans same atMost, stays⟩

/-- The goal is reached if every wish is granted again and again. -/
theorem reaches [WellFoundedLT μ] (fair : ∀ wish, Recurs schedule (granted wish)) :
    ∃ count, goal (trace step start schedule count) := by
  suffices fromNow : ∀ value now, rank (trace step start schedule now) = value →
      ∃ count, goal (trace step start schedule count) from fromNow _ 0 rfl
  intro value
  induction value using WellFoundedLT.induction with
  | _ value ih =>
      intro now isRank
      by_cases reached : goal (trace step start schedule now)
      · exact ⟨now, reached⟩
      · rcases progress.wishes (progress.invariant_trace holds allows now) reached with
          ⟨wish, isWished⟩
        rcases fair wish now with ⟨later, notBefore, grants⟩
        rcases progress.walk holds allows isWished (later - now) with
          ⟨sooner, falls⟩ | ⟨atMost, stillWished⟩
        · exact ih _ (isRank ▸ falls) sooner rfl
        · rw [Nat.add_sub_cancel' notBefore] at atMost stillWished
          rcases progress.forward (progress.invariant_trace holds allows later) (allows later)
            stillWished with falls | ⟨-, ungranted, -⟩
          · exact ih _ (isRank ▸ lt_of_lt_of_le falls atMost) (later + 1) rfl
          · exact absurd grants ungranted

/-- A goal that no step can spoil is reached for good. -/
theorem reaches_for_good [WellFoundedLT μ] (fair : ∀ wish, Recurs schedule (granted wish))
    (stable : ∀ {state input}, invariant state → allowed input → goal state →
      goal (step state input)) :
    ∃ count, ∀ later, count ≤ later → goal (trace step start schedule later) := by
  rcases progress.reaches holds allows fair with ⟨count, reached⟩
  refine ⟨count, fun later notBefore => ?_⟩
  induction later, notBefore using Nat.le_induction with
  | base => exact reached
  | succ later _ ih =>
      exact stable (progress.invariant_trace holds allows later) (allows later) ih

end Progress

end Muxio.Transition
