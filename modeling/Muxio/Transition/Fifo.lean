import Mathlib.Data.List.Basic

/-!
# Queues that drop what does not fit

A queue between a sender and a receiver, in order and possibly with a bound on the
items it holds.  A send that finds the queue full loses its item.  Over any
interleaving of sends and receives a bounded queue hands on what an unbounded one
does exactly when no send finds it full, and that depends only on how the sends and
receives alternate.
-/

namespace Muxio.Transition.Fifo

universe u

inductive Op (α : Type u) where
  | push (item : α)
  | pop
  deriving DecidableEq, Repr

variable {α : Type u}

def fits : Option Nat → Nat → Bool
  | some capacity, held => held < capacity
  | none, _ => true

/-- Append an item unless the queue is full. -/
def push (capacity : Option Nat) (queue : List α) (item : α) : List α :=
  if fits capacity queue.length then queue ++ [item] else queue

/-- The items received during a run, and those that are left for later. -/
def output (capacity : Option Nat) : List α → List (Op α) → List α
  | queue, [] => queue
  | queue, .push item :: rest => output capacity (push capacity queue item) rest
  | queue, .pop :: rest => queue.take 1 ++ output capacity queue.tail rest

/-- The items sent. -/
def pushes : List (Op α) → List α
  | [] => []
  | .push item :: rest => item :: pushes rest
  | .pop :: rest => pushes rest

/-- Every send finds fewer than `capacity` items waiting, with `backlog` of them to
start with. -/
def Paced (capacity : Nat) : Nat → List (Op α) → Prop
  | _, [] => True
  | backlog, .push _ :: rest => backlog < capacity ∧ Paced capacity (backlog + 1) rest
  | backlog, .pop :: rest => Paced capacity (backlog - 1) rest

instance decidablePaced (capacity : Nat) :
    ∀ (backlog : Nat) (ops : List (Op α)), Decidable (Paced capacity backlog ops)
  | _, [] => isTrue trivial
  | backlog, .push _ :: rest =>
      have := decidablePaced capacity (backlog + 1) rest
      inferInstanceAs (Decidable (backlog < capacity ∧ Paced capacity (backlog + 1) rest))
  | backlog, .pop :: rest => decidablePaced capacity (backlog - 1) rest

theorem push_fits {capacity : Option Nat} {queue : List α} (item : α)
    (room : fits capacity queue.length = true) : push capacity queue item = queue ++ [item] :=
  if_pos room

theorem push_full {capacity : Option Nat} {queue : List α} (item : α)
    (full : fits capacity queue.length = false) : push capacity queue item = queue := by
  rw [push, full]
  rfl

/-- An unbounded queue hands on everything in order. -/
theorem output_unbounded (queue : List α) (ops : List (Op α)) :
    output none queue ops = queue ++ pushes ops := by
  induction ops generalizing queue with
  | nil => rw [output, pushes, List.append_nil]
  | cons op rest ih =>
      cases op with
      | push item => rw [output, push_fits item rfl, ih, pushes, List.append_assoc]; rfl
      | pop => cases queue <;> simp [output, pushes, ih]

/-- Few enough sends always find room. -/
theorem paced_of_length_le {capacity backlog : Nat} {ops : List (Op α)}
    (few : backlog + (pushes ops).length ≤ capacity) : Paced capacity backlog ops := by
  induction ops generalizing backlog with
  | nil => trivial
  | cons op rest ih =>
      cases op with
      | push item =>
          rw [pushes, List.length_cons] at few
          exact ⟨by omega, ih (by omega)⟩
      | pop =>
          rw [pushes] at few
          exact ih (by omega)

/-- No queue hands on more than it was given. -/
theorem length_output_le (capacity : Option Nat) (queue : List α) (ops : List (Op α)) :
    (output capacity queue ops).length ≤ queue.length + (pushes ops).length := by
  induction ops generalizing queue with
  | nil => exact Nat.le_refl _
  | cons op rest ih =>
      cases op with
      | push item =>
          rw [output, pushes, List.length_cons]
          have bound := ih (push capacity queue item)
          cases room : fits capacity queue.length with
          | true =>
              rw [push_fits item room] at bound ⊢
              rw [List.length_append, List.length_singleton] at bound
              omega
          | false =>
              rw [push_full item room] at bound ⊢
              omega
      | pop =>
          have bound := ih queue.tail
          cases queue with
          | nil => simpa [output, pushes] using bound
          | cons first later =>
              simp only [output, pushes, List.take_succ_cons, List.take_zero, List.tail_cons,
                List.singleton_append, List.length_cons] at bound ⊢
              omega

/-- A bounded queue loses nothing exactly when the receiver keeps pace. -/
theorem output_bounded_eq_iff (capacity : Nat) (queue : List α) (ops : List (Op α)) :
    output (some capacity) queue ops = queue ++ pushes ops ↔ Paced capacity queue.length ops := by
  induction ops generalizing queue with
  | nil => simp [output, pushes, Paced]
  | cons op rest ih =>
      cases op with
      | push item =>
          rw [output, pushes, Paced]
          by_cases room : queue.length < capacity
          · have finds : fits (some capacity) queue.length = true := decide_eq_true room
            rw [push_fits item finds]
            have step := ih (queue ++ [item])
            rw [List.length_append, List.length_singleton, List.append_assoc,
              List.singleton_append] at step
            rw [step, and_iff_right room]
          · have finds : fits (some capacity) queue.length = false := decide_eq_false room
            rw [push_full item finds]
            constructor
            · intro same
              have shorter := length_output_le (some capacity) queue rest
              rw [same, List.length_append, List.length_cons] at shorter
              omega
            · rintro ⟨fewer, -⟩
              exact absurd fewer room
      | pop =>
          cases queue with
          | nil => exact ih []
          | cons first later =>
              simp only [output, pushes, Paced, List.take_succ_cons, List.take_zero,
                List.tail_cons, List.cons_append, List.nil_append, List.cons.injEq, true_and,
                List.length_cons, Nat.add_sub_cancel]
              exact ih later

end Muxio.Transition.Fifo
