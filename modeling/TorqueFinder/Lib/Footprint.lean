import Mathlib.Order.Defs.Unbundled
import TorqueFinder.Lib.Simulation

/-! What a program may do to its state, whether it succeeds or fails. -/

namespace Footprint

open Transaction Simulation

universe u

variable {ε σ τ α β : Type u}

/-- The state a program ends in. -/
def final : EStateM.Result ε σ α → σ
  | .ok _ state => state
  | .error _ state => state

/-- A program only moves its state along a relation. -/
def Within (relation : σ → σ → Prop) (program : EStateM ε σ α) : Prop :=
  ∀ state, relation state (final (program state))

namespace Within

variable {relation : σ → σ → Prop}

section Preorder

variable [IsPreorder σ relation]

/-- A returned value leaves the state. -/
theorem pure (value : α) : Within relation (Pure.pure value : EStateM ε σ α) :=
  fun state => refl_of relation state

/-- A computed value leaves the state. -/
theorem compute (result : Except ε α) : Within relation (Transaction.compute result) := by
  intro state
  cases result <;> exact refl_of relation state

/-- A called operation moves the state as far as it does when it succeeds. -/
theorem call {operation : σ → Except ε (σ × α)}
    (moves : ∀ state next value, operation state = .ok (next, value) → relation state next) :
    Within relation (Transaction.call operation) := by
  -- Only an operation that succeeds leaves another state.
  intro state
  unfold Transaction.call
  split
  · exact moves state _ _ ‹_›
  · exact refl_of relation state

omit [IsPreorder σ relation] in
/-- A program on a part moves the state no further than replacing that part does. -/
theorem focus {part : Part σ τ}
    (replaces : ∀ state value, relation state (part.replace state value))
    (program : EStateM ε τ α) : Within relation (Simulation.focus part program) := by
  -- Whether the program succeeds or fails, only the part is replaced.
  intro state
  unfold Simulation.focus
  split <;> exact replaces state _

/-- Two steps together move the state as far as one after the other. -/
theorem bind {first : EStateM ε σ α} {second : α → EStateM ε σ β}
    (starts : Within relation first) (continues : ∀ value, Within relation (second value)) :
    Within relation (first >>= second) := by
  -- A failure of the first program ends the whole, and otherwise the second one goes on.
  intro state
  have start := starts state
  simp only [Bind.bind, EStateM.bind]
  cases reached : first state with
  | ok value middle =>
    rw [reached] at start
    exact trans_of relation start (continues value middle)
  | error failure middle =>
    rw [reached] at start
    exact start

/-- A computed value leaves the state to the step behind it. -/
theorem compute_bind {result : Except ε α} {second : α → EStateM ε σ β}
    (continues : ∀ value, result = .ok value → Within relation (second value)) :
    Within relation (Transaction.compute result >>= second) := by
  -- A computation leaves the state, so only what follows it can change something.
  intro state
  cases result with
  | ok value => exact continues value rfl state
  | error failure => exact refl_of relation state

end Preorder

end Within

end Footprint
