import Mathlib.Algebra.BigOperators.Group.Finset.Piecewise
import Mathlib.Algebra.Order.BigOperators.Group.Finset

/-! Quantities summed over the tasks of a system, and what the move of one task does to them. -/

namespace TaskSum

variable {Task Phase : Type*} [Fintype Task]

/-- A quantity that depends on where a task stands, summed over all tasks. -/
def total (weight : Phase → Nat) (phase : Task → Phase) : Nat := ∑ task, weight (phase task)

/-- How many tasks stand where a test holds. -/
def count (test : Phase → Bool) (phase : Task → Phase) : Nat :=
  total (fun stands => (test stands).toNat) phase

variable {weight : Phase → Nat} {test : Phase → Bool} {phase : Task → Phase}

/-- All tasks weigh nothing exactly when each of them does. -/
theorem total_eq_zero : total weight phase = 0 ↔ ∀ task, weight (phase task) = 0 := by
  rw [total, Finset.sum_eq_zero_iff]
  exact ⟨fun zero task => zero task (Finset.mem_univ task), fun zero task _ => zero task⟩

/-- A positive count has a task behind it. -/
theorem exists_of_count_pos (positive : 0 < count test phase) :
    ∃ task, test (phase task) = true := by
  -- If no task passed the test, all of them would count nothing.
  by_contra none
  push Not at none
  have zero : count test phase = 0 :=
    total_eq_zero.mpr fun task => by
      rw [Bool.toNat_eq_zero]
      exact Bool.eq_false_iff.mpr (none task)
  omega

variable [DecidableEq Task]

/-- A task that moves takes its old weight out of the sum and puts its new weight in. -/
theorem total_update (weight : Phase → Nat) (phase : Task → Phase) (task : Task) (next : Phase) :
    total weight (Function.update phase task next) + weight (phase task) =
      total weight phase + weight next := by
  -- Both sums share what the other tasks weigh.
  have moved : total weight (Function.update phase task next) =
      weight next + ∑ other ∈ Finset.univ \ {task}, weight (phase other) := by
    have same : (fun other => weight (Function.update phase task next other)) =
        Function.update (fun other => weight (phase other)) task (weight next) :=
      Function.comp_update weight phase task next
    rw [total, same, Finset.sum_update_of_mem (Finset.mem_univ task)]
  have before : total weight phase =
      weight (phase task) + ∑ other ∈ Finset.univ \ {task}, weight (phase other) := by
    rw [total, Finset.sum_eq_add_sum_sdiff_singleton_of_mem (Finset.mem_univ task)]
  rw [moved, before]
  omega

/-- A task that gets lighter makes the sum smaller. -/
theorem total_update_lt {task : Task} {next : Phase} (lighter : weight next < weight (phase task)) :
    total weight (Function.update phase task next) < total weight phase := by
  -- The other tasks weigh what they did.
  have moved := total_update weight phase task next
  omega

/-- What is free and what is held stays the same in all, when one task trades one for the other. -/
theorem free_add_count {free left capacity : Nat} {task : Task} {next : Phase}
    (balanced : free + count test phase = capacity)
    (traded : left + (test next).toNat = free + (test (phase task)).toNat) :
    left + count test (Function.update phase task next) = capacity := by
  -- What the task takes is what it no longer holds, or the other way round.
  have moved := total_update (fun stands => (test stands).toNat) phase task next
  unfold count at balanced ⊢
  omega

end TaskSum
