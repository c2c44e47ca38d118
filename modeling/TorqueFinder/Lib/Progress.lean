import Mathlib.Logic.Function.Basic
import TorqueFinder.Lib.Transition

/-! Systems whose events use up a measure: their runs are short, and can be driven to an end. -/

namespace Transition

variable {σ ε : Type*} {step : σ → ε → Option σ} {invariant : σ → Prop} {start final : σ}
  {events : List ε}

/-- A run can be cut anywhere. -/
theorem exists_of_run_append {later : List ε}
    (ran : run step start (events ++ later) = some final) :
    ∃ middle, run step start events = some middle ∧ run step middle later = some final := by
  -- The first part is followed event by event, and the state it reaches is the cut.
  induction events generalizing start with
  | nil => exact ⟨start, rfl, ran⟩
  | cons event rest ih =>
    obtain ⟨next, moved, ran⟩ := Option.bind_eq_some_iff.mp ran
    obtain ⟨middle, first, second⟩ := ih ran
    refine ⟨middle, ?_, second⟩
    rw [run, moved, Option.bind_some, first]

/-- There are no more events of a kind in a run than they use up of a measure of their own. -/
theorem countP_add_measure_le {measure : σ → Nat} {kind : ε → Bool}
    (uses : ∀ state event next, step state event = some next →
      measure next + (kind event).toNat ≤ measure state)
    (ran : run step start events = some final) :
    events.countP kind + measure final ≤ measure start := by
  -- An event of another kind gives nothing back, and the rest starts with what is left.
  induction events generalizing start with
  | nil =>
    obtain rfl := Option.some.inj ran
    exact Nat.le_of_eq (Nat.zero_add _)
  | cons event rest ih =>
    obtain ⟨next, moved, ran⟩ := Option.bind_eq_some_iff.mp ran
    have used := uses start event next moved
    have fewer := ih ran
    cases counts : kind event with
    | true =>
      rw [counts, Bool.toNat_true] at used
      rw [List.countP_cons_of_pos counts]
      omega
    | false =>
      rw [List.countP_cons_of_neg (Bool.eq_false_iff.mp counts)]
      omega

/-- A task takes no more steps than it weighs, when each step makes its own task lighter. -/
theorem countP_le_weight {Task Phase : Type*} [DecidableEq Task] {phase : σ → Task → Phase}
    {task : ε → Task} {weight : Phase → Nat}
    (shorter : ∀ state event next, step state event = some next → ∃ stands,
      weight stands < weight (phase state (task event)) ∧
        phase next = Function.update (phase state) (task event) stands)
    (ran : run step start events = some final) (own : Task) :
    events.countP (fun event => task event = own) ≤ weight (phase start own) := by
  -- A step of the task uses up some of its weight, and a step of another leaves it alone.
  have uses : ∀ state event next, step state event = some next →
      weight (phase next own) + (decide (task event = own)).toNat ≤ weight (phase state own) := by
    intro state event next moved
    obtain ⟨stands, lighter, moves⟩ := shorter state event next moved
    rw [moves]
    by_cases same : task event = own
    · subst same
      rw [Function.update_self, decide_eq_true rfl]
      exact lighter
    · rw [Function.update_of_ne (Ne.symm same), decide_eq_false same]
      exact Nat.le_refl _
  have bounded := countP_add_measure_le uses ran
  omega

/-- Where some allowed event leads on until the goal is reached, a run of such events reaches it. -/
theorem exists_run_to_goal {measure : σ → Nat} {goal : σ → Prop} {allowed : ε → Prop}
    (uses : ∀ state event next, step state event = some next → measure next < measure state)
    (kept : ∀ state event next, invariant state → step state event = some next → invariant next)
    (progress : ∀ state, invariant state →
      goal state ∨ ∃ event next, allowed event ∧ step state event = some next)
    (holds : invariant start) :
    ∃ events final, run step start events = some final ∧ (∀ event ∈ events, allowed event) ∧
      invariant final ∧ goal final := by
  -- The induction is on what is left of the measure.
  induction left : measure start using Nat.strongRecOn generalizing start with
  | ind bound ih =>
    rcases progress start holds with reached | ⟨event, next, fair, moved⟩
    · exact ⟨[], start, rfl, List.forall_mem_nil _, holds, reached⟩
    · have fewer : measure next < bound := left ▸ uses start event next moved
      obtain ⟨events, final, ran, regular, holds, reached⟩ :=
        ih (measure next) fewer (kept start event next holds moved) rfl
      refine ⟨event :: events, final, ?_, List.forall_mem_cons.mpr ⟨fair, regular⟩, holds, reached⟩
      rw [run, moved, Option.bind_some, ran]

end Transition
