import Mathlib.Data.Option.Basic

/-! Systems that react to events, their runs, and what a run keeps under a condition. -/

namespace Transition

variable {σ ε : Type*}

/-- The state after some events, if each is possible when its turn comes. -/
def run (step : σ → ε → Option σ) : σ → List ε → Option σ
  | state, [] => some state
  -- rest :: An event that is not possible ends the run without a state.
  | state, event :: rest => (step state event).bind fun next => run step next rest

/-- Every event meets a condition on the state it finds. -/
def Meets (step : σ → ε → Option σ) (condition : σ → ε → Prop) : σ → List ε → Prop
  | _, [] => True
  | state, event :: rest =>
    -- An event that is not possible asks nothing of the rest.
    condition state event ∧ ∀ next ∈ step state event, Meets step condition next rest

/-- A decidable condition can be checked along a run. -/
def decidableMeets (step : σ → ε → Option σ) (condition : σ → ε → Prop)
    [∀ state event, Decidable (condition state event)] :
    ∀ (events : List ε) (state : σ), Decidable (Meets step condition state events)
  | [], _ => inferInstanceAs (Decidable True)
  | event :: rest, state =>
    have : ∀ next, Decidable (Meets step condition next rest) := decidableMeets step condition rest
    inferInstanceAs (Decidable (condition state event ∧
      ∀ next ∈ step state event, Meets step condition next rest))

/-- The check along a run is found by instance search. -/
instance (step : σ → ε → Option σ) (condition : σ → ε → Prop)
    [∀ state event, Decidable (condition state event)] (state : σ) (events : List ε) :
    Decidable (Meets step condition state events) := decidableMeets step condition events state

variable {step : σ → ε → Option σ} {condition : σ → ε → Prop} {invariant : σ → Prop}
  {start final : σ} {events : List ε}

/-- A run goes on from where its first events lead. -/
theorem run_append {middle : σ} {later : List ε} (ran : run step start events = some middle) :
    run step start (events ++ later) = run step middle later := by
  -- The first part of the run is walked through event by event.
  induction events generalizing start with
  | nil => rw [← Option.some.inj ran, List.nil_append]
  | cons event rest ih =>
    obtain ⟨next, moved, ran⟩ := Option.bind_eq_some_iff.mp ran
    rw [List.cons_append, run, moved, Option.bind_some, ih ran]

/-- What every event that meets the condition keeps, a run of such events keeps. -/
theorem invariant_of_run
    (kept : ∀ state event next, invariant state → condition state event →
      step state event = some next → invariant next)
    (holds : invariant start) (meets : Meets step condition start events)
    (ran : run step start events = some final) : invariant final := by
  -- The first event keeps the invariant, and the rest of the run starts from there.
  induction events generalizing start with
  | nil => exact Option.some.inj ran ▸ holds
  | cons event rest ih =>
    obtain ⟨next, moved, ran⟩ := Option.bind_eq_some_iff.mp ran
    exact ih (kept start event next holds meets.1 moved) (meets.2 next moved) ran

/-- What holds at the start, and is kept by every event, holds of a whole run and its end. -/
theorem explained_of_run {explained : List ε → σ → Prop}
    (kept : ∀ past state event next, explained past state → step state event = some next →
      explained (past ++ [event]) next)
    {past : List ε} (holds : explained past start) (ran : run step start events = some final) :
    explained (past ++ events) final := by
  -- The first event joins the past, and the rest of the run starts from there.
  induction events generalizing start past with
  | nil =>
    rw [List.append_nil]
    exact Option.some.inj ran ▸ holds
  | cons event rest ih =>
    obtain ⟨next, moved, ran⟩ := Option.bind_eq_some_iff.mp ran
    have later := ih (kept past start event next holds moved) ran
    rwa [List.append_assoc, List.singleton_append] at later

/-- What holds at the start, and is kept by every event, holds at the end of a run. -/
theorem kept_of_run
    (kept : ∀ state event next, invariant state → step state event = some next → invariant next)
    (holds : invariant start) (ran : run step start events = some final) : invariant final := by
  -- The first event keeps the invariant, and the rest of the run starts from there.
  induction events generalizing start with
  | nil => exact Option.some.inj ran ▸ holds
  | cons event rest ih =>
    obtain ⟨next, moved, ran⟩ := Option.bind_eq_some_iff.mp ran
    exact ih (kept start event next holds moved) ran

end Transition
