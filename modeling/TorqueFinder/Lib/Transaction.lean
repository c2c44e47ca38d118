import Mathlib.Data.Prod.Basic

/-! Sessions that work on a copy of the committed state, and steps an exception may interrupt. -/

namespace Transaction

universe u

variable {ε σ α β : Type u}

/-- What is committed, and the working copy that the statements of a session act on. -/
structure Session (σ : Type u) where
  committed : σ
  working : σ

namespace Session

/-- A new session works on a copy of what is committed. -/
def start (committed : σ) : Session σ := ⟨committed, committed⟩

/-- Run statements on the working copy, which keeps what they did even when they fail. -/
def perform (session : Session σ) (work : EStateM ε σ α) : Except ε α × Session σ :=
  match work session.working with
  | .ok value working => (.ok value, { session with working })
  -- A failure leaves what was done so far in the working copy, uncommitted.
  | .error failure working => (.error failure, { session with working })

/-- Make the working copy the committed state. -/
def commit (session : Session σ) : Session σ := { session with committed := session.working }

/-- Drop what was done since the last commit. -/
def rollback (session : Session σ) : Session σ := { session with working := session.committed }

/-- What a closed session leaves behind. -/
def close (session : Session σ) : σ := session.committed

/-- Statements never touch what is committed. -/
theorem committed_of_perform {session next : Session σ} {work : EStateM ε σ α}
    {result : Except ε α} (done : session.perform work = (result, next)) :
    next.committed = session.committed := by
  -- Work goes to the working copy only.
  unfold perform at done
  split at done <;> cases done <;> rfl

/-- Statements that succeed have made the working copy what it is. -/
theorem perform_eq_ok {session next : Session σ} {work : EStateM ε σ α} {value : α}
    (done : session.perform work = (.ok value, next)) :
    work session.working = .ok value next.working := by
  unfold perform at done
  split at done
  · rename_i ended
    cases done
    exact ended
  · cases done

end Session

/-- An exception at a step, with what it leaves of the working copy. -/
structure Interruption (ε σ : Type u) where
  failure : ε
  leaves : σ → σ

/-- A step that an exception may interrupt. -/
def interruptible (interruption : Option (Interruption ε σ)) (step : EStateM ε σ α) :
    EStateM ε σ α := fun state =>
  match interruption with
  | none => step state
  -- An interruption may leave anything of the uncommitted work.
  | some interruption => .error interruption.failure (interruption.leaves state)

/-- A step that reads nothing and writes nothing. -/
def compute (result : Except ε α) : EStateM ε σ α := fun state =>
  match result with
  | .ok value => .ok value state
  -- A computation touches no state, whether it fails or not.
  | .error failure => .error failure state

/-- A step that replaces the state when it succeeds. -/
def call (operation : σ → Except ε (σ × α)) : EStateM ε σ α := fun state =>
  match operation state with
  | .ok (next, value) => .ok value next
  -- An operation that fails has left the state as it was.
  | .error failure => .error failure state

/-- How a program ends, without the state a failure leaves. -/
def outcome : EStateM.Result ε σ α → Except ε (σ × α)
  | .ok value state => .ok (state, value)
  | .error failure _ => .error failure

section Laws

variable {state final : σ} {value result : α} {answer : β} {failure : ε}
  {interruption : Option (Interruption ε σ)} {first step : EStateM ε σ α}
  {second : α → EStateM ε σ β}

/-- A sequence of two steps succeeds when the first does and the second does from there. -/
theorem bind_eq_ok :
    (first >>= second) state = .ok answer final ↔
      ∃ value middle, first state = .ok value middle ∧ second value middle = .ok answer final := by
  -- A failed first step ends the sequence.
  simp only [bind, EStateM.bind]
  cases first state with
  | ok value middle =>
    constructor
    · intro done
      exact ⟨value, middle, rfl, done⟩
    · intro stepwise
      obtain ⟨_, _, ⟨⟩, done⟩ := stepwise
      exact done
  | error failure middle => simp

/-- A step without effect returns its value and leaves the state. -/
theorem pure_eq_ok :
    (pure value : EStateM ε σ α) state = .ok result final ↔ value = result ∧ state = final := by
  simp [pure, EStateM.pure]

/-- A program that first reads the state goes on from it. -/
theorem get_bind (second : σ → EStateM ε σ β) (state : σ) :
    (get >>= second) state = second state state := rfl

/-- A step succeeds when nothing interrupts it and it does on its own. -/
theorem interruptible_eq_ok :
    interruptible interruption step state = .ok value final ↔
      interruption = none ∧ step state = .ok value final := by
  -- A step that an exception ends has no result.
  cases interruption <;> simp [interruptible]

/-- A step that nothing interrupts is the step. -/
@[simp] theorem interruptible_none (step : EStateM ε σ α) : interruptible none step = step := rfl

/-- A computed value leaves the state. -/
theorem compute_eq_ok {computed : Except ε α} :
    compute computed state = .ok value final ↔ computed = .ok value ∧ state = final := by
  cases computed <;> simp [compute]

/-- A called operation succeeds as it does on its own. -/
theorem call_eq_ok {operation : σ → Except ε (σ × α)} :
    call operation state = .ok value final ↔ operation state = .ok (final, value) := by
  -- Success of the operation is success of the call, with the same state.
  unfold call
  cases operation state with
  | error failure => simp
  | ok done => simp [Prod.ext_iff, and_comm]

/-- The outcome of a sequence is the outcome of its second step after its first. -/
theorem outcome_bind (first : EStateM ε σ α) (second : α → EStateM ε σ β) (state : σ) :
    outcome ((first >>= second) state) =
      outcome (first state) >>= fun reached => outcome (second reached.2 reached.1) := by
  -- A failure of the first program is the outcome of both.
  simp only [bind, EStateM.bind]
  cases first state <;> rfl

/-- The outcome of a called operation is its own. -/
theorem outcome_call (operation : σ → Except ε (σ × α)) (state : σ) :
    outcome (call operation state) = operation state := by
  unfold call
  cases operation state <;> rfl

/-- The outcome of a computed value is that value beside the state. -/
theorem outcome_compute (computed : Except ε α) (state : σ) :
    outcome (compute computed state) = computed >>= fun value => .ok (state, value) := by
  cases computed <;> rfl

end Laws

end Transaction
