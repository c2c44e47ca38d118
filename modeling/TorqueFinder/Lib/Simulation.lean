import TorqueFinder.Lib.Transaction

/-! Programs on a part of a state, and programs that agree on what they do to that part. -/

namespace Simulation

open Transaction

universe u

variable {ε σ τ α β : Type u}

/-- A part of a state that is read and replaced on its own. -/
structure Part (σ τ : Type u) where
  read : σ → τ
  replace : σ → τ → σ
  read_replace : ∀ state value, read (replace state value) = value

/-- A program on a part, run on the whole state. -/
def focus (part : Part σ τ) (program : EStateM ε τ α) : EStateM ε σ α := fun state =>
  match program (part.read state) with
  -- A failure keeps what the program did to the part as well.
  | .ok value next => .ok value (part.replace state next)
  | .error failure next => .error failure (part.replace state next)

/-- A result of which only a part of the state is seen. -/
def seen (part : Part σ τ) : EStateM.Result ε σ α → EStateM.Result ε τ α
  | .ok value state => .ok value (part.read state)
  | .error failure state => .error failure (part.read state)

/-- One program does to a part of its state what another one does to that part alone. -/
def Simulates (part : Part σ τ) (whole : EStateM ε σ α) (program : EStateM ε τ α) : Prop :=
  ∀ state, seen part (whole state) = program (part.read state)

variable {part : Part σ τ}

namespace Simulates

/-- A program that succeeds makes the one it simulates succeed with the same value. -/
theorem eq_ok {whole : EStateM ε σ α} {program : EStateM ε τ α} {state next : σ} {value : α}
    (simulates : Simulates part whole program) (done : whole state = .ok value next) :
    program (part.read state) = .ok value (part.read next) := by
  -- Seen through the part, the whole ends as the program does.
  rw [← simulates state, done]
  rfl

/-- A returned value leaves both states. -/
theorem pure (value : α) :
    Simulates part (Pure.pure value : EStateM ε σ α) (Pure.pure value) := fun _ => rfl

/-- A computed value leaves both states. -/
theorem compute (result : Except ε α) :
    Simulates part (Transaction.compute result) (Transaction.compute result) := by
  intro state
  cases result <;> rfl

/-- A program on the part alone is what its run on the whole state simulates. -/
theorem focus (program : EStateM ε τ α) :
    Simulates part (Simulation.focus part program) program := by
  -- The part that was replaced reads as what replaced it.
  intro state
  rw [Simulation.focus]
  cases program (part.read state) with
  | ok value next => rw [seen, part.read_replace]
  | error failure next => rw [seen, part.read_replace]

/-- Sequences agree when their first steps do and their second steps do from any value on. -/
theorem bind {first : EStateM ε σ α} {second : α → EStateM ε σ β} {begins : EStateM ε τ α}
    {goesOn : α → EStateM ε τ β} (starts : Simulates part first begins)
    (continues : ∀ value, Simulates part (second value) (goesOn value)) :
    Simulates part (first >>= second) (begins >>= goesOn) := by
  -- The second steps start from states that agree on the part.
  intro state
  have start := starts state
  simp only [Bind.bind, EStateM.bind]
  cases reached : first state with
  | ok value middle =>
    rw [reached] at start
    rw [← start]
    exact continues value middle
  | error failure middle =>
    rw [reached] at start
    rw [← start]
    rfl

end Simulates

/-- A program on a part succeeds on the whole state when it does on the part. -/
theorem focus_eq_ok {program : EStateM ε τ α} {state next : σ} {value : α} :
    focus part program state = .ok value next ↔
      ∃ reached, program (part.read state) = .ok value reached ∧
        next = part.replace state reached := by
  -- The program ends with some part, and the whole state is what it was around it.
  unfold focus
  cases program (part.read state) with
  | ok result reached =>
    constructor
    · intro done
      cases done
      exact ⟨reached, rfl, rfl⟩
    · intro found
      obtain ⟨_, same, rfl⟩ := found
      cases same
      rfl
  | error failure reached => simp

end Simulation
