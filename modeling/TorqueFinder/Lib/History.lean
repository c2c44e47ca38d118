import Mathlib.Data.List.Induction

/-! Histories of calls: the state they lead to, and the latest of the calls that count. -/

namespace History

variable {σ κ : Type*}

/-- The state after a history of calls, the oldest first. -/
def after (perform : σ → κ → σ) (start : σ) (history : List κ) : σ := history.foldl perform start

/-- The search for the latest call, given the calls before the ones that are left. -/
def latestFrom (counts : List κ → κ → Bool) (past : List κ) (found : Option κ) :
    List κ → Option κ
  | [] => found
  | call :: rest =>
    -- A call that counts replaces the one found so far.
    latestFrom counts (past ++ [call]) (if counts past call then some call else found) rest

/-- The latest call that counts, where the calls before it may decide whether it does. -/
def latest (counts : List κ → κ → Bool) (history : List κ) : Option κ :=
  latestFrom counts [] none history

variable {perform : σ → κ → σ} {start : σ} {counts other : List κ → κ → Bool} {history : List κ}
  {call : κ}

/-- The last call acts on the state the others led to. -/
@[simp] theorem after_concat :
    after perform start (history ++ [call]) = perform (after perform start history) call := by
  simp [after]

/-- Later calls act on the state the earlier ones led to. -/
theorem after_append (later : List κ) :
    after perform start (history ++ later) = after perform (after perform start history) later :=
  List.foldl_append

/-- The search on a longer history ends with a look at its last call. -/
private theorem latestFrom_concat (past : List κ) (found : Option κ) :
    latestFrom counts past found (history ++ [call]) =
      if counts (past ++ history) call then some call
      else latestFrom counts past found history := by
  -- The calls before the last one move into the past one by one.
  induction history generalizing past found with
  | nil => simp [latestFrom]
  | cons first rest ih =>
    rw [List.cons_append, latestFrom, ih, latestFrom, List.append_assoc, List.singleton_append]

/-- The last call is the latest when it counts, and otherwise changes nothing. -/
theorem latest_concat :
    latest counts (history ++ [call]) =
      if counts history call then some call else latest counts history := by
  rw [latest, latestFrom_concat, List.nil_append]
  rfl

/-- What holds of the empty history and is kept by one more call holds of every history. -/
theorem follows (invariant : List κ → σ → Prop) (initial : invariant [] start)
    (kept : ∀ history call, invariant history (after perform start history) →
      invariant (history ++ [call]) (perform (after perform start history) call))
    (history : List κ) : invariant history (after perform start history) := by
  -- The induction is on the last call, which is the one that acts on the state.
  induction history using List.reverseRecOn with
  | nil => exact initial
  | append_singleton history call ih =>
    rw [after_concat]
    exact kept history call ih

end History
