import Mathlib.Data.List.Forall2

/-! Computations that may fail, taken apart into the steps that must have succeeded. -/

namespace ExceptFlow

universe u

variable {ε : Type*} {α β : Type u}

/-- A sequence of two steps succeeds when the first does and the second does on its result. -/
theorem bind_eq_ok {first : Except ε α} {second : α → Except ε β} {result : β} :
    first >>= second = .ok result ↔ ∃ value, first = .ok value ∧ second value = .ok result := by
  -- A failed first step ends the sequence.
  cases first with
  | error failure => simp [bind, Except.bind]
  | ok value => simp [bind, Except.bind]

/-- A sequence of two steps fails when its first step does, or its second after the first. -/
theorem bind_eq_error {first : Except ε α} {second : α → Except ε β} {failure : ε} :
    first >>= second = .error failure ↔
      first = .error failure ∨ ∃ value, first = .ok value ∧ second value = .error failure := by
  -- After a failed first step the second one is not reached.
  cases first with
  | error failure => simp [bind, Except.bind]
  | ok value => simp [bind, Except.bind]

/-- After a step that succeeded the sequence goes on with its value. -/
@[simp] theorem ok_bind (value : α) (second : α → Except ε β) :
    (.ok value : Except ε α) >>= second = second value := rfl

/-- A step that failed ends the sequence. -/
@[simp] theorem error_bind (failure : ε) (second : α → Except ε β) :
    (.error failure : Except ε α) >>= second = .error failure := rfl

/-- A step without effect succeeds with its value only. -/
theorem pure_eq_ok {value result : α} :
    (pure value : Except ε α) = .ok result ↔ value = result := by
  simp [pure, Except.pure]

/-- A step with a mapped value succeeds when the step does. -/
theorem map_eq_ok {f : α → β} {step : Except ε α} {result : β} :
    f <$> step = .ok result ↔ ∃ value, step = .ok value ∧ f value = result := by
  cases step with
  | error failure => simp [Functor.map, Except.map]
  | ok value => simp [Functor.map, Except.map]

/-- Renaming the failure of a step changes nothing about its success. -/
theorem mapError_eq_ok {ε' : Type*} {rename : ε → ε'} {step : Except ε α} {value : α} :
    step.mapError rename = .ok value ↔ step = .ok value := by
  cases step <;> simp [Except.mapError]

/-- A step with a renamed failure fails when the step does. -/
theorem mapError_eq_error {ε' : Type*} {rename : ε → ε'} {step : Except ε α} {failure : ε'} :
    step.mapError rename = .error failure ↔
      ∃ raised, step = .error raised ∧ rename raised = failure := by
  cases step <;> simp [Except.mapError]

/-- Renaming the failures of a sequence is renaming those of its steps. -/
theorem mapError_bind {ε' : Type*} {rename : ε → ε'} {first : Except ε α}
    {second : α → Except ε β} :
    (first >>= second).mapError rename =
      first.mapError rename >>= fun value => (second value).mapError rename := by
  cases first <;> rfl

/-- Renaming the failure of a mapped step is mapping the renamed step. -/
theorem mapError_map {ε' : Type*} {rename : ε → ε'} {f : α → β} {step : Except ε α} :
    (f <$> step).mapError rename = f <$> step.mapError rename := by
  cases step <;> rfl

/-- Renaming the failures of a mapping is mapping the renamed step. -/
theorem mapError_mapM {ε' : Type*} {rename : ε → ε'} {step : α → Except ε β} {inputs : List α} :
    (inputs.mapM step).mapError rename = inputs.mapM fun input => (step input).mapError rename := by
  -- The head and the rest are renamed one after the other.
  induction inputs with
  | nil => rfl
  | cons head tail ih =>
    rw [List.mapM_cons, List.mapM_cons, mapError_bind]
    refine bind_congr fun output => ?_
    rw [mapError_bind, ih]
    exact bind_congr fun outputs => rfl

/-- Mapping a fallible step over a list succeeds when every single step does. -/
theorem mapM_eq_ok {step : α → Except ε β} {inputs : List α} {outputs : List β} :
    inputs.mapM step = .ok outputs ↔
      List.Forall₂ (fun input output => step input = .ok output) inputs outputs := by
  -- The outputs are those of the head and of the remaining inputs.
  induction inputs generalizing outputs with
  | nil => rw [List.mapM_nil, pure_eq_ok, List.forall₂_nil_left_iff, eq_comm]
  | cons input rest ih =>
    simp only [List.mapM_cons, bind_eq_ok, pure_eq_ok, List.forall₂_cons_left_iff, ih]
    constructor
    · intro stepwise
      obtain ⟨output, head, others, tail, rfl⟩ := stepwise
      exact ⟨output, others, head, tail, rfl⟩
    · intro stepwise
      obtain ⟨output, others, head, tail, rfl⟩ := stepwise
      exact ⟨output, head, others, tail, rfl⟩

/-- An element of the second of two related lists has a partner in the first. -/
theorem left_of_forall₂ {relation : α → β → Prop} {lefts : List α} {rights : List β}
    (related : List.Forall₂ relation lefts rights) {right : β} (member : right ∈ rights) :
    ∃ left ∈ lefts, relation left right := by
  -- The pairs are walked through until the right element is met.
  induction related with
  | nil => cases member
  | cons head _ ih =>
    rcases List.mem_cons.mp member with rfl | later
    · exact ⟨_, List.mem_cons_self, head⟩
    · obtain ⟨left, inside, held⟩ := ih later
      exact ⟨left, List.mem_cons_of_mem _ inside, held⟩

/-- An element of the first of two related lists has a partner in the second. -/
theorem right_of_forall₂ {relation : α → β → Prop} {lefts : List α} {rights : List β}
    (related : List.Forall₂ relation lefts rights) {left : α} (member : left ∈ lefts) :
    ∃ right ∈ rights, relation left right :=
  left_of_forall₂ related.flip member

/-- The inputs that are kept are related to what they give, when all others give nothing. -/
theorem forall₂_filter_filterMap {relation : α → β → Prop} {keep : α → Bool}
    {give : α → Option β} {inputs : List α}
    (dropped : ∀ input ∈ inputs, give input = none → keep input = false)
    (kept : ∀ input ∈ inputs, ∀ output, give input = some output →
      keep input = true ∧ relation input output) :
    List.Forall₂ relation (inputs.filter keep) (inputs.filterMap give) := by
  -- An input is dropped on both sides or kept on both sides.
  induction inputs with
  | nil => exact .nil
  | cons input rest ih =>
    have others := ih (fun other later => dropped other (List.mem_cons_of_mem _ later))
      (fun other later => kept other (List.mem_cons_of_mem _ later))
    cases given : give input with
    | none =>
      rw [List.filterMap_cons_none given,
        List.filter_cons_of_neg (by simp [dropped input List.mem_cons_self given])]
      exact others
    | some output =>
      obtain ⟨stays, held⟩ := kept input List.mem_cons_self output given
      rw [List.filterMap_cons_some given, List.filter_cons_of_pos stays]
      exact .cons held others

/-- A successful mapping keeps the keys that its single steps keep. -/
theorem keys_of_mapM_eq_ok {κ : Type*} {step : α → Except ε β} {inputs : List α} {outputs : List β}
    (mapped : inputs.mapM step = .ok outputs) {inputKey : α → κ} {outputKey : β → κ}
    (kept : ∀ input output, step input = .ok output → outputKey output = inputKey input) :
    outputs.map outputKey = inputs.map inputKey := by
  -- Inputs and outputs are paired by their steps.
  induction mapM_eq_ok.mp mapped with
  | nil => rfl
  | cons done _ ih => rw [List.map_cons, List.map_cons, kept _ _ done, ih (mapM_eq_ok.mpr ‹_›)]

/-- In a successful mapping the output at each place comes from the input at that place. -/
theorem input_of_mapM_eq_ok {step : α → Except ε β} {inputs : List α} {outputs : List β}
    (mapped : inputs.mapM step = .ok outputs) {place : Nat} {output : β}
    (found : outputs[place]? = some output) :
    ∃ input, inputs[place]? = some input ∧ step input = .ok output := by
  -- Pointwise success relates inputs and outputs of one length, so the place names both.
  obtain ⟨length, each⟩ := List.forall₂_iff_get.mp (mapM_eq_ok.mp mapped)
  obtain ⟨bound, rfl⟩ := List.getElem?_eq_some_iff.mp found
  exact ⟨inputs[place], List.getElem?_eq_getElem (length ▸ bound),
    each place (length ▸ bound) bound⟩

/-- In a successful mapping the input at each place has an output at that place. -/
theorem output_of_mapM_eq_ok {step : α → Except ε β} {inputs : List α} {outputs : List β}
    (mapped : inputs.mapM step = .ok outputs) {place : Nat} {input : α}
    (found : inputs[place]? = some input) :
    ∃ output, outputs[place]? = some output ∧ step input = .ok output := by
  -- The same pairing, read from the input side.
  obtain ⟨length, each⟩ := List.forall₂_iff_get.mp (mapM_eq_ok.mp mapped)
  obtain ⟨bound, rfl⟩ := List.getElem?_eq_some_iff.mp found
  exact ⟨outputs[place], List.getElem?_eq_getElem (length ▸ bound),
    each place bound (length ▸ bound)⟩

/-- What every step gives its output, all outputs of a successful mapping have. -/
theorem forall_of_mapM_eq_ok {step : α → Except ε β} {inputs : List α} {outputs : List β}
    {property : β → Prop} (mapped : inputs.mapM step = .ok outputs)
    (each : ∀ input output, step input = .ok output → property output) :
    ∀ output ∈ outputs, property output := by
  -- Every output was made of some input.
  intro output member
  obtain ⟨place, found⟩ := List.mem_iff_getElem?.mp member
  obtain ⟨input, _, done⟩ := input_of_mapM_eq_ok mapped found
  exact each input output done

/-- A mapping succeeds when its step succeeds on every input. -/
theorem mapM_ok_of_forall {step : α → Except ε β} {inputs : List α}
    (succeeds : ∀ input ∈ inputs, ∃ output, step input = .ok output) :
    ∃ outputs, inputs.mapM step = .ok outputs := by
  -- The head's output joins the outputs of the remaining inputs.
  induction inputs with
  | nil => exact ⟨[], List.mapM_nil⟩
  | cons input rest ih =>
    obtain ⟨output, head⟩ := succeeds input List.mem_cons_self
    obtain ⟨others, tail⟩ := ih fun other member => succeeds other (List.mem_cons_of_mem _ member)
    exact ⟨output :: others, by simp [List.mapM_cons, head, tail]⟩

/-- A mapping succeeds exactly when its step succeeds on every input. -/
theorem mapM_ok_iff {step : α → Except ε β} {inputs : List α} :
    (∃ outputs, inputs.mapM step = .ok outputs) ↔
      ∀ input ∈ inputs, ∃ output, step input = .ok output := by
  -- The output of an input stands at its place.
  refine ⟨?_, mapM_ok_of_forall⟩
  intro gathered input member
  obtain ⟨outputs, mapped⟩ := gathered
  obtain ⟨place, found⟩ := List.mem_iff_getElem?.mp member
  obtain ⟨output, _, done⟩ := output_of_mapM_eq_ok mapped found
  exact ⟨output, done⟩

/-- Steps that all succeed, in any order, give their values in that order. -/
theorem mapM_id_of_perm {ε α : Type u} {steps : List (Except ε α)} {values : List α}
    (same : steps.Perm (values.map .ok)) :
    ∃ outputs, steps.mapM id = .ok outputs ∧ outputs.Perm values := by
  -- Each step is one of those that succeed.
  have succeeds : ∀ step ∈ steps, ∃ value, step = .ok value := by
    intro step member
    obtain ⟨value, _, rfl⟩ := List.mem_map.mp (same.mem_iff.mp member)
    exact ⟨value, rfl⟩
  obtain ⟨outputs, mapped⟩ : ∃ outputs, steps.mapM id = .ok outputs := mapM_ok_of_forall succeeds
  have listed : steps = outputs.map .ok := by
    have paired := mapM_eq_ok.mp mapped
    clear same succeeds mapped
    induction paired with
    | nil => rfl
    | cons done _ ih => rw [List.map_cons, ← ih, ← done, id]
  refine ⟨outputs, mapped, ?_⟩
  rw [listed] at same
  have kept := same.filterMap Except.toOption
  simpa [List.filterMap_map, Function.comp_def, Except.toOption] using kept

/-- A mapping ends with the failure of the first input whose step fails. -/
theorem mapM_error_of_first {step : α → Except ε β} {front back : List α} {input : α}
    {failure : ε} (before : ∀ earlier ∈ front, ∃ output, step earlier = .ok output)
    (failed : step input = .error failure) :
    (front ++ input :: back).mapM step = .error failure := by
  -- The steps before it succeed one after the other.
  induction front with
  | nil => rw [List.nil_append, List.mapM_cons, failed, error_bind]
  | cons head tail ih =>
    obtain ⟨output, done⟩ := before head List.mem_cons_self
    have later := ih fun earlier member => before earlier (List.mem_cons_of_mem _ member)
    rw [List.cons_append, List.mapM_cons, done, ok_bind, later, error_bind]

/-- A failed mapping has a first input whose step fails, and its failure is that of the mapping. -/
theorem first_of_mapM_error {step : α → Except ε β} {inputs : List α} {failure : ε}
    (mapped : inputs.mapM step = .error failure) :
    ∃ front input back, inputs = front ++ input :: back ∧
      (∀ earlier ∈ front, ∃ output, step earlier = .ok output) ∧ step input = .error failure := by
  induction inputs with
  | nil => simp [pure, Except.pure] at mapped
  | cons head tail ih =>
    rw [List.mapM_cons] at mapped
    rcases bind_eq_error.mp mapped with failed | ⟨output, done, rest⟩
    · exact ⟨[], head, tail, rfl, by simp, failed⟩
    -- After a head that succeeds, the failure is that of the remaining inputs.
    · rcases bind_eq_error.mp rest with later | ⟨others, _, collected⟩
      · obtain ⟨front, input, back, rfl, before, failed⟩ := ih later
        refine ⟨head :: front, input, back, rfl, ?_, failed⟩
        intro earlier member
        rcases List.mem_cons.mp member with rfl | inside
        · exact ⟨output, done⟩
        · exact before earlier inside
      · simp [pure, Except.pure] at collected

/-- A sequence succeeds when its first step does and its second does on every value. -/
theorem bind_ok {first : Except ε α} {second : α → Except ε β}
    (starts : ∃ value, first = .ok value)
    (continues : ∀ value, ∃ result, second value = .ok result) :
    ∃ result, first >>= second = .ok result := by
  -- Both steps have a value, and the second one that of the pair.
  obtain ⟨value, done⟩ := starts
  obtain ⟨result, also⟩ := continues value
  exact ⟨result, bind_eq_ok.mpr ⟨value, done, also⟩⟩

/-- A mapped step succeeds when the step does. -/
theorem map_ok {f : α → β} {step : Except ε α} (done : ∃ value, step = .ok value) :
    ∃ result, f <$> step = .ok result := by
  obtain ⟨value, done⟩ := done
  exact ⟨f value, map_eq_ok.mpr ⟨value, done, rfl⟩⟩

end ExceptFlow
