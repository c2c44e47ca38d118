import TorqueFinder.Extraction.ReplyLaws

/-! The exceptions of a reply that reach the caller without a label. -/

namespace TorqueFinder

open PyText PyJson ExceptFlow

/-- The reading ends in an answer or in the domain error. -/
def OnlyExtractionErrors (result : Except ExtractionFailure Answer) : Prop :=
  ∀ exception, result ≠ .error (.uncaught exception)

/-- A number of the payload overflows when it is converted. -/
def Overflows (interpreter : Interpreter) (payload : Json) : Prop :=
  ∃ answer strength, payload.subscript "answer" = .ok answer ∧
    payload.subscript "confidence" = .ok strength ∧
      ((∃ number, strength = .int number ∧ floatLimit ≤ number.natAbs) ∨
        -- The cited number is only converted after the confidence was.
        ((∃ confidence, interpreter.float strength = .ok confidence) ∧
          (payload.get "source_index" = .float .posInf ∨
            payload.get "source_index" = .float .negInf)))

/-- The reading stops before the payload, or the payload is malformed or free of overflows. -/
def ReplyIsHandled (order : SetOrder) (interpreter : Interpreter) (response : Message)
    (candidates : List ExtractionCandidate) (query : String) : Prop :=
  isOutOfCorpus order query candidates = true ∨
    response.stopReason = some "max_tokens" ∨ response.stopReason = some "refusal" ∨
      -- A reply without a block or with a block of another type is handled as well.
      ∀ first ∈ response.content.head?, first.type = "text" →
        interpreter.loads (stripJsonFences first.text) = .error .jsonDecodeError ∨
          ∃ payload, interpreter.loads (stripJsonFences first.text) = .ok payload ∧
            ¬ Overflows interpreter payload

variable {order : SetOrder} {interpreter : Interpreter} {response : Message} {query : String}
  {candidates : List ExtractionCandidate} {payload : Json} {exception : PyException}

/-- An unusable reply is labelled. -/
@[simp] theorem malformed_ne_uncaught {α : Type*} {message : String} :
    (malformed message : Except ExtractionFailure α) ≠ .error (.uncaught exception) := by
  simp [malformed]

/-- A guarded step lets an exception through that its handler does not name. -/
theorem catching_eq_uncaught {α : Type*} {named : List PyException}
    {failure : Except ExtractionFailure α} {outcome : Except PyException α}
    (labelled : ∀ exception, failure ≠ .error (.uncaught exception)) :
    catching named failure outcome = .error (.uncaught exception) ↔
      outcome = .error exception ∧ exception ∉ named := by
  -- A caught exception becomes the labelled failure.
  cases outcome with
  | ok value => simp [catching]
  | error raised =>
    by_cases caught : raised ∈ named
    · simp only [catching, caught, if_true, labelled, false_iff, not_and, not_not,
        Except.error.injEq]
      rintro rfl
      exact caught
    · simp only [catching, caught, if_false, Except.error.injEq, ExtractionFailure.uncaught.injEq]
      constructor
      · rintro rfl
        exact ⟨rfl, caught⟩
      · exact And.left

/-- Only the infinities overflow when they are read as integers. -/
theorem pyInt_errors {value : Json} (failed : pyInt value = .error exception) :
    exception = .typeError ∨ exception = .valueError ∨
      exception = .overflowError ∧ (value = .float .posInf ∨ value = .float .negInf) := by
  -- A text is refused with a value error, and a value that is no number with a type error.
  cases value with
  | float number => cases number <;> simp_all [pyInt]
  | str text =>
    simp only [pyInt] at failed
    split at failed
    · cases failed
    · cases failed
      exact Or.inr (Or.inl rfl)
  | _ => simp_all [pyInt]

/-- A missing field is a missing key, and a value without fields cannot be indexed. -/
theorem subscript_errors {key : String} (failed : payload.subscript key = .error exception) :
    exception = .keyError ∨ exception = .typeError := by
  -- Only an object can be indexed by a key.
  cases payload with
  | obj fields =>
    simp only [Json.subscript] at failed
    split at failed
    · cases failed
    · cases failed
      exact Or.inl rfl
  | _ =>
    cases failed
    exact Or.inr rfl

/-- An answer is only refused by its validation. -/
theorem makeAnswer_errors (documented : interpreter.AsDocumented) {text : String}
    {toolSize torque : Json} {index : Int} {confidence : PyFloat}
    (failed : makeAnswer interpreter text toolSize torque index confidence = .error exception) :
    exception = .valueError := by
  -- Every optional field has a text, so only the checks at the end are left.
  have texts : ∀ value, ∃ text, optionalText interpreter value = .ok text := by
    intro value
    obtain ⟨text, converted⟩ := documented.str_total value
    cases value with
    | null => exact ⟨none, rfl⟩
    | _ => exact ⟨some text, by simp [optionalText, converted, Except.map]⟩
  obtain ⟨size, sized⟩ := texts toolSize
  obtain ⟨strength, measured⟩ := texts torque
  simp only [makeAnswer, sized, measured, bind, Except.bind] at failed
  split at failed
  · cases failed
    rfl
  · split at failed
    · cases failed
    · cases failed
      rfl

/-- A payload escapes the handlers exactly when one of its numbers overflows. -/
theorem answerOfPayload_uncaught_iff (documented : interpreter.AsDocumented) :
    (∃ exception, answerOfPayload interpreter candidates payload = .error (.uncaught exception)) ↔
      Overflows interpreter payload := by
  constructor
  · intro escapes
    obtain ⟨exception, escaped⟩ := escapes
    rcases bind_eq_error.mp escaped with fields | ⟨⟨text, confidence⟩, fields, escaped⟩
    · -- Of the field conversions only that of the confidence raises something unnamed.
      obtain ⟨raised, unnamed⟩ := (catching_eq_uncaught fun _ => malformed_ne_uncaught).mp fields
      rcases bind_eq_error.mp raised with missing | ⟨answer, answered, raised⟩
      · rcases subscript_errors missing with rfl | rfl <;> simp at unnamed
      rcases bind_eq_error.mp raised with silent | ⟨answerText, _, raised⟩
      · obtain ⟨written, total⟩ := documented.str_total answer
        cases total.symm.trans silent
      rcases bind_eq_error.mp raised with missing | ⟨strength, measured, raised⟩
      · rcases subscript_errors missing with rfl | rfl <;> simp at unnamed
      rcases bind_eq_error.mp raised with overflow | ⟨_, _, raised⟩
      · rcases documented.float_errors strength exception overflow with rfl | rfl | rfl
        · simp at unnamed
        · simp at unnamed
        · exact ⟨answer, strength, answered, measured,
            Or.inl ((documented.float_overflow strength).mp overflow)⟩
      · cases raised
    · rw [catching_eq_ok schemaMismatch_ne_ok] at fields
      obtain ⟨answer, answered, fields⟩ := bind_eq_ok.mp fields
      obtain ⟨_, _, fields⟩ := bind_eq_ok.mp fields
      obtain ⟨strength, measured, fields⟩ := bind_eq_ok.mp fields
      obtain ⟨number, converted, _⟩ := bind_eq_ok.mp fields
      dsimp only at escaped
      split at escaped
      · cases escaped
      -- Behind the fields only the cited number raises something unnamed.
      rcases bind_eq_error.mp escaped with cited | ⟨number, _, escaped⟩
      · obtain ⟨raised, unnamed⟩ := (catching_eq_uncaught fun _ => malformed_ne_uncaught).mp cited
        rcases pyInt_errors raised with rfl | rfl | ⟨_, infinite⟩
        · simp at unnamed
        · simp at unnamed
        · exact ⟨answer, strength, answered, measured, Or.inr ⟨⟨_, converted⟩, infinite⟩⟩
      · split at escaped
        · exact absurd escaped malformed_ne_uncaught
        · obtain ⟨raised, unnamed⟩ :=
            (catching_eq_uncaught fun _ => malformed_ne_uncaught).mp escaped
          obtain rfl := makeAnswer_errors documented raised
          simp at unnamed
  · -- Conversely, each of the two overflows is reached.
    intro overflows
    obtain ⟨answer, strength, answered, measured, overflow⟩ := overflows
    obtain ⟨text, written⟩ := documented.str_total answer
    refine ⟨.overflowError, ?_⟩
    rcases overflow with huge | ⟨⟨confidence, converted⟩, infinite⟩
    · have raised := (documented.float_overflow strength).mpr huge
      simp [answerOfPayload, answered, written, measured, raised, bind, Except.bind, catching]
    · rcases infinite with same | same
      · simp [answerOfPayload, answered, written, measured, converted, same, pyInt, bind,
          Except.bind, pure, Except.pure, catching]
      · simp [answerOfPayload, answered, written, measured, converted, same, pyInt, bind,
          Except.bind, pure, Except.pure, catching]

/-- Every unusable reply is a labelled failure exactly when the reply is one of those handled. -/
theorem onlyExtractionErrors_iff (documented : interpreter.AsDocumented) :
    OnlyExtractionErrors (parseResponse order interpreter response candidates query) ↔
      ReplyIsHandled order interpreter response candidates query := by
  unfold ReplyIsHandled parseResponse
  split
  · rename_i gate
    simp [OnlyExtractionErrors, gate]
  rename_i passed
  split
  · rename_i truncated
    simp [OnlyExtractionErrors, truncated]
  rename_i complete
  split
  · rename_i refused
    simp [OnlyExtractionErrors, refused]
  rename_i willing
  -- None of the guards has decided.
  rw [or_iff_right passed, or_iff_right complete, or_iff_right willing]
  cases content : response.content with
  | nil => simp [OnlyExtractionErrors]
  | cons first rest =>
    dsimp only
    split
    · rename_i other
      simp [OnlyExtractionErrors, other]
    · rename_i isText
      rw [not_not] at isText
      simp only [List.head?_cons, Option.mem_some_iff, forall_eq', isText, true_implies]
      -- What is left is the JSON reader and the payload it returns.
      cases loaded : interpreter.loads (stripJsonFences first.text) with
      | error exception =>
        -- Only a decode error is named by the except clause.
        by_cases caught : exception = .jsonDecodeError
        · simp [OnlyExtractionErrors, catching, caught, bind, Except.bind, malformed]
        · simp [OnlyExtractionErrors, catching, caught, bind, Except.bind]
      | ok payload =>
        have escapes : (∃ exception,
            answerOfPayload interpreter candidates payload = .error (.uncaught exception)) ↔
              Overflows interpreter payload := answerOfPayload_uncaught_iff documented
        simp only [reduceCtorEq, false_or, Except.ok.injEq, exists_eq_left']
        rw [← escapes, not_exists]
        rfl

/-- The text of a reply that cites the source number infinity. -/
def infiniteReplyText : String :=
  "\x7b\"answer\": \"x\", \"confidence\": 0.9, \"source_index\": Infinity\x7d"

/-- An interpreter that loads that text. -/
def infiniteInterpreter : Interpreter :=
  -- The decoder of Python accepts Infinity, although JSON does not.
  numericInterpreter [(infiniteReplyText, .obj [("answer", .str "x"),
    ("confidence", .float (.finite (9 / 10))), ("source_index", .float .posInf)])]

/-- The reply with that text. -/
def infiniteReply : Message where
  stopReason := some "end_turn"
  content := [{ type := "text", text := infiniteReplyText }]

/-- A question that leaves the product open. -/
def openQuestion : String := "what tool for the top cap?"

/-- The equivalence for that reply. -/
theorem onlyExtractionErrors_iff_infinite :
    OnlyExtractionErrors (parseResponse .textual infiniteInterpreter infiniteReply
        [{ index := 1, sourceType := .html, label := "" }] openQuestion) ↔
      ReplyIsHandled .textual infiniteInterpreter infiniteReply
        [{ index := 1, sourceType := .html, label := "" }] openQuestion :=
  -- The interpreter of the table keeps the documented behaviour.
  onlyExtractionErrors_iff (numericInterpreter_asDocumented _)

/-- A reply that cites the source number infinity raises an exception without a label. -/
theorem not_onlyExtractionErrors :
    ¬ ∀ (order : SetOrder) (interpreter : Interpreter) (response : Message)
        (candidates : List ExtractionCandidate) (query : String),
      interpreter.AsDocumented → candidates ≠ [] →
        OnlyExtractionErrors (parseResponse order interpreter response candidates query) := by
  -- The conversion of the infinity overflows, which its handler does not name.
  intro always
  have labelled := always .textual infiniteInterpreter infiniteReply
    [{ index := 1, sourceType := .html, label := "" }] openQuestion
    (numericInterpreter_asDocumented _) (by decide)
  exact labelled .overflowError (by decide +kernel)

end TorqueFinder
