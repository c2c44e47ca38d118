import TorqueFinder.Extraction.ReplyFailures
import TorqueFinder.Lib.JsonSchema

/-! The schema the upstream is asked to keep to, and what the parser makes of a reply that does. -/

namespace TorqueFinder

open PyText PyJson ExceptFlow

/-- The schema of the payload of a reply. -/
def outputSchema : ObjectSchema where
  properties :=
    [("answer", [.string]), ("tool_size", [.string, .null]), ("torque", [.string, .null]),
      -- The dialect has no keywords for ranges, so they are checked after parsing.
      ("source_index", [.integer, .null]), ("confidence", [.number]),
      ("product_in_corpus", [.boolean]), ("cited_product", [.string, .null])]
  required :=
    ["answer", "tool_size", "torque", "source_index", "confidence", "product_in_corpus",
      "cited_product"]
  additionalProperties := false

/-- The number a JSON number stands for, when it is one that a float can come near. -/
def numberOf : Json → Option ℚ
  -- An integer too large for a float has no value here.
  | .int number => if floatLimit ≤ number.natAbs then none else some number
  | .float (.finite value) => some value
  | _ => none

/-- The text of an optional field as a value. -/
def optionalValue : Option String → Json
  -- The reverse of reading an optional text.
  | none => .null
  | some text => .str text

/-- An answer says what the payload does, about the source it cites. -/
structure Answer.TellsAs (answer : Answer) (payload : Json) (index : Int) : Prop where
  text : payload.get "answer" = .str answer.text
  toolSize : payload.get "tool_size" = optionalValue answer.toolSize
  torque : payload.get "torque" = optionalValue answer.torque
  sourceIndex : answer.sourceIndex.map Subtype.val = some index
  confidence : numberOf (payload.get "confidence") = some answer.confidence.val
  abstained : answer.abstained = false

/-- The confidence is an integer that is too large for a float. -/
def ConfidenceOverflows (payload : Json) : Prop :=
  ∃ number, payload.get "confidence" = .int number ∧ floatLimit ≤ number.natAbs

/-- What becomes of a payload that has the schema. -/
inductive StructuredOutcome (candidates : List ExtractionCandidate) (payload : Json) :
    Except ExtractionFailure Answer → Prop where
  /-- A number of the payload is too large for the conversions. -/
  | overflowed (large : ConfidenceOverflows payload ∨
      payload.get "source_index" = .float .posInf ∨ payload.get "source_index" = .float .negInf) :
      StructuredOutcome candidates payload (.error (.uncaught .overflowError))
  /-- No source answers the question. -/
  | abstained (small : ¬ ConfidenceOverflows payload)
      (unanswered : payload.get "source_index" = .null) :
      StructuredOutcome candidates payload (.ok abstain)
  /-- The cited source was not shown. -/
  | unknown (index : Int) (small : ¬ ConfidenceOverflows payload)
      (cited : pyInt (payload.get "source_index") = .ok index)
      (absent : ∀ candidate ∈ candidates, candidate.index ≠ index) :
      StructuredOutcome candidates payload
        (malformed ("Claude cited source_index=" ++ toString index ++ ", which was not " ++
          "among the supplied candidates"))
  /-- The confidence is none. -/
  | invalid (index : Int) (small : ¬ ConfidenceOverflows payload)
      (cited : pyInt (payload.get "source_index") = .ok index)
      (shown : ∃ candidate ∈ candidates, candidate.index = index)
      (outside : ∀ value, numberOf (payload.get "confidence") = some value →
        value < 0 ∨ 1 < value) :
      StructuredOutcome candidates payload
        (malformed "Claude response failed Answer validation")
  /-- The answer is that of the payload, about a source that was shown. -/
  | answered (index : Int) (answer : Answer)
      (cited : pyInt (payload.get "source_index") = .ok index)
      (shown : ∃ candidate ∈ candidates, candidate.index = index)
      (told : answer.TellsAs payload index) : StructuredOutcome candidates payload (.ok answer)

variable {interpreter : Interpreter} {candidates : List ExtractionCandidate} {payload : Json}

/-- An optional text of the schema is null or a text. -/
theorem optionalText_of_accepts (interpreter : Interpreter) {name : String}
    (accepted : outputSchema.accepts payload = true)
    (optional : name = "tool_size" ∨ name = "torque") :
    ∃ text, payload.get name = optionalValue text ∧
      optionalText interpreter (payload.get name) = .ok text := by
  have needed : name ∈ outputSchema.required := by
    rcases optional with rfl | rfl <;> simp [outputSchema]
  have typed : (name, [.string, .null]) ∈ outputSchema.properties := by
    rcases optional with rfl | rfl <;> simp [outputSchema]
  obtain ⟨type, member, admits, -⟩ := outputSchema.field_of_accepts accepted needed typed
  -- A text is kept as it is, and null is the missing text.
  rcases List.mem_cons.mp member with rfl | other
  · obtain ⟨text, same⟩ := admits_string admits
    rw [same]
    exact ⟨some text, rfl, by simp [optionalText, interpreter.str_str, Except.map]⟩
  · obtain rfl := List.mem_singleton.mp other
    rw [admits_null admits]
    exact ⟨none, rfl, rfl⟩

/-- A confidence is taken over exactly when it is one, and any other number is refused. -/
def ConfidenceKept (strength : Json) (confidence : PyFloat) : Prop :=
  -- A number outside the interval is refused, and one inside is kept exactly.
  match validConfidence confidence with
  | some valid => numberOf strength = some valid.val
  | none => ∀ value, numberOf strength = some value → value < 0 ∨ 1 < value

/-- A finite confidence is kept, or is outside the range. -/
theorem confidenceKept_of_finite {strength : Json} {value : ℚ}
    (number : numberOf strength = some value) : ConfidenceKept strength (.finite value) := by
  unfold ConfidenceKept
  -- The check of the field decides which half is to be shown.
  by_cases valid : 0 ≤ value ∧ value ≤ 1
  · have read : validConfidence (.finite value) = some ⟨value, valid⟩ := dif_pos valid
    rw [read]
    exact number
  · have read : validConfidence (.finite value) = none := dif_neg valid
    rw [read]
    intro other same
    obtain rfl := Option.some.inj (number.symm.trans same)
    rcases not_and_or.mp valid with low | high
    · exact .inl (not_le.mp low)
    · exact .inr (not_le.mp high)

/-- A number of the schema becomes a float that keeps it, unless it overflows. -/
theorem float_of_accepts (rounds : interpreter.RoundsAsDocumented) {strength : Json}
    (small : ∀ number, strength = .int number → number.natAbs < floatLimit)
    (admits : JsonType.number.admits strength = true) :
    ∃ confidence, interpreter.float strength = .ok confidence ∧
      ConfidenceKept strength confidence := by
  rcases admits_number admits with ⟨number, rfl⟩ | ⟨number, rfl, -⟩
  · have fits := small number rfl
    have read : numberOf (.int number) = some (number : ℚ) := by
      simp only [numberOf, Nat.not_le.mpr fits, if_false]
    by_cases precise : number.natAbs ≤ 2 ^ 53
    · exact ⟨_, rounds.float_exact number precise, confidenceKept_of_finite read⟩
    · -- A large integer is rounded, but not into the range.
      obtain ⟨value, converted, far⟩ := rounds.float_large number (Nat.not_le.mp precise) fits
      refine ⟨_, converted, ?_⟩
      have invalid : ¬ (0 ≤ value ∧ value ≤ 1) := by
        intro valid
        rw [abs_of_nonneg valid.1] at far
        exact absurd valid.2 (not_le.mpr far)
      have refused : validConfidence (.finite value) = none := dif_neg invalid
      unfold ConfidenceKept
      rw [refused]
      intro other same
      obtain rfl := Option.some.inj (read.symm.trans same)
      have outside : number < 0 ∨ 1 < number := by omega
      exact outside.imp (fun low => by exact_mod_cast low) fun high => by exact_mod_cast high
  · refine ⟨number, rounds.float_float number, ?_⟩
    cases number with
    | finite value => exact confidenceKept_of_finite rfl
    | _ => exact fun other same => nomatch same

/-- An answer made of accepted fields tells what they do, or its confidence is refused. -/
theorem makeAnswer_of_accepts (interpreter : Interpreter)
    (accepted : outputSchema.accepts payload = true) {text : String}
    (answered : payload.get "answer" = .str text) {index : Int} (positive : 1 ≤ index)
    {confidence : PyFloat}
    (kept : ConfidenceKept (payload.get "confidence") confidence) :
    (∃ answer, makeAnswer interpreter text (payload.get "tool_size") (payload.get "torque") index
        confidence = .ok answer ∧ answer.TellsAs payload index) ∨
      makeAnswer interpreter text (payload.get "tool_size") (payload.get "torque") index
          confidence = .error .valueError ∧
        ∀ value, numberOf (payload.get "confidence") = some value → value < 0 ∨ 1 < value := by
  obtain ⟨size, sized, sizeText⟩ := optionalText_of_accepts interpreter accepted (.inl rfl)
  obtain ⟨strength, measured, strengthText⟩ :=
    optionalText_of_accepts interpreter accepted (.inr rfl)
  unfold ConfidenceKept at kept
  -- Only the confidence can still be refused.
  cases valid : validConfidence confidence with
  | none =>
    rw [valid] at kept
    refine .inr ⟨?_, kept⟩
    simp [makeAnswer, sizeText, strengthText, valid, bind, Except.bind]
  | some number =>
    rw [valid] at kept
    let answer : Answer :=
      { text, toolSize := size, torque := strength, sourceIndex := some ⟨index, positive⟩
        confidence := number }
    refine .inl ⟨answer, ?_, ?_⟩
    · simp [makeAnswer, sizeText, strengthText, valid, positive, answer, bind, Except.bind]
    · exact ⟨answered, sized, measured, rfl, kept, rfl⟩

/-- The text of the answer is there, and so is a number as its confidence. -/
theorem fields_of_accepts (accepted : outputSchema.accepts payload = true) :
    (∃ text, payload.get "answer" = .str text ∧ payload.subscript "answer" = .ok (.str text)) ∧
      JsonType.number.admits (payload.get "confidence") = true ∧
        payload.subscript "confidence" = .ok (payload.get "confidence") := by
  -- Both fields are required, so they are present with their types.
  have typed : ("answer", [JsonType.string]) ∈ outputSchema.properties := by simp [outputSchema]
  obtain ⟨type, textual, admits, answered⟩ :=
    outputSchema.field_of_accepts accepted (by simp [outputSchema]) typed
  obtain rfl := List.mem_singleton.mp textual
  obtain ⟨text, same⟩ := admits_string admits
  have typed : ("confidence", [JsonType.number]) ∈ outputSchema.properties := by
    simp [outputSchema]
  obtain ⟨type, numeric, admits, measured⟩ :=
    outputSchema.field_of_accepts accepted (by simp [outputSchema]) typed
  obtain rfl := List.mem_singleton.mp numeric
  exact ⟨⟨text, same, same ▸ answered⟩, admits, measured⟩

/-- The cited source is null, or an integer. -/
theorem source_of_accepts (accepted : outputSchema.accepts payload = true) :
    payload.get "source_index" = .null ∨
      JsonType.integer.admits (payload.get "source_index") = true := by
  -- The field may be null, which the schema writes as a second type.
  have typed : ("source_index", [JsonType.integer, .null]) ∈ outputSchema.properties := by
    simp [outputSchema]
  obtain ⟨type, member, admits, -⟩ :=
    outputSchema.field_of_accepts accepted (by simp [outputSchema]) typed
  rcases List.mem_cons.mp member with rfl | other
  · exact .inr admits
  · obtain rfl := List.mem_singleton.mp other
    exact .inl (admits_null admits)

/-- A payload that has the schema is read as what it tells, or refused for one of three reasons. -/
theorem answerOfPayload_structured (rounds : interpreter.RoundsAsDocumented)
    (documented : interpreter.AsDocumented) (accepted : outputSchema.accepts payload = true)
    (numbered : ∀ candidate ∈ candidates, 1 ≤ candidate.index) :
    StructuredOutcome candidates payload (answerOfPayload interpreter candidates payload) := by
  -- The schema has the fields in which the reader looks, each of a type that it reads.
  obtain ⟨⟨text, sameText, answered⟩, admits, measured⟩ := fields_of_accepts accepted
  unfold answerOfPayload
  rw [answered, measured]
  by_cases large : ConfidenceOverflows payload
  -- A confidence beyond the range of floats raises first.
  · have raised : interpreter.float (payload.get "confidence") = .error .overflowError :=
      (documented.float_overflow _).mpr large
    have outcome : StructuredOutcome candidates payload (.error (.uncaught .overflowError)) :=
      .overflowed (.inl large)
    simpa [raised, interpreter.str_str, catching, bind, Except.bind] using outcome
  have fits : ∀ number, payload.get "confidence" = .int number → number.natAbs < floatLimit :=
    fun number same => Nat.not_le.mp fun huge => large ⟨number, same, huge⟩
  obtain ⟨confidence, converted, kept⟩ := float_of_accepts rounds fits admits
  simp only [interpreter.str_str, converted, ok_bind, pure, Except.pure, catching]
  split
  · rename_i unanswered
    exact .abstained large unanswered
  rename_i answering
  have integral := (source_of_accepts accepted).resolve_left answering
  rcases pyInt_of_admits integral with ⟨index, cited⟩ | infinite
  · simp only [cited, ok_bind]
    split
    · rename_i absent
      refine .unknown index large cited fun candidate member same => ?_
      exact List.find?_eq_none.mp absent candidate member (decide_eq_true same)
    · -- The cited candidate exists, so only the checks are left.
      rename_i found located
      have shown : found.index = index := by simpa using List.find?_some located
      have member := List.mem_of_find?_eq_some located
      rcases makeAnswer_of_accepts interpreter accepted sameText
        (numbered found member) kept with ⟨answer, made, told⟩ | ⟨refused, outside⟩
      · rw [made]
        exact .answered index answer cited ⟨found, member, shown⟩ (shown ▸ told)
      · rw [refused]
        exact .invalid index large cited ⟨found, member, shown⟩ outside
  · -- An infinite index cannot be an integer.
    have overflow : pyInt (payload.get "source_index") = .error .overflowError := by
      rcases infinite with same | same
      · rw [same]
        rfl
      · rw [same]
        rfl
    rw [overflow]
    exact .overflowed (.inr infinite)

/-- A reply ends by itself with a text that loads as a payload that has the schema. -/
structure StructuredReply (interpreter : Interpreter) (reply : Message) (payload : Json) :
    Prop where
  complete : reply.stopReason ≠ some "max_tokens"
  willing : reply.stopReason ≠ some "refusal"
  loaded : ∃ block rest, reply.content = block :: rest ∧ block.type = "text" ∧
    interpreter.loads (stripJsonFences block.text) = .ok payload
  accepted : outputSchema.accepts payload = true

/-- A structured reply that the gate lets pass is read as what it tells. -/
theorem parseResponse_structured {order : SetOrder} {reply : Message} {query : String}
    (rounds : interpreter.RoundsAsDocumented) (documented : interpreter.AsDocumented)
    (structured : StructuredReply interpreter reply payload)
    (numbered : ∀ candidate ∈ candidates, 1 ≤ candidate.index)
    (passed : isOutOfCorpus order query candidates = false) :
    StructuredOutcome candidates payload
      (parseResponse order interpreter reply candidates query) := by
  obtain ⟨block, rest, content, isText, loads⟩ := structured.loaded
  -- No guard in front of the payload ends the parse.
  have read : parseResponse order interpreter reply candidates query =
      answerOfPayload interpreter candidates payload := by
    simp [parseResponse, passed, structured.complete, structured.willing, content, isText, loads,
      catching]
  rw [read]
  exact answerOfPayload_structured rounds documented structured.accepted numbered

/-- A text that the upstream may reply with. -/
def structuredText : String :=
  -- The reply spells its confidence as an integer.
  "\x7b\"answer\": \"7.3 N-m\", \"tool_size\": null, \"torque\": \"7.3 N-m\", " ++
    "\"source_index\": 1, \"confidence\": 1, \"product_in_corpus\": true, " ++
    "\"cited_product\": null\x7d"

/-- What that text loads as. -/
def structuredPayload : Json :=
  -- The decoder reads an integer without a point as an integer.
  .obj [("answer", .str "7.3 N-m"), ("tool_size", .null), ("torque", .str "7.3 N-m"),
    ("source_index", .int 1), ("confidence", .int 1), ("product_in_corpus", .bool true),
    ("cited_product", .null)]

/-- An interpreter that loads the text. -/
def structuredInterpreter : Interpreter := numericInterpreter [(structuredText, structuredPayload)]

/-- The reply with that text. -/
def structuredMessage : Message where
  -- The reply ends by itself and not at the token limit.
  stopReason := some "end_turn"
  content := [{ type := "text", text := structuredText }]

/-- The reply is structured. -/
theorem structuredMessage_structured :
    StructuredReply structuredInterpreter structuredMessage structuredPayload where
  complete := by decide
  willing := by decide
  loaded := by
    -- The text has no fence, so it is decoded as it is.
    have unfenced : stripJsonFences structuredText = structuredText := by decide +kernel
    refine ⟨_, _, rfl, rfl, ?_⟩
    rw [unfenced]
    rfl
  accepted := by decide +kernel

/-- What becomes of that reply. -/
theorem parseResponse_structured_top_cap :
    StructuredOutcome [{ index := 1, sourceType := .html, label := "" }] structuredPayload
      (parseResponse .textual structuredInterpreter structuredMessage
        [{ index := 1, sourceType := .html, label := "" }] openQuestion) :=
  parseResponse_structured (numericInterpreter_roundsAsDocumented _)
    (numericInterpreter_asDocumented _) structuredMessage_structured (by decide)
    (by decide +kernel)

end TorqueFinder
