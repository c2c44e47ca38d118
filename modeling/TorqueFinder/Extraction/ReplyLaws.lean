import TorqueFinder.Extraction.ClaudeClient
import TorqueFinder.Lib.ExceptFlow

/-! What a request shows the model, and what an answer owes to the reply it was read from. -/

namespace TorqueFinder

open PyText PyJson ExceptFlow

variable {order : SetOrder} {interpreter : Interpreter} {query : String}
  {candidates : List ExtractionCandidate} {answer : Answer}

/-- An unusable reply is never an answer. -/
@[simp] theorem malformed_ne_ok {α : Type*} {message : String} {value : α} :
    malformed message ≠ .ok value := by
  simp [malformed]

/-- A reply that does not match the schema is never an answer. -/
@[simp] theorem schemaMismatch_ne_ok {α : Type*} {value : α} : schemaMismatch ≠ .ok value :=
  malformed_ne_ok

/-- A guarded step succeeds only as the step itself, since no handler recovers. -/
theorem catching_eq_ok {α : Type*} {named : List PyException} {failure : Except ExtractionFailure α}
    {outcome : Except PyException α} {value : α} (fails : failure ≠ .ok value) :
    catching named failure outcome = .ok value ↔ outcome = .ok value := by
  -- A caught exception becomes the failure, any other passes through.
  cases outcome with
  | ok returned => simp [catching]
  | error exception =>
    by_cases caught : exception ∈ named
    · simp [catching, caught, fails]
    · simp [catching, caught]

section Requests

/-- The blocks of every candidate stand together in the request. -/
theorem candidateBlocks_infix {request : List UserBlock} {candidate : ExtractionCandidate}
    (built : buildUserBlocks query candidates = .ok request) (member : candidate ∈ candidates) :
    ∃ blocks, candidateBlocks candidate = .ok blocks ∧ blocks <:+: request := by
  -- The request is the blocks of the candidates in order, followed by the question.
  obtain ⟨blocks, mapped, same⟩ := bind_eq_ok.mp built
  obtain rfl := pure_eq_ok.mp same
  obtain ⟨place, found⟩ := List.mem_iff_getElem?.mp member
  obtain ⟨shown, listed, presented⟩ := output_of_mapM_eq_ok mapped found
  have inside := List.infix_of_mem_flatten (List.mem_of_getElem? listed)
  exact ⟨shown, presented, inside.trans (List.prefix_append _ _).isInfix⟩

/-- A request is built when every candidate has blocks. -/
theorem buildUserBlocks_of_candidateBlocks
    (complete : ∀ candidate ∈ candidates, ∃ blocks, candidateBlocks candidate = .ok blocks) :
    ∃ request, buildUserBlocks query candidates = .ok request := by
  -- The question is added to the blocks of all candidates.
  obtain ⟨blocks, mapped⟩ := mapM_ok_of_forall complete
  exact ⟨blocks.flatten ++ [questionBlock query], bind_eq_ok.mpr ⟨blocks, mapped, rfl⟩⟩

end Requests

section Replies

/-- The number a reply cites, read as an integer from the source index of its payload. -/
def CitesNumber (interpreter : Interpreter) (reply : Message) (number : Int) : Prop :=
  -- Only the first block of the reply is read.
  ∃ first rest payload, reply.content = first :: rest ∧
    interpreter.loads (stripJsonFences first.text) = .ok payload ∧
      pyInt (payload.get "source_index") = .ok number

/-- An answer that cites the only number it may, without abstaining. -/
def Answer.CitesOnly (answer : Answer) (number : Int) : Prop :=
  answer.abstained = false ∧ answer.sourceIndex.map Subtype.val = some number

/-- An answer made of validated fields cites the given number. -/
theorem citesOnly_of_makeAnswer {text : String} {toolSize torque : Json} {index : Int}
    {confidence : PyFloat}
    (made : makeAnswer interpreter text toolSize torque index confidence = .ok answer) :
    answer.CitesOnly index := by
  -- Every field was accepted, so the answer is the one that cites the index.
  obtain ⟨size, _, made⟩ := bind_eq_ok.mp made
  obtain ⟨strength, _, made⟩ := bind_eq_ok.mp made
  split at made
  · cases made
  · split at made
    · cases made
      exact ⟨rfl, rfl⟩
    · cases made

/-- The answer read from a payload abstains, or cites the candidate the payload numbers. -/
theorem answer_of_payload {payload : Json}
    (read : answerOfPayload interpreter candidates payload = .ok answer) :
    answer = abstain ∨ ∃ number found,
      pyInt (payload.get "source_index") = .ok number ∧
        candidates.find? (fun candidate => candidate.index = number) = some found ∧
          answer.CitesOnly found.index := by
  -- A null index abstains, any other one has to be found among the candidates.
  obtain ⟨⟨text, confidence⟩, _, read⟩ := bind_eq_ok.mp read
  dsimp only at read
  split at read
  · exact Or.inl (pure_eq_ok.mp read).symm
  · obtain ⟨number, cited, read⟩ := bind_eq_ok.mp read
    rw [catching_eq_ok schemaMismatch_ne_ok] at cited
    split at read
    · exact absurd read malformed_ne_ok
    · rename_i found located
      rw [catching_eq_ok malformed_ne_ok] at read
      exact Or.inr ⟨number, found, cited, located, citesOnly_of_makeAnswer read⟩

/-- An answer abstains, or the gate let it pass and it cites the candidate its reply numbers. -/
theorem answer_of_reply {reply : Message}
    (read : parseResponse order interpreter reply candidates query = .ok answer) :
    answer = abstain ∨ isOutOfCorpus order query candidates = false ∧ ∃ number found,
      CitesNumber interpreter reply number ∧
        candidates.find? (fun candidate => candidate.index = number) = some found ∧
          answer.CitesOnly found.index := by
  -- Every exit before the payload is read is an error, apart from the gate.
  unfold parseResponse at read
  split at read
  · cases read
    exact Or.inl rfl
  rename_i passed
  split at read
  · exact absurd read malformed_ne_ok
  split at read
  · exact absurd read malformed_ne_ok
  split at read
  · exact absurd read malformed_ne_ok
  rename_i first rest content
  split at read
  · exact absurd read malformed_ne_ok
  obtain ⟨payload, loaded, read⟩ := bind_eq_ok.mp read
  rw [catching_eq_ok malformed_ne_ok] at loaded
  refine (answer_of_payload read).imp_right ?_
  rintro ⟨number, found, cited, located, only⟩
  exact ⟨Bool.eq_false_iff.mpr passed, number, found,
    ⟨first, rest, payload, content, loaded, cited⟩, located, only⟩

/-- Behind the gate every reply is read as the abstention. -/
theorem parseResponse_of_gate {reply : Message}
    (gate : isOutOfCorpus order query candidates = true) :
    parseResponse order interpreter reply candidates query = .ok abstain := by
  -- The gate stands in front of every check of the reply.
  simp [parseResponse, gate]

variable {extractor : Extractor}

/-- A real extraction of some candidates reads the reply to its request. -/
theorem extract_of_reply {request : List UserBlock} {reply : Message}
    (real : extractor.stub = false) (some : candidates ≠ [])
    (built : buildUserBlocks query candidates = .ok request)
    (replied : extractor.create request = .ok reply) :
    extractor.extract query candidates =
      parseResponse extractor.order extractor.interpreter reply candidates query := by
  -- The empty list is refused, so there is a first candidate.
  cases candidates with
  | nil => exact absurd rfl some
  | cons top rest => simp [Extractor.extract, real, built, replied, bind, Except.bind]

/-- A real extraction succeeds only by reading the reply to its request. -/
theorem reply_of_extract (real : extractor.stub = false)
    (extracted : extractor.extract query candidates = .ok answer) :
    ∃ request reply, buildUserBlocks query candidates = .ok request ∧
      extractor.create request = .ok reply ∧
        parseResponse extractor.order extractor.interpreter reply candidates query =
          .ok answer := by
  -- Neither an empty list nor a failed call ends in an answer.
  cases candidates with
  | nil => exact absurd extracted malformed_ne_ok
  | cons top rest =>
    simp only [Extractor.extract, real, Bool.false_eq_true, if_false] at extracted
    obtain ⟨request, built, read⟩ := bind_eq_ok.mp extracted
    split at read
    · cases read
    · rename_i reply replied
      exact ⟨request, reply, built, replied, read⟩

end Replies

end TorqueFinder
