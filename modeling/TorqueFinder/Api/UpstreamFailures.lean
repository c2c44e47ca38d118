import TorqueFinder.Api.CitationIntegrity
import TorqueFinder.Extraction.UpstreamErrors

/-! What a client and an operator see of a failed upstream call. -/

namespace TorqueFinder

open PyText ExceptFlow

/-- The exceptions handed to the error tracker when an extraction fails. -/
def extractionCaptures : ExtractionFailure → List ExtractionError
  -- Only what an operator must fix is captured.
  | .extraction (.upstreamUnauthorized message status requestId) =>
    [.upstreamUnauthorized message status requestId]
  | _ => []

/-- POST /v1/query, with the exceptions it hands to the error tracker on the way. -/
def queryWithCaptures (services : ApiServices) (body : QueryRequest) :
    List ExtractionError × Except RouteFailure AnswerResponse :=
  match services.search body.toQuery with
  | .error error => ([], .error (retrievalFailure error))
  | .ok retrieved =>
    if retrieved = [] then ([], .error (.http 404 "No matching content found in the index." []))
    else
      match buildCandidates services retrieved with
      | .error failure => ([], .error failure)
      | .ok candidates =>
        match services.extractor.extract body.question candidates with
        -- Only this handler captures anything.
        | .error failure => (extractionCaptures failure, .error (extractionFailure failure))
        | .ok answer =>
          ([], do
            let entries ← responseCandidates services retrieved candidates
            respond services retrieved entries answer)

/-- The captures do not change what the route answers. -/
theorem queryWithCaptures_snd (services : ApiServices) (body : QueryRequest) :
    (queryWithCaptures services body).2 = query services body := by
  -- The route fails at the same place, with the same failure.
  unfold queryWithCaptures query
  cases services.search body.toQuery with
  | error error => rfl
  | ok retrieved =>
    by_cases empty : retrieved = []
    · simp [empty, Except.mapError, bind, Except.bind]
    · cases built : buildCandidates services retrieved with
      | error failure => simp [empty, built, Except.mapError, bind, Except.bind]
      | ok candidates =>
        cases extracted : services.extractor.extract body.question candidates with
        | error failure => simp [empty, built, extracted, Except.mapError, bind, Except.bind]
        | ok answer => simp [empty, built, extracted, Except.mapError, bind, Except.bind]

variable {raises : Option Int → SdkClass → Prop}

/-- The upstream call of a request is made, and it fails. -/
structure CallFails (services : ApiServices) (body : QueryRequest)
    (failure : SdkFailure raises) where
  retrieved : List RetrievedChunk
  candidates : List ExtractionCandidate
  request : List UserBlock
  real : services.extractor.stub = false
  searched : services.search body.toQuery = .ok retrieved
  found : retrieved ≠ []
  built : buildCandidates services retrieved = .ok candidates
  requested : buildUserBlocks body.question candidates = .ok request
  failed : services.extractor.create request = .error failure.toApiError

variable {services : ApiServices} {body : QueryRequest} {failure : SdkFailure raises}

/-- A failed call ends the request with what the classifier makes of it. -/
theorem queryWithCaptures_of_callFails (call : CallFails services body failure) :
    queryWithCaptures services body =
      (extractionCaptures (.extraction (classifyUpstreamError failure.toApiError)),
        .error (extractionFailure (.extraction (classifyUpstreamError failure.toApiError)))) := by
  -- Nothing in front of the call fails, so its failure is the one that is mapped.
  have presented : call.candidates ≠ [] := by
    intro empty
    have lengths := length_of_candidates call.built
    rw [empty] at lengths
    exact call.found (List.length_eq_zero_iff.mp lengths.symm)
  have extracted : services.extractor.extract body.question call.candidates =
      .error (.extraction (classifyUpstreamError failure.toApiError)) := by
    obtain ⟨first, rest, shape⟩ := List.exists_cons_of_ne_nil presented
    have requested := call.requested
    rw [shape] at requested ⊢
    simp [Extractor.extract, call.real, requested, call.failed, bind, Except.bind]
  simp [queryWithCaptures, call.searched, call.found, call.built, extracted]

/-- What should be seen of a failed call, by whether retrying it helps. -/
def FollowsRetryRule (failure : SdkFailure raises)
    (seen : List ExtractionError × Except RouteFailure AnswerResponse) : Prop :=
  -- The three kinds of failure exclude each other.
  (failure.IsTransient →
    seen.1 = [] ∧ failure.retryDelay ≠ "" ∧
      ∃ detail, seen.2 = .error (.http 503 detail [("Retry-After", failure.retryDelay)])) ∧
  (failure.IsOperatorFault →
    seen.1.length = 1 ∧ ∃ detail, seen.2 = .error (.http 503 detail [])) ∧
  (¬ failure.IsTransient → ¬ failure.IsOperatorFault →
    ∃ detail, seen.2 = .error (.http 502 detail []))

/-- Every failed call of the plain client is seen for what it is. -/
theorem followsRetryRule (client : PlainClient raises) (call : CallFails services body failure) :
    FollowsRetryRule failure (queryWithCaptures services body) := by
  -- The three clauses are the three kinds of exception the classifier builds.
  rw [queryWithCaptures_of_callFails call]
  refine ⟨fun transient => ?_, fun fault => ?_, fun lasting ours => ?_⟩
  · obtain ⟨message, status, requestId, retryAfter, classified, delay⟩ :=
      classify_of_transient client transient
    rw [classified]
    refine ⟨rfl, retryDelay_ne_empty failure,
      "Answer service is temporarily unavailable; please retry.", ?_⟩
    rw [← delay]
    rfl
  · obtain ⟨message, status, requestId, classified⟩ := classify_of_operatorFault client fault
    rw [classified]
    exact ⟨rfl, _, rfl⟩
  · obtain ⟨message, classified⟩ := classify_of_neither client lasting ours
    rw [classified]
    exact ⟨_, rfl⟩

/-- A client that raises what the plain one does after a response, or without one. -/
def plainClient : Option Int → SdkClass → Prop
  | none, cls => cls = .apiConnectionError ∨ cls = .apiTimeoutError
  | some status, cls =>
    if let some own := statusClasses.lookup status then cls = own
    -- The server errors without a class of their own share one.
    else if 500 ≤ status then cls = .internalServerError
    else cls = .apiStatusError ∨ cls = .apiResponseValidationError

/-- It tells the statuses apart as the plain client does. -/
theorem plainClient_plain : PlainClient plainClient where
  silent := fun _ raised => raised
  dedicated := fun status own listed cls raised => by
    -- No status has two rows, so the table finds the row that was given.
    have keyed : ∀ row ∈ statusClasses, statusClasses.lookup row.1 = some row.2 := by decide
    have found : statusClasses.lookup status = some own := keyed (status, own) listed
    simpa [plainClient, found] using raised
  server := fun status server loaded cls raised => by
    -- Of the rows only the overload is a server error.
    have shared : statusClasses.lookup status = none := by
      rw [List.lookup_eq_none_iff]
      simp only [statusClasses, List.forall_mem_cons, bne_iff_ne]
      simp only [List.not_mem_nil, false_implies, implies_true, and_true]
      omega
    simpa [plainClient, shared, server] using raised
  other := fun status below shared cls raised => by
    have client : ¬ 500 ≤ status := by omega
    simpa [plainClient, shared, client] using raised

/-- The failure of a call whose server is not available for now. -/
def unavailable : SdkFailure plainClient where
  sdkClass := .internalServerError
  -- The response has no retry delay.
  response := some ⟨503, none⟩
  requestId := some "req"
  message := "Service Unavailable"
  raised := rfl

/-- The failure of a call that was limited. -/
def limited : SdkFailure plainClient where
  sdkClass := .rateLimitError
  response := some ⟨429, some "17"⟩
  requestId := some "req"
  message := "Too Many Requests"
  raised := rfl

/-- A section of a manual that belongs to no module. -/
def pikeTopCap : RetrievedChunk where
  chunkId := 1
  documentId := 1
  sourceType := .html
  documentTitle := "Pike Manual"
  documentSourceUrl := "https://docs.sram.com/pike"
  ordinal := 3
  text := "Torque 7.3 Nm"
  pngR2Key := none
  anchor := none
  parentAnchor := none
  sourceUrl := "https://docs.sram.com/pike"
  score := 1 / 61
  source := .keyword
  productFamily := some "pike"
  brand := none

/-- Services that find this section and whose upstream call fails. -/
def failingServices (failure : SdkFailure plainClient) : ApiServices :=
  -- The section belongs to no module, so no database is asked.
  { pageAndSection with
    search := fun _ => .ok [pikeTopCap]
    extractor := { pageAndSection.extractor with create := fun _ => .error failure.toApiError } }

/-- The section as the extractor sees it. -/
def pikeTopCapSource : ExtractionCandidate where
  index := 1
  sourceType := .html
  label := htmlLabel pikeTopCap.text pikeTopCap
  text := some pikeTopCap.text
  documentTitle := some pikeTopCap.documentTitle

/-- The call of these services is made, and fails. -/
def failingCall (failure : SdkFailure plainClient) :
    CallFails (failingServices failure) topCapQuestion failure where
  retrieved := [pikeTopCap]
  candidates := [pikeTopCapSource]
  request := [.text (sectionText pikeTopCapSource pikeTopCap.text),
    questionBlock topCapQuestion.question]
  real := rfl
  searched := rfl
  found := List.cons_ne_nil _ _
  built := rfl
  requested := rfl
  failed := rfl

/-- A limited call passes its delay on, and an unavailable server is worth a retry too. -/
theorem followsRetryRule_limited :
    (FollowsRetryRule limited (queryWithCaptures (failingServices limited) topCapQuestion) ∧
      queryWithCaptures (failingServices limited) topCapQuestion =
        ([], .error (.http 503 "Answer service is temporarily unavailable; please retry."
          [("Retry-After", "17")]))) ∧
    (FollowsRetryRule unavailable
        (queryWithCaptures (failingServices unavailable) topCapQuestion) ∧
      queryWithCaptures (failingServices unavailable) topCapQuestion =
        ([], .error (.http 503 "Answer service is temporarily unavailable; please retry."
          [("Retry-After", defaultRetryAfterSeconds)]))) :=
  ⟨⟨followsRetryRule plainClient_plain (failingCall limited), rfl⟩,
    ⟨followsRetryRule plainClient_plain (failingCall unavailable), rfl⟩⟩

end TorqueFinder
