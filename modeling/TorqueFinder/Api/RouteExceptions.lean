import TorqueFinder.Api.QueryLaws

/-! The query route over collaborators that may raise any domain or HTTP client exception. -/

namespace TorqueFinder

open ExceptFlow

/-- An exception a collaborator of the route raises. -/
inductive Raised where
  /-- The ingestion family, which the asset client raises too. -/
  | ingestion (error : IngestionError)
  | retrieval (error : RetrievalError)
  | extraction (error : ExtractionError)
  | discovery (error : DiscoveryError)
  /-- A failure of the HTTP client. -/
  | httpx
  /-- An exception of neither family. -/
  | other

/-- The exceptions of the domain and of the HTTP client, which the client should see mapped. -/
def Raised.IsExpected : Raised → Prop
  | .other => False
  | _ => True

/-- An HTTP exception the route raises. -/
structure HttpException where
  status : Nat
  detail : String
  headers : List (String × String)
  deriving DecidableEq

/-- How the route is left without a response. -/
inductive Exit where
  | http (exception : HttpException)
  /-- An exception no handler of the route names. -/
  | unhandled (exception : Raised)

/-- What the route calls, each call returning or raising. -/
structure Collaborators where
  search : Query → Except Raised (List RetrievedChunk)
  fetchModuleText : Int → String → Except Raised String
  extract : String → List ExtractionCandidate → Except Raised Answer
  publicUrl : String → Except Raised String
  generatePresignedUrl : String → Nat → Except Raised String
  httpGet : String → Except Raised (List UInt8)

/-- Run the body of a try statement, whose handlers turn some exceptions into HTTP ones. -/
def handling {α : Type} (handler : Raised → Option HttpException) (attempt : Except Raised α) :
    Except Exit α :=
  attempt.mapError fun exception =>
    -- An exception that no handler names travels on.
    match handler exception with
    | some http => .http http
    | none => .unhandled exception

/-- Run a call outside of any try statement. -/
def unguarded {α : Type} (attempt : Except Raised α) : Except Exit α :=
  handling (fun _ => none) attempt

/-- The handler around the search. -/
def searchHandler : Raised → Option HttpException
  | .retrieval error => some ⟨503, "Retrieval failed: " ++ error.message, []⟩
  -- Other exceptions pass through the handler.
  | _ => none

/-- The handler around fetching a page image. -/
def imageHandler : Raised → Option HttpException
  | .httpx => some ⟨502, "Asset store fetch failed.", []⟩
  -- An exception of signing is none of the HTTP client.
  | _ => none

/-- The handlers around the extraction, from the most to the least specific. -/
def extractionHandler : Raised → Option HttpException
  | .extraction (.upstreamUnavailable _ _ _ retryAfter) =>
    -- An empty delay counts as none.
    let delay := (retryAfter.filter (· ≠ "")).getD defaultRetryAfter
    some ⟨503, "Answer service is temporarily unavailable; please retry.",
      [("Retry-After", delay)]⟩
  | .extraction (.upstreamUnauthorized _ _ _) =>
    some ⟨503, "Answer service is temporarily unavailable.", []⟩
  | .extraction (.malformed message) => some ⟨502, "Extraction failed: " ++ message, []⟩
  | _ => none

namespace Collaborators

variable (collaborators : Collaborators)

/-- The whole module that owns a hit, or the hit's own text when there is no module. -/
def moduleText (hit : RetrievedChunk) : Except Exit String :=
  match hit.parentAnchor with
  | none => .ok hit.text
  | some parentAnchor => do
    -- The query runs outside every handler of the route.
    let text ← unguarded (collaborators.fetchModuleText hit.documentId parentAnchor)
    return if text = "" then hit.text else text

/-- The public URL of a key, or a presigned one whatever the reason for having none. -/
def resolveUrl (key : String) : Except Exit String :=
  match collaborators.publicUrl key with
  | .ok url => .ok url
  -- The fallback to a signed link is outside every handler as well.
  | .error _ => unguarded (collaborators.generatePresignedUrl key presignTtlSeconds)

/-- The bytes of a page image, read through a short-lived signed URL. -/
def fetchPng (key : String) : Except Raised (List UInt8) := do
  -- The image is fetched through a link of five minutes.
  let url ← collaborators.generatePresignedUrl key 300
  collaborators.httpGet url

/-- The links of one hit. -/
def sourceLinks (hit : RetrievedChunk) : Except Exit (String × Option String) :=
  match hit.sourceType with
  | .html => .ok (hit.sourceUrl, none)
  | .pdf => do
    let pdfUrl ← collaborators.resolveUrl hit.documentSourceUrl
    -- A page without an image key keeps the link into its document.
    let screenshot ← (match hit.pngR2Key with
      | none => .ok none
      | some key => if key = "" then .ok none else some <$> collaborators.resolveUrl key)
    return (pdfUrl ++ "#page=" ++ toString hit.ordinal, screenshot)

/-- The link of a page that has no image: its document. -/
def docLevelLinks (hit : RetrievedChunk) : Except Exit (String × Option String) := do
  -- The document has a link of its own, and no image.
  let url ← collaborators.resolveUrl hit.documentSourceUrl
  return (url, none)

/-- The candidate that presents one hit under a number. -/
def candidateOf (hit : RetrievedChunk) (index : Nat) : Except Exit ExtractionCandidate :=
  match hit.sourceType with
  | .pdf =>
    match hit.pngR2Key with
    | none =>
      .error (.http ⟨500,
        "PDF chunk " ++ toString hit.chunkId ++ " is missing its page PNG key.", []⟩)
    | some key => do
      -- Signing and downloading share one try statement.
      let png ← handling imageHandler (collaborators.fetchPng key)
      return { index, sourceType := .pdf, label := pdfLabel hit, pngBytes := some png
               documentTitle := some hit.documentTitle }
  | .html => do
    let moduleText ← collaborators.moduleText hit
    return { index, sourceType := .html, label := htmlLabel moduleText hit, text := some moduleText
             documentTitle := some hit.documentTitle }

/-- The entry of one hit in the response. -/
def responseCandidate (hit : RetrievedChunk) (candidate : ExtractionCandidate) :
    Except Exit Candidate := do
  let (sourceUrl, screenshotUrl) ← collaborators.sourceLinks hit
  return { sourceType := hit.sourceType.value, label := candidate.label, score := hit.score
           sourceUrl, screenshotUrl }

/-- The candidates of all hits, numbered from one in order. -/
def buildCandidates (retrieved : List RetrievedChunk) : Except Exit (List ExtractionCandidate) :=
  (retrieved.zipIdx 1).mapM fun (hit, index) => collaborators.candidateOf hit index

/-- The entries of all hits, each paired with its candidate. -/
def responseCandidates (retrieved : List RetrievedChunk) (candidates : List ExtractionCandidate) :
    Except Exit (List Candidate) :=
  -- The hits and their candidates are in the same order, and equally many.
  (retrieved.zip candidates).mapM fun (hit, candidate) =>
    collaborators.responseCandidate hit candidate

/-- The response to an answer about the retrieved hits. -/
def respond (retrieved : List RetrievedChunk) (entries : List Candidate) (answer : Answer) :
    Except Exit AnswerResponse :=
  match answer.abstained, answer.sourceIndex with
  | false, some index =>
    match retrieved[(index.val - 1).toNat]?, entries[(index.val - 1).toNat]? with
    | some chosen, some chosenCandidate => do
      let links ←
        (if chosen.sourceType = .pdf ∧ chosen.pngR2Key = none then
          collaborators.docLevelLinks chosen
        else .ok (chosenCandidate.sourceUrl, chosenCandidate.screenshotUrl))
      return citedResponse answer chosen links entries
    -- A number without a hit is an index error of the route itself.
    | _, _ => .error (.unhandled .other)
  | _, _ => .ok (abstainedResponse answer entries)

/-- POST /v1/query, over collaborators that may raise. -/
def query (body : QueryRequest) : Except Exit AnswerResponse := do
  let retrieved ← handling searchHandler (collaborators.search body.toQuery)
  -- An empty search is answered before anything is fetched.
  if retrieved = [] then .error (.http ⟨404, "No matching content found in the index.", []⟩)
  else
    let candidates ← collaborators.buildCandidates retrieved
    let answer ← handling extractionHandler (collaborators.extract body.question candidates)
    -- The links are only resolved once the model has answered.
    let entries ← collaborators.responseCandidates retrieved candidates
    collaborators.respond retrieved entries answer

end Collaborators

section Refinement

/-- The services of the route, with the exceptions their failures stand for. -/
def ApiServices.collaborators (services : ApiServices) : Collaborators where
  search question := (services.search question).mapError .retrieval
  fetchModuleText documentId anchor :=
    -- An exception of the database driver is none the route knows.
    (services.fetchModuleText documentId anchor).mapError fun _ => .other
  extract question candidates :=
    (services.extractor.extract question candidates).mapError fun
      | .extraction error => .extraction error
      | .uncaught _ => .other
  -- The asset client raises the error class of the ingestion.
  publicUrl key := (services.r2.publicUrl key).mapError fun error => .ingestion ⟨error.message⟩
  generatePresignedUrl key seconds :=
    (services.r2.generatePresignedUrl key seconds).mapError fun error => .ingestion ⟨error.message⟩
  httpGet url := (services.httpGet url).mapError fun
    | .http => .httpx
    | .other => .other

/-- How an exit of the route looks from outside. -/
def Exit.toFailure : Exit → RouteFailure
  | .http exception => .http exception.status exception.detail exception.headers
  -- A client sees no difference between the exceptions that are not handled.
  | .unhandled _ => .uncaught

variable (services : ApiServices)

/-- Signing a link fails the same way over the services and over their exceptions. -/
theorem resolveUrl_collaborators (key : String) :
    (services.collaborators.resolveUrl key).mapError Exit.toFailure = resolveUrl services key := by
  simp only [Collaborators.resolveUrl, resolveUrl, ApiServices.collaborators]
  -- A public URL ends the search, and otherwise the signing decides.
  cases services.r2.publicUrl key with
  | ok url => rfl
  | error missing => cases services.r2.generatePresignedUrl key presignTtlSeconds <;> rfl

/-- A hit is presented the same way over the services and over their exceptions. -/
theorem candidateOf_collaborators (hit : RetrievedChunk) (index : Nat) :
    (services.collaborators.candidateOf hit index).mapError Exit.toFailure =
      candidateOf services hit index := by
  simp only [Collaborators.candidateOf, candidateOf]
  cases hit.sourceType with
  | pdf =>
    cases hit.pngR2Key with
    | none => rfl
    | some key =>
      have fetched : (handling imageHandler (services.collaborators.fetchPng key)).mapError
          Exit.toFailure = fetchPng services key := by
        simp only [Collaborators.fetchPng, fetchPng, ApiServices.collaborators]
        -- Only a failure of the HTTP client is answered.
        cases services.r2.generatePresignedUrl key 300 with
        | error unsigned => rfl
        | ok url =>
          cases got : services.httpGet url with
          | ok png => simp [Except.mapError, handling, uncaughtBy, got]
          | error failure => cases failure <;>
              simp [Except.mapError, handling, uncaughtBy, got, imageHandler, Exit.toFailure]
      simp only [mapError_bind, fetched]
      rfl
  | html =>
    -- The text of a module comes from the database alone.
    have read : (services.collaborators.moduleText hit).mapError Exit.toFailure =
        moduleText services hit := by
      simp only [Collaborators.moduleText, moduleText, ApiServices.collaborators]
      cases hit.parentAnchor with
      | none => rfl
      | some anchor =>
        dsimp only
        cases services.fetchModuleText hit.documentId anchor <;> rfl
    simp only [mapError_bind, read]
    rfl

/-- A hit is linked the same way over the services and over their exceptions. -/
theorem sourceLinks_collaborators (hit : RetrievedChunk) :
    (services.collaborators.sourceLinks hit).mapError Exit.toFailure =
      sourceLinks services hit := by
  simp only [Collaborators.sourceLinks, sourceLinks]
  cases hit.sourceType with
  | html => rfl
  | pdf =>
    simp only [mapError_bind, resolveUrl_collaborators]
    refine bind_congr fun document => ?_
    -- The screenshot is linked when the page has a key that is not empty.
    cases hit.pngR2Key with
    | none => rfl
    | some key =>
      dsimp only
      split
      · rfl
      · rw [mapError_map, resolveUrl_collaborators]
        rfl

/-- An answer is responded to the same way over the services and over their exceptions. -/
theorem respond_collaborators (retrieved : List RetrievedChunk) (entries : List Candidate)
    (answer : Answer) :
    (services.collaborators.respond retrieved entries answer).mapError Exit.toFailure =
      respond services retrieved entries answer := by
  simp only [Collaborators.respond, respond]
  cases answer.abstained with
  | true => rfl
  | false =>
    cases answer.sourceIndex with
    | none => rfl
    | some index =>
      dsimp only
      cases retrieved[(index.val - 1).toNat]? with
      | none => rfl
      | some chosen =>
        cases entries[(index.val - 1).toNat]? with
        | none => rfl
        | some entry =>
          dsimp only
          rw [mapError_bind]
          -- Only a page without an image is linked anew, as a whole document.
          by_cases bare : chosen.sourceType = .pdf ∧ chosen.pngR2Key = none
          · rw [if_pos bare, if_pos bare, Collaborators.docLevelLinks, docLevelLinks, mapError_bind,
              resolveUrl_collaborators]
            rfl
          · rw [if_neg bare, if_neg bare]
            rfl

/-- The route over the services is the route over the exceptions their failures stand for. -/
theorem query_collaborators (body : QueryRequest) :
    (services.collaborators.query body).mapError Exit.toFailure = query services body := by
  have searched : (handling searchHandler (services.collaborators.search body.toQuery)).mapError
      Exit.toFailure = (services.search body.toQuery).mapError retrievalFailure := by
    simp only [ApiServices.collaborators]
    cases services.search body.toQuery <;> rfl
  -- The handler lists the errors of the extraction one by one.
  have extracted : ∀ candidates,
      (handling extractionHandler
        (services.collaborators.extract body.question candidates)).mapError Exit.toFailure =
      (services.extractor.extract body.question candidates).mapError extractionFailure := by
    intro candidates
    simp only [ApiServices.collaborators]
    cases services.extractor.extract body.question candidates with
    | ok answer => rfl
    | error failure =>
      cases failure with
      | extraction error => cases error <;> rfl
      | uncaught exception => rfl
  -- The candidates are built one after another on both sides.
  have built : ∀ retrieved,
      (services.collaborators.buildCandidates retrieved).mapError Exit.toFailure =
        buildCandidates services retrieved := by
    intro retrieved
    simp only [Collaborators.buildCandidates, buildCandidates, mapError_mapM,
      candidateOf_collaborators]
  have linked : ∀ retrieved candidates,
      (services.collaborators.responseCandidates retrieved candidates).mapError Exit.toFailure =
        responseCandidates services retrieved candidates := by
    intro retrieved candidates
    simp only [Collaborators.responseCandidates, responseCandidates, mapError_mapM,
      Collaborators.responseCandidate, responseCandidate, mapError_bind, sourceLinks_collaborators]
    rfl
  -- The route is the same sequence of steps on both sides.
  simp only [Collaborators.query, query, mapError_bind, searched]
  refine bind_congr fun retrieved => ?_
  split
  · rfl
  · simp only [mapError_bind, built, extracted, linked, respond_collaborators]

end Refinement

end TorqueFinder
