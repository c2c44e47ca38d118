import TorqueFinder.Extraction.ClaudeClient
import TorqueFinder.Retrieval.HybridSearch

/-! The query route: retrieve, present every hit under its number, extract, and cite. -/

namespace TorqueFinder

open PyText

/-- A failed asset operation. -/
structure AssetError where
  message : String
  deriving DecidableEq

/-- The asset store, as far as links and downloads need it. -/
structure R2Client where
  /-- The configured public base URL, when there is one. -/
  publicBaseUrl : Option String
  /-- The presigned URL of a key for a number of seconds. -/
  generatePresignedUrl : String → Nat → Except AssetError String
  /-- The store refuses to sign an empty key. -/
  presign_empty : ∀ seconds, ∃ error, generatePresignedUrl "" seconds = .error error

/-- The stable public URL of a key, when a base URL is configured. -/
def R2Client.publicUrl (r2 : R2Client) (key : String) : Except AssetError String :=
  let missing : AssetError :=
    { message := "R2_PUBLIC_BASE_URL is not configured; " ++
        "use `await generate_presigned_url(key)` for a signed URL instead." }
  match r2.publicBaseUrl with
  | none => .error missing
  | some base =>
    -- An empty base URL is not configured either.
    if base = "" then .error missing
    else .ok (rstripChar '/' base ++ "/" ++ lstripChar '/' key)

/-- How long links stay valid. -/
def presignTtlSeconds : Nat := 60 * 60

/-- The most characters of a section label. -/
def labelMaxChars : Nat := 80

/-- The retry delay sent when the upstream gave none. -/
def defaultRetryAfter : String := "5"

/-- How a download fails. -/
inductive DownloadError where
  /-- A failure of the HTTP client the route knows. -/
  | http
  /-- Any other exception. -/
  | other
  deriving DecidableEq

/-- A validated request. -/
structure QueryRequest where
  question : String
  topK : Nat := 5
  question_nonempty : 1 ≤ question.length := by decide
  question_bounded : question.length ≤ 2000 := by decide
  topK_positive : 1 ≤ topK := by decide
  topK_bounded : topK ≤ 10 := by decide

/-- The domain question of a request. -/
def QueryRequest.toQuery (body : QueryRequest) : Query :=
  -- The checks of the request are those of the question.
  ⟨body.question, body.topK, body.question_nonempty, body.question_bounded, body.topK_positive,
    body.topK_bounded⟩

/-- What the route is wired to. -/
structure ApiServices where
  search : Query → Except RetrievalError (List RetrievedChunk)
  /-- The text of a module's chunks, or nothing when it has none. -/
  fetchModuleText : Int → String → Except DatabaseError String
  extractor : Extractor
  r2 : R2Client
  /-- The body of a URL. -/
  httpGet : String → Except DownloadError (List UInt8)

/-- How a request ends without an answer. -/
inductive RouteFailure where
  /-- An HTTP error with its detail and extra headers. -/
  | http (status : Nat) (detail : String) (headers : List (String × String))
  /-- An exception that reaches the server. -/
  | uncaught
  deriving DecidableEq

/-- A retrieval hit as the response shows it. -/
structure Candidate where
  sourceType : String
  label : String
  score : ℚ
  sourceUrl : String
  screenshotUrl : Option String
  deriving DecidableEq

/-- The body of a 200 response. -/
structure AnswerResponse where
  answer : String
  toolSize : Option String
  torque : Option String
  confidence : Confidence
  abstained : Bool
  sourceType : Option String
  sourceUrl : Option String
  screenshotUrl : Option String
  candidates : List Candidate
  deriving DecidableEq

/-- An exception the route does not handle. -/
def uncaughtBy {ε α : Type*} : Except ε α → Except RouteFailure α
  | .ok value => .ok value
  -- No handler of the route names the exception.
  | .error _ => .error .uncaught

/-- The label of a page. -/
def pdfLabel (hit : RetrievedChunk) : String :=
  "p. " ++ toString hit.ordinal ++ " of " ++ hit.documentTitle

/-- The label of a section: the first line of its module, else the title of its document. -/
def htmlLabel (moduleText : String) (hit : RetrievedChunk) : String :=
  -- A module without a first line is labelled by its document.
  let firstLine := strip (String.ofList ((strip moduleText).toList.takeWhile (· ≠ '\n')))
  let label := if firstLine = "" then hit.documentTitle else firstLine
  String.ofList (label.toList.take labelMaxChars)

/-- The whole module that owns a hit, or the hit's own text when there is no module. -/
def moduleText (services : ApiServices) (hit : RetrievedChunk) : Except RouteFailure String :=
  match hit.parentAnchor with
  | none => .ok hit.text
  | some parentAnchor => do
    let text ← uncaughtBy (services.fetchModuleText hit.documentId parentAnchor)
    -- A module without chunks falls back to the hit itself.
    return if text = "" then hit.text else text

/-- The public URL of a key when one is configured, else a presigned URL. -/
def resolveUrl (services : ApiServices) (key : String) : Except RouteFailure String :=
  match services.r2.publicUrl key with
  | .ok url => .ok url
  -- Without a public base URL the link is signed.
  | .error _ => uncaughtBy (services.r2.generatePresignedUrl key presignTtlSeconds)

/-- The bytes of a page image. -/
def fetchPng (services : ApiServices) (key : String) : Except RouteFailure (List UInt8) := do
  -- The server reads the image through a signed URL of its own.
  let url ← uncaughtBy (services.r2.generatePresignedUrl key 300)
  match services.httpGet url with
  | .ok png => .ok png
  | .error .http => .error (.http 502 "Asset store fetch failed." [])
  | .error .other => .error .uncaught

/-- The links of one hit. -/
def sourceLinks (services : ApiServices) (hit : RetrievedChunk) :
    Except RouteFailure (String × Option String) :=
  match hit.sourceType with
  | .html => .ok (hit.sourceUrl, none)
  | .pdf => do
    let pdfUrl ← resolveUrl services hit.documentSourceUrl
    -- An empty key counts as no key.
    let screenshot ← (match hit.pngR2Key with
      | none => .ok none
      | some key => if key = "" then .ok none else some <$> resolveUrl services key)
    return (pdfUrl ++ "#page=" ++ toString hit.ordinal, screenshot)

/-- The link of a page that has no image: its document. -/
def docLevelLinks (services : ApiServices) (hit : RetrievedChunk) :
    Except RouteFailure (String × Option String) := do
  -- The document has a link of its own, and no image.
  let url ← resolveUrl services hit.documentSourceUrl
  return (url, none)

/-- The candidate that presents one hit under a number. -/
def candidateOf (services : ApiServices) (hit : RetrievedChunk) (index : Nat) :
    Except RouteFailure ExtractionCandidate :=
  match hit.sourceType with
  | .pdf =>
    match hit.pngR2Key with
    | none =>
      .error (.http 500
        ("PDF chunk " ++ toString hit.chunkId ++ " is missing its page PNG key.") [])
    -- The image itself goes to the model, so it is fetched here.
    | some key => do
      let png ← fetchPng services key
      return { index, sourceType := .pdf, label := pdfLabel hit, pngBytes := some png
               documentTitle := some hit.documentTitle }
  -- A section is shown with the whole module around it.
  | .html => do
    let moduleText ← moduleText services hit
    return { index, sourceType := .html, label := htmlLabel moduleText hit, text := some moduleText
             documentTitle := some hit.documentTitle }

/-- The candidates of all hits, numbered from one in order. -/
def buildCandidates (services : ApiServices) (retrieved : List RetrievedChunk) :
    Except RouteFailure (List ExtractionCandidate) :=
  -- The numbers are places counted from one.
  (retrieved.zipIdx 1).mapM fun (hit, index) => candidateOf services hit index

/-- The HTTP error a failed retrieval becomes. -/
def retrievalFailure (error : RetrievalError) : RouteFailure :=
  .http 503 ("Retrieval failed: " ++ error.message) []

/-- The HTTP error an extraction failure becomes. -/
def extractionFailure : ExtractionFailure → RouteFailure
  -- An empty delay counts as none.
  | .extraction (.upstreamUnavailable _ _ _ retryAfter) =>
    let delay := (retryAfter.filter (· ≠ "")).getD defaultRetryAfter
    .http 503 "Answer service is temporarily unavailable; please retry." [("Retry-After", delay)]
  | .extraction (.upstreamUnauthorized _ _ _) =>
    .http 503 "Answer service is temporarily unavailable." []
  | .extraction (.malformed message) => .http 502 ("Extraction failed: " ++ message) []
  | .uncaught _ => .uncaught

/-- The entry of one hit in the response. -/
def responseCandidate (services : ApiServices) (hit : RetrievedChunk)
    (candidate : ExtractionCandidate) : Except RouteFailure Candidate := do
  let (sourceUrl, screenshotUrl) ← sourceLinks services hit
  return { sourceType := hit.sourceType.value, label := candidate.label, score := hit.score
           sourceUrl, screenshotUrl }

/-- The entries of all hits, each paired with its candidate. -/
def responseCandidates (services : ApiServices) (retrieved : List RetrievedChunk)
    (candidates : List ExtractionCandidate) : Except RouteFailure (List Candidate) :=
  -- The hits and their candidates are in the same order, and equally many.
  (retrieved.zip candidates).mapM fun (hit, candidate) => responseCandidate services hit candidate

/-- The response to an abstention, which promotes no link. -/
def abstainedResponse (answer : Answer) (candidates : List Candidate) : AnswerResponse where
  answer := answer.text
  toolSize := answer.toolSize
  torque := answer.torque
  confidence := answer.confidence
  abstained := true
  -- An abstention promotes no source.
  sourceType := none
  sourceUrl := none
  screenshotUrl := none
  candidates := candidates

/-- The response that cites a hit with its links. -/
def citedResponse (answer : Answer) (chosen : RetrievedChunk) (links : String × Option String)
    (candidates : List Candidate) : AnswerResponse where
  answer := answer.text
  toolSize := answer.toolSize
  torque := answer.torque
  confidence := answer.confidence
  abstained := false
  -- The links are those of the cited hit.
  sourceType := some chosen.sourceType.value
  sourceUrl := some links.1
  screenshotUrl := links.2
  candidates := candidates

/-- The response to an answer about the retrieved hits. -/
def respond (services : ApiServices) (retrieved : List RetrievedChunk) (entries : List Candidate)
    (answer : Answer) : Except RouteFailure AnswerResponse :=
  match answer.abstained, answer.sourceIndex with
  | false, some index =>
    -- The cited number is turned back into a place.
    match retrieved[(index.val - 1).toNat]?, entries[(index.val - 1).toNat]? with
    | some chosen, some chosenCandidate => do
      let links ←
        (if chosen.sourceType = .pdf ∧ chosen.pngR2Key = none then docLevelLinks services chosen
        else .ok (chosenCandidate.sourceUrl, chosenCandidate.screenshotUrl))
      return citedResponse answer chosen links entries
    | _, _ => .error .uncaught
  | _, _ => .ok (abstainedResponse answer entries)

/-- POST /v1/query. -/
def query (services : ApiServices) (body : QueryRequest) : Except RouteFailure AnswerResponse := do
  let retrieved ← (services.search body.toQuery).mapError retrievalFailure
  if retrieved = [] then .error (.http 404 "No matching content found in the index." [])
  else
    let candidates ← buildCandidates services retrieved
    let answer ← (services.extractor.extract body.question candidates).mapError extractionFailure
    -- The links are resolved for every hit, whether or not it is cited.
    let entries ← responseCandidates services retrieved candidates
    respond services retrieved entries answer

end TorqueFinder
