import TorqueFinder.Domain.Errors
import TorqueFinder.Lib.Base64
import TorqueFinder.Lib.Json
import TorqueFinder.Retrieval.ProductMatch

/-! The extractor: numbered sources and a question go to the model, its reply becomes an answer. -/

namespace TorqueFinder

open PyText PyJson

/-- The confidence of an abstention. -/
def abstainConfidenceCeiling : Confidence := ⟨0.3, by norm_num⟩

/-- The text of an abstention. -/
def abstainText : String :=
  -- The answer names the brands of the corpus.
  "I don't have a manual for that product in the corpus, so I can't give a " ++
    "torque or tool size for it. Try the exact manufacturer and model as named " ++
    "in a SRAM, RockShox, Avid, Zipp, or Quarq service manual."

/-- What marks a rejected request as a billing failure. -/
def creditBalanceMarker : String := "credit balance is too low"

/-- The retry delay advertised when the upstream gave none. -/
def defaultRetryAfterSeconds : String := "5"

/-- One numbered source: a page image or a section text. -/
structure ExtractionCandidate where
  /-- The one-based number the model cites. -/
  index : Int
  sourceType : SourceType
  label : String
  pngBytes : Option (List UInt8) := none
  text : Option String := none
  documentTitle : Option String := none
  deriving DecidableEq

/-- A block of the message sent to the model. -/
inductive UserBlock where
  /-- An inline image in base64. -/
  | image (mediaType data : String)
  /-- Text. -/
  | text (text : String)
  deriving DecidableEq

/-- A block of the model's reply. -/
structure ContentBlock where
  type : String
  text : String
  deriving DecidableEq

/-- The model's reply. -/
structure Message where
  stopReason : Option String
  content : List ContentBlock
  deriving DecidableEq

/-- The classes of a failed upstream call that are told apart. -/
inductive ApiErrorClass where
  | overloaded
  | rateLimit
  /-- No response arrived: a failed connection or a timeout. -/
  | connection
  | authentication
  | permissionDenied
  | requestTooLarge
  | badRequest
  | internalServer
  | other
  deriving DecidableEq

/-- A failed upstream call. -/
structure ApiError where
  errorClass : ApiErrorClass
  /-- The name of the exact exception type. -/
  typeName : String
  statusCode : Option Int
  requestId : Option String
  /-- The retry delay header of the response, when there is one. -/
  retryAfterHeader : Option String
  message : String
  deriving DecidableEq

/-- How a call of the extractor ends without an answer. -/
inductive ExtractionFailure where
  /-- The domain error callers expect. -/
  | extraction (error : ExtractionError)
  /-- An exception that no handler of the extractor names. -/
  | uncaught (exception : PyException)
  deriving DecidableEq

/-- An unusable reply, with its message. -/
def malformed {α : Type*} (message : String) : Except ExtractionFailure α :=
  .error (.extraction (.malformed message))

/-- Drop everything up to and including the first newline, or nothing when there is none. -/
def afterFirstNewline (text : List Char) : List Char :=
  if '\n' ∈ text then (text.dropWhile (· ≠ '\n')).tail else text

/-- Drop a code fence around the reply. -/
def stripJsonFences (text : String) : String :=
  let stripped := (strip text).toList
  let fence := "```".toList
  -- The opening fence goes with its whole line, the closing one only at the very end.
  let unfenced :=
    if fence.isPrefixOf stripped then
      let opened := afterFirstNewline stripped
      if fence.isSuffixOf opened then opened.take (opened.length - fence.length) else opened
    else stripped
  strip (String.ofList unfenced)

/-- The text that introduces a page image under its number. -/
def pageMarker (candidate : ExtractionCandidate) : String :=
  "Above is source " ++ toString candidate.index ++ ": " ++ candidate.label ++ "."

/-- The text of a section under its number. -/
def sectionText (candidate : ExtractionCandidate) (text : String) : String :=
  "Source " ++ toString candidate.index ++ ": " ++ candidate.label ++ "\n---\n" ++ text ++ "\n---"

/-- The blocks that present one candidate. -/
def candidateBlocks (candidate : ExtractionCandidate) : Except ExtractionFailure (List UserBlock) :=
  match candidate.sourceType with
  | .pdf =>
    match candidate.pngBytes with
    | none => malformed ("PDF candidate " ++ toString candidate.index ++ " is missing png_bytes")
    -- The number of an image stands in the text behind it.
    | some png => .ok [.image "image/png" (Base64.encode png), .text (pageMarker candidate)]
  | .html =>
    match candidate.text with
    | none => malformed ("HTML candidate " ++ toString candidate.index ++ " is missing text")
    | some text => .ok [.text (sectionText candidate text)]

/-- The block that asks the question. -/
def questionBlock (query : String) : UserBlock :=
  -- The question stands after all sources, in a block of its own.
  .text ("Question: " ++ query ++ "\n\n" ++
    "Answer the question using only these sources. First " ++
    "identify the asked fastener, then its torque, then every " ++
    "tool/driver whose size is explicitly stated for it — put " ++
    "any stated tool size in the tool_size field (leave it null " ++
    "only if no size is stated). " ++
    "Reply ONLY with JSON matching the schema.")

/-- The message sent to the model: every candidate in order, then the question. -/
def buildUserBlocks (query : String) (candidates : List ExtractionCandidate) :
    Except ExtractionFailure (List UserBlock) := do
  -- One candidate that cannot be read fails the whole request.
  let blocks ← candidates.mapM candidateBlocks
  return blocks.flatten ++ [questionBlock query]

/-- The product scope of a candidate's title, where a missing or empty title names nothing. -/
def candidateScope (order : SetOrder) (candidate : ExtractionCandidate) : ProductScope :=
  -- An empty title is falsy in Python, like a missing one.
  match candidate.documentTitle with
  | none => {}
  | some title => if title = "" then {} else normalizeProduct order title

/-- The gate: the question names a product and no candidate's title matches it. -/
def isOutOfCorpus (order : SetOrder) (query : String) (candidates : List ExtractionCandidate) :
    Bool :=
  let asked := extractQueryScope order query
  if !asked.isIdentified then false
  -- One candidate that matches lets the question pass.
  else candidates.all fun candidate => !scopeMatches asked (candidateScope order candidate)

/-- The answer of an abstention, which cites no source. -/
def abstain : Answer where
  -- An abstention has a low confidence and cites no source.
  text := abstainText
  confidence := abstainConfidenceCeiling
  abstained := true

/-- A reply whose JSON does not match the schema. -/
def schemaMismatch {α : Type*} : Except ExtractionFailure α :=
  malformed "Claude response JSON did not match the expected schema"

/-- Turn the named exceptions into a failed extraction and let the others through. -/
def catching {α : Type*} (named : List PyException) (failure : Except ExtractionFailure α) :
    Except PyException α → Except ExtractionFailure α
  -- An exception that the except clause does not name passes through.
  | .ok value => .ok value
  | .error exception => if exception ∈ named then failure else .error (.uncaught exception)

/-- A float the answer accepts as confidence. -/
def validConfidence : PyFloat → Option Confidence
  -- NaN and the infinities fail the check of the field.
  | .finite value => if valid : 0 ≤ value ∧ value ≤ 1 then some ⟨value, valid⟩ else none
  | _ => none

/-- The text of an optional field, where null stays absent. -/
def optionalText (interpreter : Interpreter) : Json → Except PyException (Option String)
  -- Null stays null, and everything else is written by str.
  | .null => .ok none
  | value => (interpreter.str value).map some

/-- The answer made of validated fields. -/
def makeAnswer (interpreter : Interpreter) (text : String) (toolSize torque : Json)
    (index : Int) (confidence : PyFloat) : Except PyException Answer := do
  let toolSize ← optionalText interpreter toolSize
  let torque ← optionalText interpreter torque
  match validConfidence confidence with
  | none => .error .valueError
  | some confidence =>
    -- The answer only accepts a positive number.
    if positive : 1 ≤ index then
      .ok { text, toolSize, torque, sourceIndex := some ⟨index, positive⟩, confidence }
    else .error .valueError

/-- Read the payload of a reply as an answer about one of the candidates. -/
def answerOfPayload (interpreter : Interpreter) (candidates : List ExtractionCandidate)
    (payload : Json) : Except ExtractionFailure Answer := do
  let (answerText, confidence) ← catching [.keyError, .typeError, .valueError] schemaMismatch do
    let answer ← payload.subscript "answer"
    let answerText ← interpreter.str answer
    let strength ← payload.subscript "confidence"
    let confidence ← interpreter.float strength
    return (answerText, confidence)
  let toolSize := payload.get "tool_size"
  let torque := payload.get "torque"
  match payload.get "source_index" with
  -- The model found no answering source, and none is promoted in its place.
  | .null => return abstain
  | rawIndex =>
    let sourceIndex ← catching [.typeError, .valueError] schemaMismatch (pyInt rawIndex)
    -- A number that was not shown is refused, not mapped to some other source.
    match candidates.find? fun candidate => candidate.index = sourceIndex with
    | none =>
      malformed ("Claude cited source_index=" ++ toString sourceIndex ++ ", which was not " ++
        "among the supplied candidates")
    | some found =>
      catching [.valueError, .typeError] (malformed "Claude response failed Answer validation")
        (makeAnswer interpreter answerText toolSize torque found.index confidence)

/-- Read a reply: the gate first, then the ways a reply can be unusable, then its payload. -/
def parseResponse (order : SetOrder) (interpreter : Interpreter) (response : Message)
    (candidates : List ExtractionCandidate) (query : String) : Except ExtractionFailure Answer :=
  -- The gate looks at the titles alone, before anything the model said.
  if isOutOfCorpus order query candidates then .ok abstain
  else if response.stopReason = some "max_tokens" then
    malformed ("Claude response was truncated (stop_reason=max_tokens); " ++
      "the JSON answer did not fit in max_tokens")
  else if response.stopReason = some "refusal" then
    malformed "Claude declined to answer (stop_reason=refusal)"
  else
    match response.content with
    | [] => malformed "Claude returned an empty response"
    | first :: _ =>
      if first.type ≠ "text" then
        malformed ("Expected first content block to be text, got '" ++ first.type ++ "'")
      else do
        let payload ← catching [.jsonDecodeError]
          (malformed "Claude response was not valid JSON after fence stripping")
          (interpreter.loads (stripJsonFences first.text))
        answerOfPayload interpreter candidates payload

/-- Map a failed upstream call to the domain error it stands for. -/
def classifyUpstreamError (error : ApiError) : ExtractionError :=
  match error.errorClass with
  | .overloaded | .rateLimit =>
    .upstreamUnavailable ("Anthropic is temporarily unavailable " ++
      "(" ++ error.typeName ++ ", status=" ++ showOptional error.statusCode ++ ")")
      error.statusCode error.requestId error.retryAfterHeader
  | .connection =>
    .upstreamUnavailable ("Could not reach Anthropic (" ++ error.typeName ++ ")")
      error.statusCode error.requestId (some defaultRetryAfterSeconds)
  | .authentication | .permissionDenied | .requestTooLarge =>
    .upstreamUnauthorized ("Anthropic rejected the request " ++
      "(" ++ error.typeName ++ ", status=" ++ showOptional error.statusCode ++ ")")
      error.statusCode error.requestId
  | .badRequest =>
    -- Billing exhaustion is told from a malformed request by its message alone.
    if OccursIn creditBalanceMarker (lower error.message) then
      .upstreamUnauthorized "Anthropic credit balance is exhausted" error.statusCode error.requestId
    else
      .malformed ("Anthropic rejected the request as malformed (status=" ++
        showOptional error.statusCode ++ ")")
  | .internalServer =>
    .upstreamUnavailable ("Anthropic server error (status=" ++ showOptional error.statusCode ++ ")")
      error.statusCode error.requestId (some defaultRetryAfterSeconds)
  | .other => .malformed ("Anthropic API call failed (" ++ error.typeName ++ ")")

/-- The answer of the stub, which cites the first candidate without a call. -/
def stubAnswer (top : ExtractionCandidate) : Except ExtractionFailure Answer :=
  -- The index of the answer has to be positive, so another one is refused by its own check.
  let text := "[STUB EXTRACTION] Top candidate is source " ++ toString top.index ++ " (" ++
    top.label ++ "). Real Claude call skipped because STUB_EXTERNAL_APIS=true."
  if positive : 1 ≤ top.index then
    .ok { text, sourceIndex := some ⟨top.index, positive⟩, confidence := ⟨0.5, by norm_num⟩ }
  else .error (.uncaught .valueError)

/-- The extractor of one process. -/
structure Extractor where
  order : SetOrder
  interpreter : Interpreter
  /-- Whether external calls are stubbed out. -/
  stub : Bool
  /-- The upstream call. -/
  create : List UserBlock → Except ApiError Message

/-- Send the candidates and the question, and read the reply. -/
def Extractor.extract (extractor : Extractor) (query : String)
    (candidates : List ExtractionCandidate) : Except ExtractionFailure Answer :=
  -- No candidate is an error before anything is built or sent.
  match candidates with
  | [] => malformed "extract() requires at least one candidate source"
  | top :: _ =>
    if extractor.stub then stubAnswer top
    else do
      let userBlocks ← buildUserBlocks query candidates
      match extractor.create userBlocks with
      | .error error => .error (.extraction (classifyUpstreamError error))
      | .ok response =>
        parseResponse extractor.order extractor.interpreter response candidates query

end TorqueFinder
