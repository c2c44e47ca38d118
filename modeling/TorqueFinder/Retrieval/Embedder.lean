import TorqueFinder.Domain.Errors
import TorqueFinder.Domain.Models
import TorqueFinder.Lib.Batching
import TorqueFinder.Lib.Transaction

/-! The client of the embedding service, which sends long lists of texts in batches. -/

namespace TorqueFinder

open Transaction

/-- The kind of input a question is. -/
def queryInputType : String := "query"

/-- The kind of input a page is. -/
def documentInputType : String := "document"

/-- How many texts a request carries at most. -/
def maxBatchTexts : Nat := 96

/-- How many tokens a request carries at most, as they are estimated. -/
def maxBatchTokens : Nat := 100000

/-- How many characters of a text are embedded. -/
def maxTextChars : Nat := 96000

/-- The estimated number of tokens of a text. -/
def estimateTokens (text : String) : Nat := max 1 (text.length / 3)

/-- A text as far as it is embedded. -/
def clip (text : String) : String := String.ofList (text.toList.take maxTextChars)

/-- A request to the embedding service. -/
structure VoyageRequest where
  texts : List String
  model : String
  inputType : String
  deriving DecidableEq

/-- What the service answers. -/
inductive VoyageReply where
  /-- The request raises an exception. -/
  | raised
  /-- The response arrives, with its embeddings when it has any. -/
  | answered (embeddings : Option (List Embedding))
  deriving DecidableEq

/-- The embedder, with the service behind it. -/
structure VoyageEmbedder where
  model : String
  /-- Whether the stub answers in place of the service. -/
  stub : Bool
  /-- The embedding the stub computes of a text. -/
  stubEmbed : String → Embedding
  /-- The answer to a request, which may depend on the requests before it. -/
  service : List VoyageRequest → VoyageRequest → VoyageReply

/-- The vectors of some texts, from one request that is added to the ones before it. -/
def VoyageEmbedder.embed (embedder : VoyageEmbedder) (texts : List String) (inputType : String) :
    EStateM RetrievalError (List VoyageRequest) (List Embedding) := fun asked =>
  let request : VoyageRequest := { texts, model := embedder.model, inputType }
  let malformed : RetrievalError :=
    { message := "Voyage embedding response was malformed (missing or short embeddings list)" }
  -- The stub answers without the service.
  if embedder.stub then .ok (texts.map embedder.stubEmbed) (asked ++ [request])
  else
    match embedder.service asked request with
    | .raised =>
      .error { message := "Voyage embedding request failed for " ++ toString texts.length ++
        " input(s)" } (asked ++ [request])
    | .answered none => .error malformed (asked ++ [request])
    | .answered (some embeddings) =>
      -- A short list would leave texts without a vector.
      if embeddings.length ≠ texts.length then .error malformed (asked ++ [request])
      else .ok embeddings (asked ++ [request])

/-- The vector of a question, which is the first and only one of its request. -/
def VoyageEmbedder.embedQuery (embedder : VoyageEmbedder) (text : String) :
    EStateM RetrievalError (List VoyageRequest) (Option Embedding) := do
  -- A query is a batch of one, embedded with its own input type.
  let vectors ← embedder.embed [text] queryInputType
  return vectors[0]?

/-- What the loop over the texts carries along. -/
structure BatchState where
  vectors : List Embedding := []
  batch : List String := []
  batchTokens : Nat := 0

/-- Send the batch that is filled, and begin a new one. -/
def VoyageEmbedder.flush (embedder : VoyageEmbedder) (state : BatchState) :
    EStateM RetrievalError (List VoyageRequest) BatchState := do
  -- The next batch starts empty.
  let more ← embedder.embed state.batch documentInputType
  return { vectors := state.vectors ++ more }

/-- Embed the texts that are left, given what was done so far. -/
def VoyageEmbedder.embedLoop (embedder : VoyageEmbedder) :
    List String → BatchState → EStateM RetrievalError (List VoyageRequest) (List Embedding)
  | [], state => do
    if state.batch = [] then return state.vectors
    else
      let last ← embedder.flush state
      return last.vectors
  | text :: rest, state => do
    let clipped := clip text
    let est := estimateTokens clipped
    -- A batch is sent before a text that would exceed its limits.
    let ready ←
      if state.batch ≠ [] ∧ (maxBatchTexts ≤ state.batch.length ∨
          maxBatchTokens < state.batchTokens + est) then embedder.flush state
      else pure state
    embedder.embedLoop rest
      { ready with batch := ready.batch ++ [clipped], batchTokens := ready.batchTokens + est }

/-- The vectors of some pages, requested batch after batch. -/
def VoyageEmbedder.embedDocuments (embedder : VoyageEmbedder) (texts : List String) :
    EStateM RetrievalError (List VoyageRequest) (List Embedding) :=
  -- Without texts nothing is sent.
  if texts = [] then pure [] else embedder.embedLoop texts {}

/-- A request is answered with a vector for each of its texts. -/
def VoyageEmbedder.Answers (embedder : VoyageEmbedder) (asked : List VoyageRequest)
    (request : VoyageRequest) (vectors : List Embedding) : Prop :=
  -- The service may answer differently each time it is asked.
  (if embedder.stub then vectors = request.texts.map embedder.stubEmbed
    else embedder.service asked request = .answered (some vectors)) ∧
  vectors.length = request.texts.length

end TorqueFinder
