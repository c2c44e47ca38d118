import Mathlib.Tactic.TypeStar

/-! The domain failures of the bounded contexts. -/

namespace TorqueFinder

/-- Why an extraction fails. -/
inductive ExtractionError where
  /-- The answer was unusable: truncated, refused, malformed or not matching the schema. -/
  | malformed (message : String)
  /-- The upstream call failed for a transient reason. -/
  | upstreamUnavailable (message : String) (statusCode : Option Int)
    (requestId retryAfter : Option String)
  /-- The upstream call failed for a reason an operator must fix. -/
  | upstreamUnauthorized (message : String) (statusCode : Option Int) (requestId : Option String)
  deriving DecidableEq

/-- The text of an extraction error. -/
def ExtractionError.message : ExtractionError → String
  -- Every error of the extractor is shown by its message alone.
  | .malformed message => message
  | .upstreamUnavailable message _ _ _ => message
  | .upstreamUnauthorized message _ _ => message

/-- The text of an optional number in a message. -/
def showOptional : Option Int → String
  -- The f-string of the source writes a missing number as None.
  | none => "None"
  | some value => toString value

/-- A failed retrieval, with its message. -/
structure RetrievalError where
  message : String
  deriving DecidableEq

/-- Why discovery fails. -/
structure DiscoveryError where
  message : String
  deriving DecidableEq

/-- Why an ingestion fails, as far as its callers expect. -/
structure IngestionError where
  message : String
  deriving DecidableEq

end TorqueFinder
