import Mathlib.Data.Rat.Lemmas
import Mathlib.Tactic.NormNum

/-! The value types that flow between retrieval, extraction and the API. -/

namespace TorqueFinder

/-- A self-assessed strength between zero and one. -/
abbrev Confidence := { value : ℚ // 0 ≤ value ∧ value ≤ 1 }

/-- The strength of an identification that found nothing. -/
def noConfidence : Confidence := ⟨0, by norm_num⟩

/-- The vector of one text. -/
abbrev Embedding := List ℚ

/-- The product identity of a query or a document. -/
structure ProductScope where
  /-- The normalized product family, when one is named. -/
  family : Option String := none
  /-- The normalized brand, when one is named. -/
  brand : Option String := none
  /-- How strongly the text identified the product. -/
  confidence : Confidence := noConfidence
  deriving DecidableEq

/-- A scope is identified when it names a family or a brand. -/
def ProductScope.isIdentified (scope : ProductScope) : Bool :=
  scope.family.isSome || scope.brand.isSome

/-- Where indexed content came from. -/
inductive SourceType where
  /-- A manufacturer PDF. -/
  | pdf
  /-- A digital manual. -/
  | html
  deriving DecidableEq

/-- The stored and transmitted spelling of a source type. -/
def SourceType.value : SourceType → String
  -- These are the spellings of the column source_type.
  | .pdf => "pdf"
  | .html => "html"

/-- Which retrieval channel surfaced a chunk. -/
inductive RetrievalSource where
  /-- Full-text search. -/
  | keyword
  /-- Embedding similarity. -/
  | vector
  /-- Both channels after fusion. -/
  | hybrid
  deriving DecidableEq

/-- A retrieval hit from the unified chunks index. -/
structure RetrievedChunk where
  chunkId : Int
  documentId : Int
  sourceType : SourceType
  documentTitle : String
  documentSourceUrl : String
  ordinal : Int
  text : String
  pngR2Key : Option String
  anchor : Option String
  parentAnchor : Option String
  sourceUrl : String
  /-- The fused score, or the display score of an appended neighbour. -/
  score : ℚ
  source : RetrievalSource
  productFamily : Option String
  brand : Option String
  deriving DecidableEq

/-- A mechanic's question together with the breadth of the retrieval it asks for. -/
structure Query where
  text : String
  topK : Nat
  text_nonempty : 1 ≤ text.length
  text_bounded : text.length ≤ 2000
  topK_positive : 1 ≤ topK
  topK_bounded : topK ≤ 10

/-- The structured result of an extraction. -/
structure Answer where
  text : String
  toolSize : Option String := none
  torque : Option String := none
  /-- The one-based number of the cited candidate. -/
  sourceIndex : Option { index : Int // 1 ≤ index } := none
  confidence : Confidence
  /-- Set when the safety gate declined to answer. -/
  abstained : Bool := false
  deriving DecidableEq

end TorqueFinder
