import Mathlib.Data.Finset.Card
import TorqueFinder.Retrieval.Fusion
import TorqueFinder.Retrieval.ProductMatch

/-! The title and product passes that reorder the fused pool. -/

namespace TorqueFinder

open PyText Ranking

/-- The boost for one shared title token. -/
def titleTokenBoost : ℚ := 5.0e-4

/-- The most a title can add to a score. -/
def titleBoostCap : ℚ := 1.5e-3

/-- The boost for a document of the asked product. -/
def productMatchBoost : ℚ := 5.0e-4

/-- The penalty for a document of a different product. -/
def productMismatchPenalty : ℚ := 5.0e-4

/-- Tokens too generic to tell two manuals apart. -/
def rerankStopwords : List String :=
  -- These words stand in most questions or in most titles.
  ["the", "a", "an", "and", "or", "of", "for", "to", "on", "in", "with", "my", "what", "how", "do",
    "does", "i", "is", "it", "should", "user", "manual", "guide", "torque", "spec", "specs", "bolt",
    "size", "tool"]

/-- The set of distinctive tokens of a text. -/
def rerankTokens (text : String) : Finset String :=
  ((findRuns isWordChar (lower text)).filter fun token => !rerankStopwords.contains token).toFinset

/-- The bounded boost for tokens shared by the query and a title. -/
def titleBoost (queryTokens : Finset String) (documentTitle : String) : ℚ :=
  if queryTokens = ∅ then 0
  else
    -- Shared tokens are counted once, however often they occur.
    let overlap := (queryTokens ∩ rerankTokens documentTitle).card
    min (overlap * titleTokenBoost) titleBoostCap

/-- The boost a hit earns through its title, where an unknown title counts as empty. -/
def hitTitleBoost (queryText : String) (titles : Int → Option String) (hit : FusedHit) : ℚ :=
  titleBoost (rerankTokens queryText) ((titles hit.chunkId).getD "")

/-- Reorder the hits by score plus title boost, leaving the scores as they are. -/
def rerankByTitle (queryText : String) (fused : List FusedHit) (titles : Int → Option String) :
    List FusedHit :=
  -- A question of stopwords alone leaves the pool as it is.
  if rerankTokens queryText = ∅ then fused
  -- The boost goes into the key only, so a later pass sees the score without it.
  else sortDesc (fun hit => hit.score + hitTitleBoost queryText titles hit) fused

/-- The product facet of a chunk's document. -/
structure ProductMeta where
  family : Option String
  brand : Option String
  deriving DecidableEq

/-- The scope a stored facet stands for. -/
def ProductMeta.scope (candidateFacet : ProductMeta) : ProductScope where
  -- The confidence is that of a title with the same finding.
  family := candidateFacet.family
  brand := candidateFacet.brand
  confidence := if candidateFacet.family ≠ none then familyConfidence else titleBrandConfidence

/-- The bounded delta of one candidate facet for the asked product. -/
def productDelta (asked : ProductScope) (candidateFacet : ProductMeta) : ℚ :=
  -- A document without a product is never penalized.
  if !candidateFacet.scope.isIdentified then 0
  else if scopeMatches asked candidateFacet.scope then productMatchBoost
  else -productMismatchPenalty

/-- The delta a hit receives, which is nothing when its facet is unknown. -/
def hitProductDelta (asked : ProductScope) (facets : Int → Option ProductMeta) (hit : FusedHit) :
    ℚ :=
  -- A chunk without a row keeps its score.
  match facets hit.chunkId with
  | none => 0
  | some facet => productDelta asked facet

/-- Reorder the hits by score plus product delta, leaving the scores as they are. -/
def rerankByProduct (order : SetOrder) (queryText : String) (fused : List FusedHit)
    (facets : Int → Option ProductMeta) : List FusedHit :=
  let asked := extractQueryScope order queryText
  -- A question that names no product leaves the pool as it is.
  if !asked.isIdentified then fused
  else sortDesc (fun hit => hit.score + hitProductDelta asked facets hit) fused

end TorqueFinder
