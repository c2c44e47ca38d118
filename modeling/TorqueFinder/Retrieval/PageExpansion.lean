import Mathlib.Data.Prod.Lex
import TorqueFinder.Lib.Regex
import TorqueFinder.Retrieval.Rerank

/-! Choosing the leading document and merging its neighbouring pages into the candidate list. -/

namespace TorqueFinder

open PyText Ranking Tally

/-- The rank offset of document aggregation. -/
def rankAggK : Nat := rrfK

/-- How many neighbouring pages a call without settings loads on each side. -/
def defaultPageWindow : Nat := 1

/-- The page budget of a call without settings. -/
def defaultMaxCandidates : Nat := 6

/-- The bonus for a page that carries a torque value and a token of the question. -/
def rerankBonus : ℚ := 5.0e-4

/-- One or more decimal digits. -/
def digitsRe : Regex := .plus (.char isDecimal)

/-- The shape of a torque value: a number followed by newton metres in some notation. -/
def torqueRe : Regex :=
  -- A number with an optional fraction, blanks, and a spelling of the unit.
  .seq digitsRe
    (.seq (.opt (.seq (.char (· == '.')) digitsRe))
      (.seq (.star (.char isSpace))
        (.seq (.char fun char => char == 'N' || char == 'n')
          (.seq (.opt (.char fun char => char == '·' || char == '.' || char == '-'))
            (.seq (.opt (.char isSpace)) (.char fun char => char == 'm' || char == 'M'))))))

/-- The facts about a chunk that expansion needs. -/
structure ChunkMeta where
  chunkId : Int
  documentId : Int
  ordinal : Int
  text : String
  isPdf : Bool
  deriving DecidableEq

/-- The hit with the highest score, and among equals the one with the lowest chunk id. -/
def selectLeaderChunk (fused : List FusedHit) : Option FusedHit :=
  -- Negating the score makes the least key that of the highest score.
  leastBy (fun hit => toLex (-hit.score, hit.chunkId)) fused

/-- Whether a hit is known to belong to a document. -/
def ofDocument (metas : Int → Option ChunkMeta) (documentId : Int) (hit : FusedHit) : Bool :=
  (metas hit.chunkId).any fun known => known.documentId == documentId

/-- The weight each hit of a known document gives to that document. -/
def documentWeights (fused : List FusedHit) (metas : Int → Option ChunkMeta) : List (Int × ℚ) :=
  -- The rank of a hit is its position, whatever its score.
  (fused.zipIdx 1).filterMap fun (hit, rank) =>
    (metas hit.chunkId).map fun known => (known.documentId, rankWeight rankAggK rank)

/-- Sum the rank weights of each document's hits, best document first. -/
def aggregateToDocuments (fused : List FusedHit) (metas : Int → Option ChunkMeta) :
    List (Int × ℚ) :=
  -- Equal evidence goes to the lower document id.
  sortAsc (fun entry => toLex (-entry.2, entry.1)) (accumulate (documentWeights fused metas))

/-- The document with the most rank-weighted evidence. -/
def selectLeadingDocument (fused : List FusedHit) (metas : Int → Option ChunkMeta) : Option Int :=
  (aggregateToDocuments fused metas).head?.map Prod.fst

/-- Whether a page carries a torque value and one of the query's tokens. -/
def matchesFastenerSpec (queryTokens : Finset String) (page : ChunkMeta) : Bool :=
  torqueRe.search page.text && decide (queryTokens ∩ rerankTokens page.text ≠ ∅)

/-- What the within-document pass adds to the score of a hit. -/
def withinDocBonus (queryText : String) (metas : Int → Option ChunkMeta) (leaderDocId : Int)
    (hit : FusedHit) : ℚ :=
  -- A hit without a row earns nothing.
  match metas hit.chunkId with
  | none => 0
  | some page =>
    -- Only the PDF pages of the leading document can earn it.
    if page.documentId ≠ leaderDocId ∨ page.isPdf = false then 0
    else if matchesFastenerSpec (rerankTokens queryText) page then rerankBonus
    else 0

/-- Reorder the hits by score plus within-document bonus, leaving the scores as they are. -/
def rerankWithinDoc (queryText : String) (fused : List FusedHit) (metas : Int → Option ChunkMeta)
    (leaderDocId : Int) : List FusedHit :=
  -- A question without tokens leaves the order alone.
  if rerankTokens queryText = ∅ then fused
  else sortDesc (fun hit => hit.score + withinDocBonus queryText metas leaderDocId hit) fused

/-- Append ranked neighbours until the budget is reached. -/
def appendNeighbors (anchorScore : ℚ) (maxCandidates : Nat) (kept : List FusedHit) :
    List (ChunkMeta × Nat) → List FusedHit
  | [] => kept
  | (neighbor, rank) :: rest =>
    if maxCandidates ≤ kept.length then kept
    else
      -- Each neighbour is shown with a score just below the one before it.
      let hit : FusedHit :=
        { chunkId := neighbor.chunkId, score := anchorScore - rank * rerankBonus }
      appendNeighbors anchorScore maxCandidates (kept ++ [hit]) rest

/-- Merge the base winners and the leading document's neighbours into one budgeted list. -/
def assembleCandidates (base : List FusedHit) (neighbors : List ChunkMeta) (anchorOrdinal : Int)
    (anchorScore : ℚ) (maxCandidates : Nat) : List FusedHit :=
  -- Base winners come first and are never evicted.
  let kept := base.take maxCandidates
  if maxCandidates ≤ kept.length then kept
  else
    let present := kept.map FusedHit.chunkId
    -- The closest page comes first, and of two equally close ones the earlier.
    let orderedNeighbors :=
      sortAsc (fun neighbor => toLex (|neighbor.ordinal - anchorOrdinal|, neighbor.ordinal))
        (neighbors.filter fun neighbor => !present.contains neighbor.chunkId)
    appendNeighbors anchorScore maxCandidates kept (orderedNeighbors.zipIdx 1)

end TorqueFinder
