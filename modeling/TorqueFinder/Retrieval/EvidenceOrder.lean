import TorqueFinder.Retrieval.StoreSession

/-! Strong retrieval evidence keeps its place through every pass and both cuts. -/

namespace TorqueFinder

open Ranking

namespace Reading

variable {session : Session} {queryText : String} {perChannelK : Nat}
  (reading : Reading session queryText perChannelK) (order : SetOrder)
  (topK pageWindow maxCandidates : Nat)

/-- A base winner of a result: a base hit that is returned. -/
def IsBaseWinner (results : List RetrievedChunk) (hit : FusedHit) : Prop :=
  hit ∈ reading.base order topK ∧ hit.chunkId ∈ results.map RetrievedChunk.chunkId

/-- The pool has loaded a row for the hit. -/
def HasRow (hit : FusedHit) : Prop := (rowOf reading.rows hit.chunkId).isSome = true

variable {reading order topK pageWindow maxCandidates} {first second : FusedHit}

/-- Product boost and penalty together never exceed the title cap. -/
theorem productRange_le_titleBoostCap :
    productMatchBoost + productMismatchPenalty ≤ titleBoostCap := by
  norm_num [productMatchBoost, productMismatchPenalty, titleBoostCap]

/-- The within-document bonus never exceeds the title cap. -/
theorem rerankBonus_le_titleBoostCap : rerankBonus ≤ titleBoostCap := by
  norm_num [rerankBonus, titleBoostCap]

section Margin

variable (left : first ∈ reading.pool) (right : second ∈ reading.pool)
  (margin : titleBoostCap < first.score - second.score)

include left right margin

/-- A lead beyond the title cap survives fusion and both pool passes. -/
theorem fused_precedes_of_margin : Precedes (reading.fused order) first second := by
  have positive : (0 : ℚ) < titleBoostCap := by norm_num [titleBoostCap]
  -- Fusion starts with the leader ahead, and each pass can only close a smaller gap.
  have pooled : Precedes reading.pool first second :=
    reciprocalRankFusion_precedes left right (by linarith)
  exact rerankByProduct_precedes (rerankByTitle_precedes pooled margin)
    (productRange_le_titleBoostCap.trans_lt margin)

/-- When the trailing hit is in the base, the leader is in the base ahead of it. -/
theorem base_precedes_of_margin (seeded : second ∈ reading.base order topK) :
    Precedes (reading.base order topK) first second :=
  (fused_precedes_of_margin left right margin).take (fused_nodup_ids.of_map _) seeded

/-- When the trailing hit is a winner, the leader is a winner ahead of it. -/
theorem winners_precedes_of_margin
    (winner : second ∈ reading.winners order topK pageWindow maxCandidates) :
    Precedes (reading.winners order topK pageWindow maxCandidates) first second := by
  -- The order of the base survives the within-document pass and the cut to the budget.
  have seeded := base_precedes_of_margin left right margin (mem_base_of_mem_winners winner)
  refine Precedes.take orderedBase_nodup ?_ winner
  unfold orderedBase
  split
  · exact seeded
  · exact rerankWithinDoc_precedes seeded (rerankBonus_le_titleBoostCap.trans_lt margin)

/-- When the trailing hit is returned as a base winner, so is the leader, ahead of it. -/
theorem results_precedes_of_margin (firstRow : reading.HasRow first)
    (secondRow : reading.HasRow second) {results : List RetrievedChunk}
    (served : hybridSearch order session queryText topK perChannelK pageWindow maxCandidates =
      .ok results) (winner : reading.IsBaseWinner order topK results second) :
    reading.IsBaseWinner order topK results first ∧
      Precedes (results.map RetrievedChunk.chunkId) first.chunkId second.chunkId := by
  -- The order of the winners is that of the results, once both hits have rows.
  obtain ⟨neighborRows, _, shape⟩ := results_of_hybridSearch reading served
  have present : ∀ hit, reading.HasRow hit →
      (hydratedRow reading.rows neighborRows hit.chunkId).isSome = true := by
    intro hit loaded
    obtain ⟨row, found⟩ := Option.isSome_iff_exists.mp loaded
    simp [hydratedRow, found]
  obtain ⟨seeded, returned⟩ := winner
  have ahead : Precedes (reading.winners order topK pageWindow maxCandidates) first second :=
    winners_precedes_of_margin left right margin ((mem_results_iff shape seeded).mp returned).1
  have leading := mem_base_of_mem_winners ahead.left_mem
  -- The results list the winners in order.
  have ordered := (precedes_results_iff shape leading seeded (present first firstRow)
    (present second secondRow)).mpr ahead
  exact ⟨⟨leading, ordered.left_mem⟩, ordered⟩

end Margin

/-- Strong evidence is never displaced, and two channels outweigh one. -/
theorem strong_evidence_kept (reading : Reading session queryText perChannelK)
    (keywordDistinct : reading.keywordHits.ids.Nodup)
    (vectorDistinct : reading.vectorHits.ids.Nodup)
    (keywordShort : reading.keywordHits.length ≤ defaultTopKPerChannel)
    (vectorShort : reading.vectorHits.length ≤ defaultTopKPerChannel)
    {results : List RetrievedChunk}
    (served : hybridSearch order session queryText topK perChannelK pageWindow maxCandidates =
      .ok results) :
    ∀ first ∈ reading.pool, ∀ second ∈ reading.pool,
      reading.HasRow first → reading.HasRow second →
      titleBoostCap < first.score - second.score ∨
        ((first.chunkId ∈ reading.keywordHits.ids ∧ first.chunkId ∈ reading.vectorHits.ids) ∧
          ¬ (second.chunkId ∈ reading.keywordHits.ids ∧
            second.chunkId ∈ reading.vectorHits.ids)) →
      reading.IsBaseWinner order topK results second →
        reading.IsBaseWinner order topK results first ∧
          Precedes (results.map RetrievedChunk.chunkId) first.chunkId second.chunkId := by
  -- Either kind of lead is a margin beyond the title cap.
  intro first left second right firstRow secondRow lead winner
  have margin : titleBoostCap < first.score - second.score := by
    rcases lead with margin | ⟨⟨inKeyword, inVector⟩, notBoth⟩
    · exact margin
    · -- Found twice means two of the smallest weights at least, found once one of the largest.
      rw [(mem_reciprocalRankFusion.mp left).2, (mem_reciprocalRankFusion.mp right).2]
      refine lt_of_lt_of_le ?_ (rrfScore_both_channels keywordDistinct vectorDistinct keywordShort
        vectorShort inKeyword inVector notBoth)
      norm_num [titleBoostCap]
  exact results_precedes_of_margin left right margin firstRow secondRow served winner

/-- The page found by both channels is returned ahead of the page of the asked product. -/
theorem strong_evidence_kept_two_manuals :
    let reading := twoManuals.reading [(2, 0.9), (1, 0.8)] [(1, 0.7)] lyrikQuestion 20
    let results := twoManualsResults lyrikQuestion [(2, 0.9), (1, 0.8)] [(1, 0.7)] 5 1 6
    reading.IsBaseWinner .textual 5 results { chunkId := 1, score := 1 / 62 + 1 / 61 } ∧
      Precedes (results.map RetrievedChunk.chunkId) 1 2 :=
  -- Both channels have found the page, and one of them the other page.
  strong_evidence_kept (twoManuals.reading [(2, 0.9), (1, 0.8)] [(1, 0.7)] lyrikQuestion 20)
    (by decide +kernel) (by decide +kernel) (by decide +kernel) (by decide +kernel)
    (show hybridSearch .textual _ lyrikQuestion 5 20 1 6 = .ok
      (twoManualsResults lyrikQuestion [(2, 0.9), (1, 0.8)] [(1, 0.7)] 5 1 6) by decide +kernel)
    _ (by decide +kernel) { chunkId := 2, score := 1 / 61 } (by decide +kernel)
    (by unfold HasRow; decide +kernel) (by unfold HasRow; decide +kernel)
    (Or.inr (by decide +kernel)) ⟨by decide +kernel, by decide +kernel⟩

end Reading

end TorqueFinder
