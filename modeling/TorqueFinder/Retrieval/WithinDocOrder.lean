import TorqueFinder.Retrieval.StoreSession

/-! How far the within-document pass leaves the rest of the ranking alone. -/

namespace TorqueFinder

open Ranking

namespace Reading

variable {session : Session} {queryText : String} {perChannelK : Nat}
  (reading : Reading session queryText perChannelK) (order : SetOrder)
  (topK pageWindow maxCandidates : Nat)

/-- A hit that earns no bonus in the expanded document. -/
def EarnsNothing (leaderDocId : Int) (hit : FusedHit) : Prop :=
  withinDocBonus queryText reading.metas leaderDocId hit = 0

/-- The search has a row to hydrate the hit from. -/
def IsHydrated (hit : FusedHit) : Prop :=
  -- The chunk is found among the rows of the pool or of the neighbours.
  ∃ neighborRows, reading.neighborRows order topK pageWindow = .ok neighborRows ∧
    (hydratedRow reading.rows neighborRows hit.chunkId).isSome = true

/-- Base hits without a bonus are returned in base order, and without any bonus the base leads. -/
def LeavesRanking (leaderDocId : Int) (results : List RetrievedChunk) : Prop :=
  -- Two parts: the order of the pages that earn nothing, and the front of the list.
  let ids := results.map RetrievedChunk.chunkId
  let front := min topK (min maxCandidates (reading.fused order).length)
  (∀ first second, Precedes (reading.base order topK) first second →
    reading.EarnsNothing leaderDocId first → reading.EarnsNothing leaderDocId second →
    first.chunkId ∈ ids → second.chunkId ∈ ids → Precedes ids first.chunkId second.chunkId) ∧
  ((∀ hit ∈ reading.base order topK, reading.EarnsNothing leaderDocId hit) →
    (∀ hit ∈ reading.base order topK, reading.IsHydrated order topK pageWindow hit) →
    ids.take front = ((reading.fused order).take front).map FusedHit.chunkId)

/-- The key of the within-document pass. -/
def withinDocKey (leaderDocId : Int) (hit : FusedHit) : ℚ :=
  hit.score + withinDocBonus queryText reading.metas leaderDocId hit

/-- Where base order and raw scores disagree, the earlier hit is beyond the budget anyway. -/
def RankingFollowsScores (leaderDocId : Int) : Prop :=
  rerankTokens queryText = ∅ ∨
  (∀ first second, Precedes (reading.base order topK) first second →
    reading.EarnsNothing leaderDocId first → reading.EarnsNothing leaderDocId second →
    reading.IsHydrated order topK pageWindow first →
    reading.IsHydrated order topK pageWindow second → first.score < second.score →
    -- As many base hits outrank the earlier one as the budget has places.
    maxCandidates ≤ placeOf (reading.withinDocKey leaderDocId) (reading.base order topK) first) ∧
  ((∀ hit ∈ reading.base order topK, reading.EarnsNothing leaderDocId hit) →
    (∀ hit ∈ reading.base order topK, reading.IsHydrated order topK pageWindow hit) →
    ∀ first ∈ (reading.base order topK).take maxCandidates, ∀ second,
      Precedes (reading.base order topK) first second → second.score ≤ first.score)

section Expanded

variable {reading order topK pageWindow maxCandidates} {leader : FusedHit} {leaderMeta : ChunkMeta}
  {results : List RetrievedChunk} {neighborRows : List ChunkRow} {first second : FusedHit}

/-- The loaded neighbour rows decide which hits are hydrated. -/
theorem isHydrated_iff (loaded : reading.neighborRows order topK pageWindow = .ok neighborRows)
    (hit : FusedHit) :
    reading.IsHydrated order topK pageWindow hit ↔
      (hydratedRow reading.rows neighborRows hit.chunkId).isSome = true := by
  -- The neighbour rows that were loaded are the ones that exist.
  simp [IsHydrated, loaded]

/-- When the question has tokens, an expanding search sorts its base by score plus bonus. -/
theorem orderedBase_of_expansion
    (expanded : reading.expansion order topK pageWindow = some (leader, leaderMeta))
    (tokens : rerankTokens queryText ≠ ∅) :
    reading.orderedBase order topK pageWindow =
      sortDesc (reading.withinDocKey leaderMeta.documentId) (reading.base order topK) := by
  -- The pass only steps aside for a question without tokens.
  simp only [orderedBase, expanded, rerankWithinDoc, if_neg tokens]
  rfl

/-- A base hit is a winner when fewer base hits outrank it than the budget has places. -/
theorem mem_winners_iff
    (expanded : reading.expansion order topK pageWindow = some (leader, leaderMeta))
    (tokens : rerankTokens queryText ≠ ∅) (seeded : first ∈ reading.base order topK) :
    first ∈ reading.winners order topK pageWindow maxCandidates ↔
      placeOf (reading.withinDocKey leaderMeta.documentId) (reading.base order topK) first <
        maxCandidates := by
  -- The budget cuts the sorted base at the place it allows.
  rw [winners, orderedBase_of_expansion expanded tokens]
  exact mem_take_sortDesc_iff _ base_nodup seeded maxCandidates

/-- Without a bonus the key is the score. -/
theorem withinDocKey_of_nothing {leaderDocId : Int} {hit : FusedHit}
    (nothing : reading.EarnsNothing leaderDocId hit) :
    reading.withinDocKey leaderDocId hit = hit.score := by
  -- The key of the sort is the score plus the bonus.
  rw [withinDocKey, nothing, add_zero]

/-- Without any bonus the winners are the base prefix exactly when no later hit outscores it. -/
theorem winners_eq_front_iff
    (expanded : reading.expansion order topK pageWindow = some (leader, leaderMeta))
    (tokens : rerankTokens queryText ≠ ∅)
    (nothing : ∀ hit ∈ reading.base order topK, reading.EarnsNothing leaderMeta.documentId hit) :
    reading.winners order topK pageWindow maxCandidates =
        (reading.base order topK).take maxCandidates ↔
      ∀ first ∈ (reading.base order topK).take maxCandidates, ∀ second,
        Precedes (reading.base order topK) first second → second.score ≤ first.score := by
  -- Without a bonus the sorting key of the pass is the score itself.
  rw [winners, orderedBase_of_expansion expanded tokens, take_sortDesc_iff base_nodup]
  refine forall₂_congr fun first _ => forall₂_congr fun second before => ?_
  rw [withinDocKey_of_nothing (nothing first before.left_mem),
    withinDocKey_of_nothing (nothing second before.right_mem)]

variable
  (loaded : reading.neighborRows order topK pageWindow = .ok neighborRows)
  (served : results = hydrate reading.rows neighborRows
    (reading.winners order topK pageWindow maxCandidates ++
      reading.appended order topK pageWindow maxCandidates neighborRows))

include served

/-- Hits that enter the candidate list in some order are returned in that order. -/
theorem keeps_entering_order
    (before : Precedes (reading.orderedBase order topK pageWindow) first second)
    (firstReturned : first.chunkId ∈ results.map RetrievedChunk.chunkId)
    (secondReturned : second.chunkId ∈ results.map RetrievedChunk.chunkId) :
    Precedes (results.map RetrievedChunk.chunkId) first.chunkId second.chunkId := by
  -- Both hits are winners, and the cut to the budget keeps their order.
  have left := orderedBase_perm.mem_iff.mp before.left_mem
  have right := orderedBase_perm.mem_iff.mp before.right_mem
  obtain ⟨_, firstRow⟩ := (mem_results_iff served left).mp firstReturned
  obtain ⟨winner, secondRow⟩ := (mem_results_iff served right).mp secondReturned
  exact (precedes_results_iff served left right firstRow secondRow).mpr
    (before.take orderedBase_nodup winner)

include loaded

/-- Two base hits without a bonus keep their order unless the scores swap them within the budget. -/
theorem keeps_pair_iff
    (expanded : reading.expansion order topK pageWindow = some (leader, leaderMeta))
    (tokens : rerankTokens queryText ≠ ∅)
    (before : Precedes (reading.base order topK) first second)
    (firstNothing : reading.EarnsNothing leaderMeta.documentId first)
    (secondNothing : reading.EarnsNothing leaderMeta.documentId second) :
    (first.chunkId ∈ results.map RetrievedChunk.chunkId →
      second.chunkId ∈ results.map RetrievedChunk.chunkId →
        Precedes (results.map RetrievedChunk.chunkId) first.chunkId second.chunkId) ↔
      (reading.IsHydrated order topK pageWindow first →
        reading.IsHydrated order topK pageWindow second → first.score < second.score →
          maxCandidates ≤
            placeOf (reading.withinDocKey leaderMeta.documentId) (reading.base order topK)
              first) := by
  have left := before.left_mem
  have right := before.right_mem
  have firstKey := withinDocKey_of_nothing firstNothing
  have secondKey := withinDocKey_of_nothing secondNothing
  have sorted := orderedBase_of_expansion expanded tokens
  -- A hit survives the cut by its place in the new order.
  have survives : first ∈ reading.winners order topK pageWindow maxCandidates ↔ _ :=
    mem_winners_iff expanded tokens left
  rw [isHydrated_iff loaded, isHydrated_iff loaded]
  constructor
  · intro keeps firstRow secondRow smaller
    by_contra within
    -- The later hit is sorted ahead, so with the earlier one it is returned in the wrong order.
    have winner := survives.mpr (not_le.mp within)
    have swapped : Precedes (reading.winners order topK pageWindow maxCandidates) second first := by
      refine Precedes.take orderedBase_nodup ?_ winner
      rw [sorted]
      exact sortDesc_precedes_of_lt right left (by rwa [firstKey, secondKey])
    have kept := keeps ((mem_results_iff served left).mpr ⟨winner, firstRow⟩)
      ((mem_results_iff served right).mpr ⟨swapped.left_mem, secondRow⟩)
    have straight := (precedes_results_iff served left right firstRow secondRow).mp kept
    exact straight.asymm (orderedBase_nodup.sublist (List.take_sublist _ _)) swapped
  -- Conversely, a returned earlier hit is not outscored, so the sort leaves it in front.
  · intro beyond firstReturned secondReturned
    obtain ⟨winner, firstRow⟩ := (mem_results_iff served left).mp firstReturned
    obtain ⟨_, secondRow⟩ := (mem_results_iff served right).mp secondReturned
    have ordered : second.score ≤ first.score := by
      by_contra larger
      exact absurd (survives.mp winner) (not_lt.mpr (beyond firstRow secondRow (not_le.mp larger)))
    refine keeps_entering_order served ?_ firstReturned secondReturned
    rw [sorted]
    exact sortDesc_precedes_of_le before (by rwa [firstKey, secondKey])

/-- A fully hydrated result begins with the base prefix exactly when the winners are that prefix. -/
theorem keeps_front_iff
    (present : ∀ hit ∈ reading.base order topK, reading.IsHydrated order topK pageWindow hit) :
    (results.map RetrievedChunk.chunkId).take
          (min topK (min maxCandidates (reading.fused order).length)) =
        ((reading.fused order).take
          (min topK (min maxCandidates (reading.fused order).length))).map FusedHit.chunkId ↔
      reading.winners order topK pageWindow maxCandidates =
        (reading.base order topK).take maxCandidates := by
  -- Every winner has a row, so the result begins with exactly the winners.
  have rows : ((reading.winners order topK pageWindow maxCandidates).map FusedHit.chunkId).filter
      (fun id => (hydratedRow reading.rows neighborRows id).isSome) =
        (reading.winners order topK pageWindow maxCandidates).map FusedHit.chunkId := by
    rw [List.filter_eq_self]
    intro chunkId member
    obtain ⟨hit, winner, rfl⟩ := List.mem_map.mp member
    exact (isHydrated_iff loaded hit).mp (present hit (mem_base_of_mem_winners winner))
  -- There are as many winners as both cuts leave.
  have length : ((reading.winners order topK pageWindow maxCandidates).map
      FusedHit.chunkId).length = min topK (min maxCandidates (reading.fused order).length) := by
    rw [List.length_map, winners, List.length_take, orderedBase_perm.length_eq, base,
      List.length_take]
    omega
  -- Cutting the pool twice is cutting it once at the smaller bound.
  have front : (reading.fused order).take
      (min topK (min maxCandidates (reading.fused order).length)) =
        (reading.base order topK).take maxCandidates := by
    rw [base, List.take_take, List.take_eq_take_iff]
    omega
  rw [results_ids served, rows, front, ← length, List.take_left]
  constructor
  · exact Table.eq_of_keys base_nodup_ids (fun _ winner => mem_base_of_mem_winners winner)
      (List.take_subset _ _)
  · exact congrArg _

end Expanded

/-- The ranking outside the bonus is left alone exactly when it already follows the raw scores. -/
theorem leavesRanking_iff (reading : Reading session queryText perChannelK) {leader : FusedHit}
    {leaderMeta : ChunkMeta} {results : List RetrievedChunk}
    (expanded : reading.expansion order topK pageWindow = some (leader, leaderMeta))
    (returned : hybridSearch order session queryText topK perChannelK pageWindow maxCandidates =
      .ok results) :
    reading.LeavesRanking order topK pageWindow maxCandidates leaderMeta.documentId results ↔
      reading.RankingFollowsScores order topK pageWindow maxCandidates leaderMeta.documentId := by
  obtain ⟨neighborRows, loaded, served⟩ := results_of_hybridSearch reading returned
  unfold LeavesRanking RankingFollowsScores
  by_cases silent : rerankTokens queryText = ∅
  · -- A question without tokens leaves the base in place.
    have still : reading.orderedBase order topK pageWindow = reading.base order topK := by
      simp only [orderedBase, expanded, rerankWithinDoc, if_pos silent]
    refine iff_of_true ⟨?_, ?_⟩ (Or.inl silent)
    · intro first second before _ _
      exact keeps_entering_order served (still ▸ before)
    · intro _ present
      exact (keeps_front_iff loaded served present).mpr (by rw [winners, still])
  · simp only [silent, false_or]
    refine and_congr ?_ ?_
    -- The two halves of the property meet the two halves of the condition.
    · refine forall₂_congr fun first second => ?_
      refine forall₃_congr fun before firstNothing secondNothing => ?_
      exact keeps_pair_iff loaded served expanded silent before firstNothing secondNothing
    · refine forall₂_congr fun nothing present => ?_
      rw [keeps_front_iff loaded served present, winners_eq_front_iff expanded silent nothing]

/-- The best hit of the manual the question names. -/
def lyrikHit : FusedHit := { chunkId := 2, score := 1 / 62 }

/-- The facts of that page. -/
def lyrikPage : ChunkMeta :=
  { chunkId := 2, documentId := 2, ordinal := 7, text := "Air spring volume", isPdf := true }

/-- The equivalence for the two manuals, of which the second is expanded. -/
theorem leavesRanking_iff_two_manuals :
    (twoManuals.reading [(1, 0.9), (2, 0.8)] [] lyrikQuestion 20).LeavesRanking .textual 5 1 6 2
        (twoManualsResults lyrikQuestion [(1, 0.9), (2, 0.8)] [] 5 1 6) ↔
      (twoManuals.reading [(1, 0.9), (2, 0.8)] [] lyrikQuestion 20).RankingFollowsScores
        .textual 5 1 6 2 :=
  -- The page of the second manual leads.
  leavesRanking_iff .textual 5 1 6 (twoManuals.reading [(1, 0.9), (2, 0.8)] [] lyrikQuestion 20)
    (show _ = some (lyrikHit, lyrikPage) by decide +kernel) (by decide +kernel)

/-- The within-document pass can put the page of the wrong product back in front. -/
theorem not_leavesRanking :
    ¬ ∀ (order : SetOrder) (session : Session) (queryText : String)
      (perChannelK topK pageWindow maxCandidates : Nat)
      (reading : Reading session queryText perChannelK) (leader : FusedHit)
      (leaderMeta : ChunkMeta) (results : List RetrievedChunk),
      reading.expansion order topK pageWindow = some (leader, leaderMeta) →
      hybridSearch order session queryText topK perChannelK pageWindow maxCandidates =
        .ok results →
      reading.LeavesRanking order topK pageWindow maxCandidates leaderMeta.documentId results := by
  intro always
  have kept := always .textual _ lyrikQuestion 20 5 1 6
    (twoManuals.reading [(1, 0.9), (2, 0.8)] [] lyrikQuestion 20) lyrikHit lyrikPage
    (twoManualsResults lyrikQuestion [(1, 0.9), (2, 0.8)] [] 5 1 6) (by decide +kernel)
    (by decide +kernel)
  -- The product pass put the asked manual first, but the better raw score returns first.
  have ordered := kept.1 lyrikHit { chunkId := 1, score := 1 / 61 } (by decide +kernel)
    (by unfold EarnsNothing; decide +kernel) (by unfold EarnsNothing; decide +kernel)
    (by decide +kernel) (by decide +kernel)
  exact absurd ordered (by decide +kernel)

end Reading

end TorqueFinder
