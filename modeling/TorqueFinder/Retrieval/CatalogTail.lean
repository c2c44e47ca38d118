import TorqueFinder.Retrieval.DocumentRanking

/-! Whether the pages of a catalog far down the pool can outweigh a manual at its top. -/

namespace TorqueFinder

open Ranking

variable {fused : List FusedHit} {metas : Int → Option ChunkMeta} {focused catalog : Int}

/-- The document owns the first three hits of the pool. -/
def OwnsTopThree (fused : List FusedHit) (metas : Int → Option ChunkMeta) (documentId : Int) :
    Prop :=
  -- The ranks are counted from one.
  ∀ rank ∈ [1, 2, 3], rank ∈ documentRanks fused metas documentId

/-- Every hit of the document stands at rank fifteen or later. -/
def LiesInTail (fused : List FusedHit) (metas : Int → Option ChunkMeta) (documentId : Int) : Prop :=
  ∀ rank ∈ documentRanks fused metas documentId, 15 ≤ rank

/-- Aggregation gives the first document a strictly higher score than the second. -/
def Outscores (fused : List FusedHit) (metas : Int → Option ChunkMeta) (first second : Int) :
    Prop :=
  -- Only documents with a hit have an entry.
  ∀ higher lower, (first, higher) ∈ aggregateToDocuments fused metas →
    (second, lower) ∈ aggregateToDocuments fused metas → lower < higher

/-- The reciprocals of sixty plus each rank, added up. -/
def reciprocalSum (ranks : List Nat) : ℚ := (ranks.map fun rank : Nat => 1 / (60 + rank : ℚ)).sum

/-- The score of a document depends on its ranks only. -/
theorem documentScore_eq_reciprocalSum (documentId : Int) :
    documentScore fused metas documentId =
      reciprocalSum (documentRanks fused metas documentId) := by
  -- The weight of a rank is the reciprocal of sixty plus it.
  have weight : rankWeight rankAggK = fun rank : Nat => 1 / (60 + rank : ℚ) := by
    funext rank
    simp [rankWeight, rankAggK, rrfK]
  rw [documentScore, weight]
  rfl

/-- The first three ranks weigh more together than any three of the tail. -/
theorem topThree_le_documentScore (top : OwnsTopThree fused metas focused) :
    1 / 61 + 1 / 62 + 1 / 63 ≤ documentScore fused metas focused := by
  have nonneg : ∀ rank, 0 ≤ rankWeight rankAggK rank := fun rank => by
    unfold rankWeight
    positivity
  -- The three ranks are different and all belong to the document.
  have different : [1, 2, 3].Nodup := by decide
  refine le_trans (le_of_eq ?_) (sum_le_rankSum nonneg different top)
  norm_num [rankWeight, rankAggK, rrfK]

/-- A document in the tail scores at most the weight of rank fifteen for each of its hits. -/
theorem documentScore_le_tail (tail : LiesInTail fused metas catalog) :
    documentScore fused metas catalog ≤ (documentRanks fused metas catalog).length / 75 := by
  -- No rank of the tail weighs more than the first one.
  have first : rankWeight rankAggK 15 = 1 / 75 := by norm_num [rankWeight, rankAggK, rrfK]
  have each : documentScore fused metas catalog ≤
      (documentRanks fused metas catalog).length • rankWeight rankAggK 15 :=
    rankSum_le_nsmul fun rank member => rankWeight_rankAggK_antitone (tail rank member)
  refine each.trans (le_of_eq ?_)
  rw [first, nsmul_eq_mul, mul_one_div]

/-- At most three hits in the tail never outweigh the first three ranks. -/
theorem documentScore_lt_of_few (top : OwnsTopThree fused metas focused)
    (tail : LiesInTail fused metas catalog)
    (few : (documentRanks fused metas catalog).length ≤ 3) :
    documentScore fused metas catalog < documentScore fused metas focused := by
  -- Three times the weight of rank fifteen is less than the weight of the first three.
  have most := documentScore_le_tail tail
  have least := topThree_le_documentScore top
  have count : ((documentRanks fused metas catalog).length : ℚ) ≤ 3 := by exact_mod_cast few
  linarith

/-- The tail stays behind when it is short, and otherwise when its ranks weigh less. -/
theorem outscores_iff_ranks (top : OwnsTopThree fused metas focused)
    (tail : LiesInTail fused metas catalog) :
    Outscores fused metas focused catalog ↔
      (documentRanks fused metas catalog).length ≤ 3 ∨
        reciprocalSum (documentRanks fused metas catalog) <
          reciprocalSum (documentRanks fused metas focused) := by
  rw [← documentScore_eq_reciprocalSum, ← documentScore_eq_reciprocalSum]
  constructor
  · intro outscores
    by_cases empty : documentRanks fused metas catalog = []
    · exact Or.inl (by simp [empty])
    · -- Both documents are listed, each with its score.
      have listed := (ranksOf_ne_nil _).mp empty
      have leads := (ranksOf_ne_nil _).mp (List.ne_nil_of_mem (top 1 (by simp)))
      exact Or.inr (outscores _ _ (mem_aggregateToDocuments.mpr ⟨leads, rfl⟩)
        (mem_aggregateToDocuments.mpr ⟨listed, rfl⟩))
  · intro light higher lower first second
    rw [(mem_aggregateToDocuments.mp first).2, (mem_aggregateToDocuments.mp second).2]
    rcases light with few | lighter
    · exact documentScore_lt_of_few top tail few
    · exact lighter

/-- Which of the documents one, two and three a chunk id belongs to. -/
def tailDocument (chunkId : Int) : Int := if chunkId ≤ 3 then 1 else if chunkId ≤ 14 then 3 else 2

/-- Chunks one to three are in the manual, up to fourteen in a brochure, then in the catalog. -/
def tailMetas (chunkId : Int) : Option ChunkMeta :=
  -- All three documents consist of pages.
  some { chunkId, documentId := tailDocument chunkId, ordinal := chunkId, text := "",
         isPdf := true }

/-- The hit at some rank of a pool in which chunk ids and ranks agree. -/
def rankedHit (rank : Nat) : FusedHit := { chunkId := rank, score := 1 / (60 + rank) }

/-- A pool with the three pages of the manual, the brochure, and a tail of catalog pages. -/
def tailPool (count : Nat) : List FusedHit :=
  (List.range' 1 14).map rankedHit ++ (List.range' 15 count).map rankedHit

/-- In the example pool, a document owns the ranks whose chunk ids it owns. -/
theorem ofDocument_rankedHit (documentId : Int) (rank : Nat) :
    ofDocument tailMetas documentId (rankedHit rank) = (tailDocument rank == documentId) := rfl

/-- Every hit of the tail of the example pool is one of the catalog. -/
theorem ofDocument_tail (documentId : Int) {count : Nat} :
    ∀ hit ∈ (List.range' 15 count).map rankedHit,
      ofDocument tailMetas documentId hit = (2 == documentId) := by
  -- Its chunk id is its rank, which is past those of the manual and of the brochure.
  intro hit member
  obtain ⟨rank, late, rfl⟩ := List.mem_map.mp member
  have bound := (List.mem_range'_1.mp late).1
  rw [ofDocument_rankedHit, tailDocument, if_neg (by omega), if_neg (by omega)]

/-- The manual owns the first three ranks and no others. -/
theorem documentRanks_manual (count : Nat) :
    documentRanks (tailPool count) tailMetas 1 = [1, 2, 3] := by
  -- The front is looked up rank by rank, and nothing of the manual is in the tail.
  have front : ranksOf (ofDocument tailMetas 1) 1 ((List.range' 1 14).map rankedHit) =
      [1, 2, 3] := by
    decide
  have rest : ranksOf (ofDocument tailMetas 1) (1 + 14) ((List.range' 15 count).map rankedHit) =
      [] :=
    ranksOf_of_none _ (ofDocument_tail 1)
  rw [documentRanks, tailPool, ranksOf_append, front]
  simpa using rest

/-- The catalog owns the ranks from fifteen on and no others. -/
theorem documentRanks_catalog (count : Nat) :
    documentRanks (tailPool count) tailMetas 2 = List.range' 15 count := by
  -- Nothing of the catalog is in the front, and the tail holds nothing else.
  have front : ranksOf (ofDocument tailMetas 2) 1 ((List.range' 1 14).map rankedHit) = [] := by
    decide
  have rest : ranksOf (ofDocument tailMetas 2) (1 + 14) ((List.range' 15 count).map rankedHit) =
      List.range' 15 count := by
    rw [ranksOf_of_all _ (ofDocument_tail 2), List.length_map, List.length_range']
  rw [documentRanks, tailPool, ranksOf_append, front]
  simpa using rest

/-- Four consecutive ranks from fifteen on outweigh the first three. -/
theorem reciprocalSum_top_lt (count : Nat) (many : 4 ≤ count) :
    reciprocalSum [1, 2, 3] < reciprocalSum (List.range' 15 count) := by
  -- The first four of the ranks are enough.
  obtain ⟨more, rfl⟩ := Nat.exists_eq_add_of_le many
  have rest : 0 ≤ reciprocalSum (List.range' 19 more) := by
    refine List.sum_nonneg fun value member => ?_
    obtain ⟨rank, _, rfl⟩ := List.mem_map.mp member
    positivity
  have split : reciprocalSum (List.range' 15 (4 + more)) =
      reciprocalSum [15, 16, 17, 18] + reciprocalSum (List.range' 19 more) := by
    rw [← List.range'_append_1, reciprocalSum, reciprocalSum, reciprocalSum, List.map_append,
      List.sum_append]
    rfl
  have four : reciprocalSum [1, 2, 3] < reciprocalSum [15, 16, 17, 18] := by
    norm_num [reciprocalSum]
  linarith

/-- In every example pool the manual owns the first three ranks. -/
theorem ownsTopThree_manual (count : Nat) : OwnsTopThree (tailPool count) tailMetas 1 := by
  simp [OwnsTopThree, documentRanks_manual]

/-- In every example pool the catalog lies in the tail. -/
theorem liesInTail_catalog (count : Nat) : LiesInTail (tailPool count) tailMetas 2 := by
  -- The hits of the catalog follow one another from rank fifteen on.
  intro rank member
  rw [documentRanks_catalog] at member
  exact (List.mem_range'_1.mp member).1

/-- Four catalog pages or more in the tail outscore the manual. -/
theorem not_outscores_tailPool {count : Nat} (many : 4 ≤ count) :
    ¬ Outscores (tailPool count) tailMetas 1 2 := by
  intro outscores
  have light := (outscores_iff_ranks (ownsTopThree_manual count) (liesInTail_catalog count)).mp
    outscores
  rw [documentRanks_manual, documentRanks_catalog, List.length_range'] at light
  -- The tail is neither short nor light.
  rcases light with few | lighter
  · omega
  · exact absurd (reciprocalSum_top_lt count many) (not_lt.mpr lighter.le)

/-- A tail of so many hits never out-sums the manual exactly when there are at most three. -/
theorem outscores_tail_iff (count : Nat) :
    (∀ fused metas focused catalog, OwnsTopThree fused metas focused →
      LiesInTail fused metas catalog → (documentRanks fused metas catalog).length = count →
      Outscores fused metas focused catalog) ↔ count ≤ 3 := by
  constructor
  · intro always
    by_contra many
    -- The example pool with that many catalog pages gives the catalog the larger sum.
    have counted : (documentRanks (tailPool count) tailMetas 2).length = count := by
      rw [documentRanks_catalog, List.length_range']
    have outscores := always _ _ 1 2 (ownsTopThree_manual count) (liesInTail_catalog count) counted
    exact not_outscores_tailPool (by omega) outscores
  · -- No three ranks of the tail reach the weight of the first three.
    intro few fused metas focused catalog top tail counted
    exact (outscores_iff_ranks top tail).mpr (Or.inl (counted ▸ few))

/-- Four catalog pages at ranks fifteen to eighteen outscore a manual at ranks one to three. -/
theorem not_outscores_tail :
    ¬ ∀ fused metas focused catalog, OwnsTopThree fused metas focused →
      LiesInTail fused metas catalog → Outscores fused metas focused catalog := by
  -- Four hits in the tail weigh more than the first three ranks.
  intro always
  have outscores := always (tailPool 4) tailMetas 1 2 (ownsTopThree_manual 4) (liesInTail_catalog 4)
  exact not_outscores_tailPool le_rfl outscores

end TorqueFinder
