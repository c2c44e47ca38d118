import TorqueFinder.Lib.RankSum
import TorqueFinder.Retrieval.FusionLaws
import TorqueFinder.Retrieval.PageExpansionLaws

/-! How the ranks of a document's pages decide its aggregate and the leading document. -/

namespace TorqueFinder

open Ranking Tally

/-- The ranks, counted from one, at which the pool holds the hits of a document. -/
def documentRanks (fused : List FusedHit) (metas : Int → Option ChunkMeta) (documentId : Int) :
    List Nat :=
  -- A hit of another document takes a rank, too.
  ranksOf (ofDocument metas documentId) 1 fused

/-- The rank weights of a document's hits, added up. -/
def documentScore (fused : List FusedHit) (metas : Int → Option ChunkMeta) (documentId : Int) : ℚ :=
  rankSum (rankWeight rankAggK) (ofDocument metas documentId) 1 fused

section Aggregate

variable {fused : List FusedHit} {metas : Int → Option ChunkMeta} {documentId : Int}

/-- The weights given to a document from some rank on are those of its hits. -/
private theorem total_weights_from (fused : List FusedHit) (metas : Int → Option ChunkMeta)
    (documentId : Int) (start : Nat) :
    total ((fused.zipIdx start).filterMap fun (hit, rank) =>
        (metas hit.chunkId).map fun known => (known.documentId, rankWeight rankAggK rank))
        documentId =
      rankSum (rankWeight rankAggK) (ofDocument metas documentId) start fused := by
  -- The induction follows the pool, whose head holds the first rank.
  induction fused generalizing start with
  | nil => simp [total]
  | cons head tail ih =>
    rw [rankSum_cons, ← ih (start + 1), List.zipIdx_cons]
    cases known : metas head.chunkId with
    | none => simp [ofDocument, known]
    | some page =>
      by_cases owned : page.documentId = documentId
      · simp [ofDocument, known, owned, total]
      · simp [ofDocument, known, owned, total]

/-- The weights accumulated for a document add up to its score. -/
theorem total_documentWeights :
    total (documentWeights fused metas) documentId = documentScore fused metas documentId :=
  total_weights_from fused metas documentId 1

/-- Aggregation returns the documents with a hit in the pool, each with its score. -/
theorem mem_aggregateToDocuments {score : ℚ} :
    (documentId, score) ∈ aggregateToDocuments fused metas ↔
      (∃ hit ∈ fused, ofDocument metas documentId hit) ∧
        score = documentScore fused metas documentId := by
  -- Sorting keeps the accumulated table, which holds each document with its total.
  rw [aggregateToDocuments, mem_sortAsc, mem_accumulate, total_documentWeights,
    documentWeights_ids, List.mem_filterMap]
  simp [ofDocument_iff]

/-- The leading document has a hit, and no other document has more evidence or a lower id. -/
theorem selectLeadingDocument_iff :
    selectLeadingDocument fused metas = some documentId ↔
      (∃ hit ∈ fused, ofDocument metas documentId hit) ∧
        ∀ other, (∃ hit ∈ fused, ofDocument metas other hit) →
          documentScore fused metas other < documentScore fused metas documentId ∨
            (documentScore fused metas other = documentScore fused metas documentId ∧
              documentId ≤ other) := by
  -- The aggregated list starts with the least key: the largest score, then the lowest id.
  have keys : ∀ first second : Int × ℚ,
      toLex (-first.2, first.1) ≤ toLex (-second.2, second.1) ↔
        second.2 < first.2 ∨ (second.2 = first.2 ∧ first.1 ≤ second.1) := by
    intro first second
    rw [Prod.Lex.toLex_le_toLex, neg_lt_neg_iff, neg_inj, eq_comm (a := first.2)]
  constructor
  · intro leading
    obtain ⟨⟨document, score⟩, top, rfl⟩ := Option.map_eq_some_iff.mp leading
    obtain ⟨member, least⟩ := head_sortAsc_le _ top
    obtain ⟨owned, rfl⟩ := mem_aggregateToDocuments.mp ((mem_sortAsc _ _).mpr member)
    refine ⟨owned, fun other found => ?_⟩
    have entry : (other, documentScore fused metas other) ∈ aggregateToDocuments fused metas :=
      mem_aggregateToDocuments.mpr ⟨found, rfl⟩
    have ordered := least _ ((mem_sortAsc _ _).mp entry)
    exact (keys (document, documentScore fused metas document)
      (other, documentScore fused metas other)).mp ordered
  · -- The best document has an entry, so the list is not empty.
    intro leads
    obtain ⟨owned, best⟩ := leads
    have entry := mem_aggregateToDocuments.mpr ⟨owned, rfl⟩
    cases top : (aggregateToDocuments fused metas).head? with
    | none =>
      rw [List.head?_eq_none_iff] at top
      simp [top] at entry
    | some head =>
      obtain ⟨document, score⟩ := head
      obtain ⟨member, least⟩ := head_sortAsc_le _ top
      obtain ⟨found, rfl⟩ := mem_aggregateToDocuments.mp ((mem_sortAsc _ _).mpr member)
      -- The head and the best document are each at least as good as the other.
      have front := (keys _ _).mp (least _ ((mem_sortAsc _ _).mp entry))
      have back := best document found
      have same : document = documentId := by
        rcases front with larger | ⟨equal, lower⟩
        · rcases back with other | ⟨equal, _⟩ <;> linarith
        · rcases back with other | ⟨_, higher⟩
          · linarith
          · omega
      rw [selectLeadingDocument, top, ← same]
      rfl

end Aggregate

section Lift

variable {pool : List FusedHit} {metas : Int → Option ChunkMeta} {documentId : Int}
  {source target : Nat} {hit : FusedHit}

/-- Later ranks never weigh more in the aggregate. -/
theorem rankWeight_rankAggK_antitone : Antitone (rankWeight rankAggK) := by
  -- The offset keeps every divisor positive, also at rank zero.
  intro better worse ranked
  have larger : (better : ℚ) ≤ worse := by exact_mod_cast ranked
  have positive : (0 : ℚ) ≤ better := by positivity
  unfold rankWeight
  refine one_div_le_one_div_of_le ?_ (by linarith)
  norm_num [rankAggK, rrfK]
  linarith

/-- A hit belongs to one document at most. -/
theorem ofDocument_unique {other : Int} (owned : ofDocument metas documentId hit)
    (apart : other ≠ documentId) : ofDocument metas other hit = false := by
  -- A chunk belongs to one document only.
  obtain ⟨known, found, rfl⟩ := ofDocument_iff.mp owned
  simpa [ofDocument, found] using fun same => apart same.symm

/-- A score is summed stretch by stretch, and the last one starts where the others end. -/
private theorem documentScore_split (front middle back : List FusedHit) (documentId : Int) :
    documentScore (front ++ middle ++ back) metas documentId =
      rankSum (rankWeight rankAggK) (ofDocument metas documentId) 1 front +
        rankSum (rankWeight rankAggK) (ofDocument metas documentId) (1 + front.length) middle +
        rankSum (rankWeight rankAggK) (ofDocument metas documentId)
          (1 + (front.length + middle.length)) back := by
  -- The ranks go on counting from one part to the next.
  rw [documentScore, rankSum_append, rankSum_append, List.length_append]

/-- Lifting a hit never lowers the score of its document. -/
theorem documentScore_le_lift (earlier : target < source) (located : pool[source]? = some hit)
    (owned : ofDocument metas documentId hit) :
    documentScore pool metas documentId ≤
      documentScore (liftTo pool source target) metas documentId := by
  -- Only the stretch between the two positions changes, and there the hit moves to the front.
  obtain ⟨front, between, back, before, after⟩ := liftTo_eq earlier located
  have length : (between ++ [hit]).length = (hit :: between).length := by simp
  rw [after, before, documentScore_split, documentScore_split, length]
  have gained := rankSum_le_lift rankWeight_rankAggK_antitone owned (1 + front.length) between
  exact add_le_add (add_le_add le_rfl gained) le_rfl

/-- Lifting a hit never raises the score of a document it does not belong to. -/
theorem documentScore_lift_le (earlier : target < source) (located : pool[source]? = some hit)
    (passed : ofDocument metas documentId hit = false) :
    documentScore (liftTo pool source target) metas documentId ≤
      documentScore pool metas documentId := by
  -- The hits of the document in between are pushed one rank back.
  obtain ⟨front, between, back, before, after⟩ := liftTo_eq earlier located
  have length : (between ++ [hit]).length = (hit :: between).length := by simp
  rw [after, before, documentScore_split, documentScore_split, length]
  have lost := rankSum_lift_le rankWeight_rankAggK_antitone passed (1 + front.length) between
  exact add_le_add (add_le_add le_rfl lost) le_rfl

/-- Lifting a hit keeps the documents of the pool. -/
theorem found_lift_iff (earlier : target < source) (located : pool[source]? = some hit) :
    (∃ other ∈ liftTo pool source target, ofDocument metas documentId other) ↔
      ∃ other ∈ pool, ofDocument metas documentId other := by
  -- The lifted pool is a rearrangement of the pool.
  obtain ⟨front, between, back, before, after⟩ := liftTo_eq earlier located
  have members : ∀ other, other ∈ liftTo pool source target ↔ other ∈ pool := by
    intro other
    rw [after, before]
    simp only [List.mem_append, List.mem_cons, List.not_mem_nil, or_false]
    tauto
  simp only [members]

/-- Lifting a hit of the leading document leaves that document in the lead. -/
theorem selectLeadingDocument_lift (earlier : target < source)
    (located : pool[source]? = some hit) (owned : ofDocument metas documentId hit)
    (leading : selectLeadingDocument pool metas = some documentId) :
    selectLeadingDocument (liftTo pool source target) metas = some documentId := by
  obtain ⟨found, best⟩ := selectLeadingDocument_iff.mp leading
  refine selectLeadingDocument_iff.mpr ⟨(found_lift_iff earlier located).mpr found, ?_⟩
  intro other present
  by_cases same : other = documentId
  · exact Or.inr ⟨by rw [same], same.ge⟩
  · -- The lead only grows: the other score does not rise, and the leader's does not fall.
    have lost := documentScore_lift_le earlier located (ofDocument_unique owned same)
    have gained := documentScore_le_lift earlier located owned
    have listed : ∃ hit ∈ pool, ofDocument metas other hit :=
      (found_lift_iff earlier located).mp present
    rcases best other listed with ahead | ⟨tied, lower⟩
    · exact Or.inl (by linarith)
    · rcases lt_or_eq_of_le (lost.trans (tied.le.trans gained)) with ahead | level
      · exact Or.inl ahead
      · exact Or.inr ⟨level, lower⟩

/-- Lifting a page of a document never hurts it and never helps another. -/
theorem lift_helps_document (pool : List FusedHit) (metas : Int → Option ChunkMeta)
    (documentId : Int) (hit : FusedHit) (source target : Nat) (earlier : target < source)
    (located : pool[source]? = some hit) (owned : ofDocument metas documentId hit) :
    (∀ other, other ∈ (aggregateToDocuments (liftTo pool source target) metas).map Prod.fst ↔
      other ∈ (aggregateToDocuments pool metas).map Prod.fst) ∧
    (∀ before after, (documentId, before) ∈ aggregateToDocuments pool metas →
      (documentId, after) ∈ aggregateToDocuments (liftTo pool source target) metas →
      before ≤ after) ∧
    (∀ other before after, other ≠ documentId →
      (other, before) ∈ aggregateToDocuments pool metas →
      (other, after) ∈ aggregateToDocuments (liftTo pool source target) metas →
      after ≤ before) ∧
    (selectLeadingDocument pool metas = some documentId →
      selectLeadingDocument (liftTo pool source target) metas = some documentId) := by
  refine ⟨?_, ?_, ?_, selectLeadingDocument_lift earlier located owned⟩
  · intro other
    rw [mem_aggregateToDocuments_ids, mem_aggregateToDocuments_ids]
    exact found_lift_iff earlier located
  · intro before after old new
    rw [(mem_aggregateToDocuments.mp old).2, (mem_aggregateToDocuments.mp new).2]
    exact documentScore_le_lift earlier located owned
  · -- The hits of the other documents move down, or they stay.
    intro other before after apart old new
    rw [(mem_aggregateToDocuments.mp old).2, (mem_aggregateToDocuments.mp new).2]
    exact documentScore_lift_le earlier located (ofDocument_unique owned apart)

/-- The first page is of one document, and the two behind it of another. -/
def threePages : List FusedHit := [⟨1, 3 / 100⟩, ⟨2, 2 / 100⟩, ⟨3, 1 / 100⟩]

/-- The owners of the three pages. -/
def threePagesMetas (chunkId : Int) : Option ChunkMeta :=
  -- The first page belongs to one manual, and the others to another.
  some { chunkId, documentId := if chunkId = 1 then 1 else 2, ordinal := chunkId, text := "",
         isPdf := true }

/-- The second document leads through its two pages, and still does with one of them lifted. -/
theorem lift_helps_document_threePages :
    selectLeadingDocument (liftTo threePages 2 0) threePagesMetas = some 2 := by
  -- The last page is lifted to the front.
  have helped := lift_helps_document threePages threePagesMetas 2 ⟨3, 1 / 100⟩ 2 0 (by decide) rfl
    (by decide)
  exact helped.2.2.2 (by decide +kernel)

end Lift

end TorqueFinder
