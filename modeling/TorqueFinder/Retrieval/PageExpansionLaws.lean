import TorqueFinder.Retrieval.PageExpansion
import TorqueFinder.Retrieval.RerankLaws

/-! What the within-document pass keeps, and what the assembled candidate list holds. -/

namespace TorqueFinder

open Ranking Tally

section WithinDoc

variable {queryText : String} {fused : List FusedHit} {metas : Int → Option ChunkMeta}
  {leaderDocId : Int} {first second : FusedHit}

/-- The within-document pass never lowers a score. -/
theorem withinDocBonus_nonneg (hit : FusedHit) :
    0 ≤ withinDocBonus queryText metas leaderDocId hit := by
  -- The bonus is zero on every branch but one.
  unfold withinDocBonus
  repeat' split
  all_goals norm_num [rerankBonus]

/-- The within-document pass never adds more than the bonus. -/
theorem withinDocBonus_le (hit : FusedHit) :
    withinDocBonus queryText metas leaderDocId hit ≤ rerankBonus := by
  -- The bonus is the largest value of any branch.
  unfold withinDocBonus
  repeat' split
  all_goals norm_num [rerankBonus]

/-- The within-document pass rearranges the hits. -/
theorem rerankWithinDoc_perm : (rerankWithinDoc queryText fused metas leaderDocId).Perm fused := by
  -- Without query tokens the pass returns the list, else it sorts it.
  unfold rerankWithinDoc
  split
  · exact List.Perm.refl _
  · exact sortDesc_perm _ _

/-- The within-document pass never brings a hit past one that leads by more than the bonus. -/
theorem rerankWithinDoc_precedes (held : Precedes fused first second)
    (margin : rerankBonus < first.score - second.score) :
    Precedes (rerankWithinDoc queryText fused metas leaderDocId) first second := by
  -- The bonus of the trailing hit cannot make up for the margin.
  unfold rerankWithinDoc
  split
  · exact held
  · exact sortDesc_precedes_of_margin held.left_mem held.right_mem
      (withinDocBonus_nonneg first) (withinDocBonus_le second) (by simpa using margin)

end WithinDoc

section Leader

variable {fused : List FusedHit} {metas : Int → Option ChunkMeta} {documentId : Int}

/-- The chosen leader chunk is one of the hits it was chosen from. -/
theorem selectLeaderChunk_mem {leader : FusedHit} (chosen : selectLeaderChunk fused = some leader) :
    leader ∈ fused :=
  List.argmin_mem chosen

/-- A hit belongs to a document when its facts name that document. -/
theorem ofDocument_iff {hit : FusedHit} :
    ofDocument metas documentId hit ↔
      ∃ known, metas hit.chunkId = some known ∧ known.documentId = documentId := by
  -- A hit without facts belongs to no document.
  cases facts : metas hit.chunkId <;> simp [ofDocument, facts]

/-- The documents given weight are those of the hits. -/
theorem documentWeights_ids :
    (documentWeights fused metas).map Prod.fst =
      fused.filterMap fun hit => (metas hit.chunkId).map ChunkMeta.documentId := by
  -- The ranks play no part in which document a weight goes to.
  have paired : (fused.zipIdx 1).map Prod.fst = fused := by simp
  conv_rhs => rw [← paired]
  simp only [documentWeights, List.map_filterMap, List.filterMap_map, Option.map_map]
  rfl

/-- The documents that collect evidence are those with a hit in the pool. -/
theorem mem_aggregateToDocuments_ids :
    documentId ∈ (aggregateToDocuments fused metas).map Prod.fst ↔
      ∃ hit ∈ fused, ofDocument metas documentId hit := by
  -- Sorting keeps the table, whose keys are the documents of the hits.
  rw [aggregateToDocuments, ((sortAsc_perm _ _).map Prod.fst).mem_iff, mem_accumulate_keys,
    documentWeights_ids, List.mem_filterMap]
  simp [ofDocument_iff]

/-- A leading document has a hit in the pool. -/
theorem selectLeadingDocument_mem (leading : selectLeadingDocument fused metas = some documentId) :
    ∃ hit ∈ fused, ofDocument metas documentId hit := by
  -- The top entry was given weight by some hit.
  obtain ⟨entry, top, rfl⟩ := Option.map_eq_some_iff.mp leading
  exact mem_aggregateToDocuments_ids.mp (List.mem_map_of_mem (List.mem_of_mem_head? top))

end Leader

section Assembly

/-- The neighbours outside the base winners, closest to the anchor first. -/
def orderedNeighbors (winners : List FusedHit) (neighbors : List ChunkMeta) (anchorOrdinal : Int) :
    List ChunkMeta :=
  -- Ties in the distance go to the earlier page.
  sortAsc (fun neighbor => toLex (|neighbor.ordinal - anchorOrdinal|, neighbor.ordinal))
    (neighbors.filter fun neighbor => !(winners.map FusedHit.chunkId).contains neighbor.chunkId)

/-- The hits appended for the neighbours that fit the remaining budget. -/
def appendedNeighbors (winners : List FusedHit) (neighbors : List ChunkMeta) (anchorOrdinal : Int)
    (anchorScore : ℚ) (room : Nat) : List FusedHit :=
  -- The neighbours stay below the anchor and in their own order.
  (((orderedNeighbors winners neighbors anchorOrdinal).zipIdx 1).take room).map
    fun (neighbor, rank) =>
      { chunkId := neighbor.chunkId, score := anchorScore - rank * rerankBonus }

/-- Appending until the budget is reached takes as many neighbours as there is room for. -/
theorem appendNeighbors_eq (anchorScore : ℚ) (maxCandidates : Nat) (kept : List FusedHit)
    (ranked : List (ChunkMeta × Nat)) :
    appendNeighbors anchorScore maxCandidates kept ranked =
      kept ++ (ranked.take (maxCandidates - kept.length)).map fun (neighbor, rank) =>
        { chunkId := neighbor.chunkId, score := anchorScore - rank * rerankBonus } := by
  -- Each appended neighbour uses up one place of the room that is left.
  induction ranked generalizing kept with
  | nil => simp [appendNeighbors]
  | cons next rest ih =>
    obtain ⟨neighbor, rank⟩ := next
    by_cases full : maxCandidates ≤ kept.length
    · have none : maxCandidates - kept.length = 0 := by omega
      simp [appendNeighbors, full, none]
    · have room : maxCandidates - kept.length = maxCandidates - (kept.length + 1) + 1 := by omega
      simp [appendNeighbors, full, ih, room]

/-- The assembled list is the base winners followed by the neighbours that fit. -/
theorem assembleCandidates_eq (base : List FusedHit) (neighbors : List ChunkMeta)
    (anchorOrdinal : Int) (anchorScore : ℚ) (maxCandidates : Nat) :
    assembleCandidates base neighbors anchorOrdinal anchorScore maxCandidates =
      base.take maxCandidates ++
        appendedNeighbors (base.take maxCandidates) neighbors anchorOrdinal anchorScore
          (maxCandidates - base.length) := by
  -- A full base leaves no room, and otherwise the whole base is kept.
  simp only [assembleCandidates]
  by_cases full : maxCandidates ≤ base.length
  · have none : maxCandidates - base.length = 0 := by omega
    simp [full, none, appendedNeighbors]
  · have short : base.take maxCandidates = base := List.take_of_length_le (by omega)
    rw [if_neg (by simpa using full), short, appendNeighbors_eq]
    rfl

variable {winners : List FusedHit} {neighbors : List ChunkMeta} {anchorOrdinal : Int}
  {anchorScore : ℚ} {room : Nat}

/-- The appended hits are those of the closest neighbours, in order. -/
theorem appendedNeighbors_ids :
    (appendedNeighbors winners neighbors anchorOrdinal anchorScore room).map FusedHit.chunkId =
      ((orderedNeighbors winners neighbors anchorOrdinal).take room).map ChunkMeta.chunkId := by
  -- The ranks only decide the display scores.
  have paired : ((orderedNeighbors winners neighbors anchorOrdinal).zipIdx 1).map Prod.fst =
      orderedNeighbors winners neighbors anchorOrdinal := by simp
  conv_rhs => rw [← paired]
  rw [appendedNeighbors, ← List.map_take, List.map_map, List.map_map]
  rfl

/-- An ordered neighbour is a given neighbour that is not among the winners. -/
theorem mem_orderedNeighbors {neighbor : ChunkMeta} :
    neighbor ∈ orderedNeighbors winners neighbors anchorOrdinal ↔
      neighbor ∈ neighbors ∧ neighbor.chunkId ∉ winners.map FusedHit.chunkId := by
  -- Sorting drops nothing.
  simp [orderedNeighbors]

/-- An appended id is the id of a neighbour that is not among the winners. -/
theorem appendedNeighbors_mem {chunkId : Int}
    (appended : chunkId ∈
      (appendedNeighbors winners neighbors anchorOrdinal anchorScore room).map FusedHit.chunkId) :
    chunkId ∈ neighbors.map ChunkMeta.chunkId ∧ chunkId ∉ winners.map FusedHit.chunkId := by
  -- What is appended is a prefix of the neighbours that are not winners.
  rw [appendedNeighbors_ids] at appended
  obtain ⟨neighbor, member, rfl⟩ := List.mem_map.mp appended
  obtain ⟨given, apart⟩ := mem_orderedNeighbors.mp (List.mem_of_mem_take member)
  exact ⟨List.mem_map_of_mem given, apart⟩

/-- The appended hits are pairwise different when the neighbours are. -/
theorem appendedNeighbors_nodup (distinct : (neighbors.map ChunkMeta.chunkId).Nodup) :
    ((appendedNeighbors winners neighbors anchorOrdinal anchorScore room).map
      FusedHit.chunkId).Nodup := by
  -- Filtering, sorting and cutting all keep the ids different.
  rw [appendedNeighbors_ids]
  refine List.Nodup.sublist ((List.take_sublist room _).map _) ?_
  rw [orderedNeighbors, ((sortAsc_perm _ _).map ChunkMeta.chunkId).nodup_iff]
  exact distinct.sublist (List.filter_sublist.map _)

/-- No more neighbours are appended than there is room for. -/
theorem appendedNeighbors_length :
    (appendedNeighbors winners neighbors anchorOrdinal anchorScore room).length ≤ room := by
  simp [appendedNeighbors]

/-- Something is appended as soon as there is room and a neighbour outside the winners. -/
theorem appendedNeighbors_ne_nil {neighbor : ChunkMeta} (given : neighbor ∈ neighbors)
    (apart : neighbor.chunkId ∉ winners.map FusedHit.chunkId) (space : 0 < room) :
    appendedNeighbors winners neighbors anchorOrdinal anchorScore room ≠ [] := by
  -- The ids are a prefix as long as the room, of a list that is not empty.
  have present : orderedNeighbors winners neighbors anchorOrdinal ≠ [] :=
    List.ne_nil_of_mem (mem_orderedNeighbors.mpr ⟨given, apart⟩)
  intro empty
  have ids : (appendedNeighbors winners neighbors anchorOrdinal anchorScore room).map
      FusedHit.chunkId = _ := appendedNeighbors_ids
  rw [empty, List.map_nil, eq_comm, List.map_eq_nil_iff, List.take_eq_nil_iff] at ids
  rcases ids with none | nothing
  · omega
  · exact present nothing

end Assembly

end TorqueFinder
