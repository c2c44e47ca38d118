import TorqueFinder.Lib.Table
import TorqueFinder.Retrieval.PageExpansionLaws

/-! The candidate list as a budgeted append of the neighbours closest to the anchor. -/

namespace TorqueFinder

open Ranking

/-- The neighbours that are not among the base hits. -/
def outsideBase (base : List FusedHit) (neighbors : List ChunkMeta) : List ChunkMeta :=
  neighbors.filter fun neighbor => !(base.map FusedHit.chunkId).contains neighbor.chunkId

/-- How far a neighbour stands from the anchor, with the earlier of two equally far ones first. -/
def closeness (anchorOrdinal : Int) (neighbor : ChunkMeta) : Lex (Int × Int) :=
  toLex (|neighbor.ordinal - anchorOrdinal|, neighbor.ordinal)

/-- What a candidate list owes to its base, its neighbours, its anchor and its budget. -/
structure Assembled (base : List FusedHit) (neighbors : List ChunkMeta) (anchorOrdinal : Int)
    (anchorScore : ℚ) (maxCandidates : Nat) (result appended : List FusedHit) : Prop where
  appends : result = base.take maxCandidates ++ appended
  length : result.length = if base.length ≤ maxCandidates then
    min maxCandidates (base.length + (outsideBase base neighbors).length) else maxCandidates
  distinct : (result.map FusedHit.chunkId).Nodup
  fromNeighbors : ∀ hit ∈ appended,
    hit.chunkId ∈ (outsideBase base neighbors).map ChunkMeta.chunkId
  -- The closest neighbours come first, and none that was dropped is closer than one kept.
  closestFirst : ∀ first ∈ neighbors, ∀ second ∈ neighbors,
    Precedes (appended.map FusedHit.chunkId) first.chunkId second.chunkId →
    closeness anchorOrdinal first ≤ closeness anchorOrdinal second
  dropsFarthest : ∀ dropped ∈ outsideBase base neighbors, ∀ kept ∈ neighbors,
    dropped.chunkId ∉ result.map FusedHit.chunkId →
    kept.chunkId ∈ appended.map FusedHit.chunkId →
    ¬ closeness anchorOrdinal dropped < closeness anchorOrdinal kept
  belowAnchor : ∀ hit ∈ appended, hit.score < anchorScore
  decreasing : appended.Pairwise fun first second => second.score < first.score
  sorted : sortDesc FusedHit.score appended = appended

section Appended

variable {winners : List FusedHit} {neighbors : List ChunkMeta} {anchorOrdinal : Int}
  {anchorScore : ℚ} {room : Nat}

/-- The ordered neighbours are those outside the winners, sorted by closeness. -/
theorem orderedNeighbors_eq :
    orderedNeighbors winners neighbors anchorOrdinal =
      sortAsc (closeness anchorOrdinal) (outsideBase winners neighbors) := rfl

/-- As many neighbours are appended as there are and as fit the room. -/
theorem appendedNeighbors_length_eq :
    (appendedNeighbors winners neighbors anchorOrdinal anchorScore room).length =
      min room (outsideBase winners neighbors).length := by
  -- Ranking and sorting keep the number of neighbours.
  rw [appendedNeighbors, List.length_map, List.length_take, List.length_zipIdx,
    orderedNeighbors_eq, (sortAsc_perm _ _).length_eq]

/-- Appended hits score below the anchor, the first one the most. -/
theorem appendedNeighbors_scores :
    (∀ hit ∈ appendedNeighbors winners neighbors anchorOrdinal anchorScore room,
      hit.score < anchorScore) ∧
    (appendedNeighbors winners neighbors anchorOrdinal anchorScore room).Pairwise
      fun first second => second.score < first.score := by
  -- Each rank, counted from one, takes one more bonus off the anchor score.
  have bonus : (0 : ℚ) < rerankBonus := by norm_num [rerankBonus]
  constructor
  · intro hit appended
    obtain ⟨⟨neighbor, rank⟩, member, rfl⟩ := List.mem_map.mp appended
    have counted := (List.mk_mem_zipIdx_iff_le_and_getElem?_sub.mp (List.mem_of_mem_take member)).1
    have positive : (1 : ℚ) ≤ rank := by exact_mod_cast counted
    have taken : (0 : ℚ) < rank * rerankBonus := by positivity
    exact sub_lt_self _ taken
  · have ranks : (((orderedNeighbors winners neighbors anchorOrdinal).zipIdx 1).map
        Prod.snd).Pairwise (· < ·) := by
      rw [List.zipIdx_map_snd]
      exact List.pairwise_lt_range'
    rw [List.pairwise_map] at ranks
    rw [appendedNeighbors, List.pairwise_map]
    refine (ranks.sublist (List.take_sublist _ _)).imp fun {first second} earlier => ?_
    have later : (first.2 : ℚ) < second.2 := by exact_mod_cast earlier
    have taken : first.2 * rerankBonus < second.2 * rerankBonus := by gcongr
    exact sub_lt_sub_left taken anchorScore

/-- A neighbour whose id is among the first of the ordered neighbours is one of them. -/
theorem mem_take_of_id (distinct : (neighbors.map ChunkMeta.chunkId).Nodup) {neighbor : ChunkMeta}
    (given : neighbor ∈ neighbors)
    (listed : neighbor.chunkId ∈
      ((orderedNeighbors winners neighbors anchorOrdinal).take room).map ChunkMeta.chunkId) :
    neighbor ∈ (orderedNeighbors winners neighbors anchorOrdinal).take room := by
  -- No two neighbours share an id.
  obtain ⟨other, member, same⟩ := List.mem_map.mp listed
  have otherGiven := (mem_orderedNeighbors.mp (List.mem_of_mem_take member)).1
  rwa [← Table.eq_of_key distinct otherGiven given same]

/-- Appended neighbours are in order of closeness. -/
theorem appendedNeighbors_closest (distinct : (neighbors.map ChunkMeta.chunkId).Nodup)
    {first second : ChunkMeta} (left : first ∈ neighbors) (right : second ∈ neighbors)
    (before : Precedes
      ((appendedNeighbors winners neighbors anchorOrdinal anchorScore room).map FusedHit.chunkId)
      first.chunkId second.chunkId) :
    closeness anchorOrdinal first ≤ closeness anchorOrdinal second := by
  rw [appendedNeighbors_ids] at before
  obtain ⟨one, other, held, sameFirst, sameSecond⟩ := precedes_map.mp before
  -- The ids name the two neighbours, and a prefix of a sorted list is sorted.
  have oneGiven := (mem_orderedNeighbors.mp (List.mem_of_mem_take held.left_mem)).1
  have otherGiven := (mem_orderedNeighbors.mp (List.mem_of_mem_take held.right_mem)).1
  rw [← Table.eq_of_key distinct oneGiven left sameFirst,
    ← Table.eq_of_key distinct otherGiven right sameSecond]
  have sorted := sortAsc_pairwise (closeness anchorOrdinal) (outsideBase winners neighbors)
  exact pairwise_iff_precedes.mp sorted one other (held.of_sublist (List.take_sublist _ _))

/-- A neighbour that was not appended is not closer than one that was. -/
theorem appendedNeighbors_drops (distinct : (neighbors.map ChunkMeta.chunkId).Nodup)
    {dropped kept : ChunkMeta} (outside : dropped ∈ outsideBase winners neighbors)
    (given : kept ∈ neighbors)
    (absent : dropped.chunkId ∉
      (appendedNeighbors winners neighbors anchorOrdinal anchorScore room).map FusedHit.chunkId)
    (present : kept.chunkId ∈
      (appendedNeighbors winners neighbors anchorOrdinal anchorScore room).map FusedHit.chunkId) :
    ¬ closeness anchorOrdinal dropped < closeness anchorOrdinal kept := by
  rw [appendedNeighbors_ids] at absent present
  have front := mem_take_of_id distinct given present
  -- The dropped neighbour stands behind the cut, in a list sorted by closeness.
  have back : dropped ∈ (orderedNeighbors winners neighbors anchorOrdinal).drop room := by
    have member : dropped ∈ orderedNeighbors winners neighbors anchorOrdinal := by
      rw [orderedNeighbors_eq, mem_sortAsc]
      exact outside
    rw [← List.take_append_drop room (orderedNeighbors winners neighbors anchorOrdinal)] at member
    refine (List.mem_append.mp member).resolve_left fun held => absent ?_
    exact List.mem_map_of_mem held
  have sorted := sortAsc_pairwise (closeness anchorOrdinal) (outsideBase winners neighbors)
  rw [← orderedNeighbors_eq,
    ← List.take_append_drop room (orderedNeighbors winners neighbors anchorOrdinal)] at sorted
  exact not_lt.mpr ((List.pairwise_append.mp sorted).2.2 kept front dropped back)

end Appended

/-- What is assembled behind the base winners is the appended neighbours. -/
theorem assembleCandidates_drop (base : List FusedHit) (neighbors : List ChunkMeta)
    (anchorOrdinal : Int) (anchorScore : ℚ) (maxCandidates : Nat) :
    (assembleCandidates base neighbors anchorOrdinal anchorScore maxCandidates).drop
        (min maxCandidates base.length) =
      appendedNeighbors (base.take maxCandidates) neighbors anchorOrdinal anchorScore
        (maxCandidates - base.length) := by
  -- The winners are a prefix of exactly that length.
  rw [assembleCandidates_eq, ← List.length_take, List.drop_left]

/-- A base that fills the budget is cut to it, and nothing is appended. -/
theorem assembled_of_full {base : List FusedHit} {neighbors : List ChunkMeta}
    {anchorOrdinal : Int} {anchorScore : ℚ} {maxCandidates : Nat}
    (baseDistinct : (base.map FusedHit.chunkId).Nodup) (full : maxCandidates < base.length) :
    Assembled base neighbors anchorOrdinal anchorScore maxCandidates (base.take maxCandidates)
      [] where
  -- A full base leaves no room, so nothing is appended.
  appends := by simp
  length := by
    rw [if_neg (by omega), List.length_take]
    omega
  distinct := baseDistinct.sublist ((List.take_sublist _ _).map _)
  fromNeighbors := by simp
  closestFirst := by simp
  dropsFarthest := by simp
  belowAnchor := by simp
  decreasing := List.Pairwise.nil
  sorted := rfl

/-- A base within the budget is kept whole, and the closest neighbours fill what is left. -/
theorem assembled_of_fits {base : List FusedHit} {neighbors : List ChunkMeta}
    {anchorOrdinal : Int} {anchorScore : ℚ} {maxCandidates : Nat}
    (baseDistinct : (base.map FusedHit.chunkId).Nodup)
    (neighborsDistinct : (neighbors.map ChunkMeta.chunkId).Nodup)
    (fits : base.length ≤ maxCandidates) :
    Assembled base neighbors anchorOrdinal anchorScore maxCandidates
      (base ++ appendedNeighbors base neighbors anchorOrdinal anchorScore
        (maxCandidates - base.length))
      (appendedNeighbors base neighbors anchorOrdinal anchorScore
        (maxCandidates - base.length)) where
  appends := by rw [List.take_of_length_le fits]
  length := by
    rw [if_pos fits, List.length_append, appendedNeighbors_length_eq]
    omega
  distinct := by
    -- Both parts are free of repeats, and no appended id is a base id.
    rw [List.map_append, List.nodup_append]
    refine ⟨baseDistinct, appendedNeighbors_nodup neighborsDistinct, ?_⟩
    intro kept inBase added appended same
    exact (appendedNeighbors_mem appended).2 (same ▸ inBase)
  fromNeighbors := by
    intro hit appended
    have listed : hit.chunkId ∈ ((orderedNeighbors base neighbors anchorOrdinal).take
        (maxCandidates - base.length)).map ChunkMeta.chunkId := by
      rw [← appendedNeighbors_ids]
      exact List.mem_map_of_mem appended
    obtain ⟨neighbor, member, same⟩ := List.mem_map.mp listed
    have outside : neighbor ∈ outsideBase base neighbors := by
      rw [← mem_sortAsc (closeness anchorOrdinal), ← orderedNeighbors_eq]
      exact List.mem_of_mem_take member
    exact List.mem_map.mpr ⟨neighbor, outside, same⟩
  closestFirst := fun _ left _ right => appendedNeighbors_closest neighborsDistinct left right
  dropsFarthest := by
    -- What is dropped stands behind what is kept.
    intro dropped outside kept given absent present
    refine appendedNeighbors_drops neighborsDistinct outside given (fun held => absent ?_) present
    rw [List.map_append]
    exact List.mem_append_right _ held
  belowAnchor := appendedNeighbors_scores.1
  decreasing := appendedNeighbors_scores.2
  sorted := sortDesc_eq_self_iff.mpr (appendedNeighbors_scores.2.imp fun lower => lower.le)

/-- Assembly keeps the base in front and fills the budget with the closest other neighbours. -/
theorem assembleCandidates_assembled (base : List FusedHit) (neighbors : List ChunkMeta)
    (anchorOrdinal : Int) (anchorScore : ℚ) (maxCandidates : Nat)
    (baseDistinct : (base.map FusedHit.chunkId).Nodup)
    (neighborsDistinct : (neighbors.map ChunkMeta.chunkId).Nodup) :
    Assembled base neighbors anchorOrdinal anchorScore maxCandidates
      (assembleCandidates base neighbors anchorOrdinal anchorScore maxCandidates)
      ((assembleCandidates base neighbors anchorOrdinal anchorScore maxCandidates).drop
        (min maxCandidates base.length)) := by
  rw [assembleCandidates_drop, assembleCandidates_eq]
  rcases Nat.lt_or_ge maxCandidates base.length with full | fits
  · -- Without room, nothing is appended.
    have none : maxCandidates - base.length = 0 := by omega
    have empty : appendedNeighbors (base.take maxCandidates) neighbors anchorOrdinal anchorScore
        (maxCandidates - base.length) = [] := by
      rw [none]
      rfl
    rw [empty, List.append_nil]
    exact assembled_of_full baseDistinct full
  · rw [List.take_of_length_le fits]
    exact assembled_of_fits baseDistinct neighborsDistinct fits

/-- Two base hits of a budget of three leave room for the closer of two neighbours. -/
theorem assembleCandidates_assembled_three :
    (assembleCandidates [⟨11, 3 / 100⟩, ⟨12, 2 / 100⟩]
      [⟨21, 1, 9, "", true⟩, ⟨22, 1, 6, "", true⟩] 7 (3 / 100) 3).length = 3 :=
  -- One of the two neighbours still fits.
  (assembleCandidates_assembled [⟨11, 3 / 100⟩, ⟨12, 2 / 100⟩]
    [⟨21, 1, 9, "", true⟩, ⟨22, 1, 6, "", true⟩] 7 (3 / 100) 3 (by decide) (by decide)).length

end TorqueFinder
