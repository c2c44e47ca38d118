import TorqueFinder.Retrieval.Fusion

/-! Fusion of any number of channels: what is returned, in which order, and who comes first. -/

namespace TorqueFinder

open Ranking Tally

/-- The sum of the rank weights over the channels that found a chunk. -/
def fusionScore (channels : List Channel) (k : Nat) (chunkId : Int) : ℚ :=
  -- A channel that has not found the chunk adds nothing.
  ((channels.filter fun channel => chunkId ∈ channel.ids).map fun channel =>
    1 / (k + channel.rank chunkId : ℚ)).sum

/-- The position at which the channels, read one after the other, first give a chunk. -/
def firstOccurrence (channels : List Channel) (chunkId : Int) : Nat :=
  (channels.flatMap Channel.ids).idxOf chunkId

/-- A chunk is nowhere behind another and somewhere ahead of it. -/
structure Dominates (channels : List Channel) (better worse : Int) : Prop where
  neverBehind : ∀ channel ∈ channels, worse ∈ channel.ids →
    better ∈ channel.ids ∧ channel.rank better ≤ channel.rank worse
  -- A channel that found only the better chunk counts as being ahead.
  somewhereAhead : ∃ channel ∈ channels, better ∈ channel.ids ∧
    (worse ∈ channel.ids → channel.rank better < channel.rank worse)

section Weights

variable {k : Nat}

/-- Every rank counted from one has a positive weight. -/
theorem rankWeight_pos {rank : Nat} (counted : 1 ≤ rank) : 0 < rankWeight k rank :=
  one_div_pos.mpr (rankDivisor_pos k counted)

/-- A chunk of strictly higher rank has the strictly smaller weight. -/
theorem rankWeight_strictAnti {better worse : Nat} (ranked : better < worse)
    (counted : 1 ≤ better) : rankWeight k worse < rankWeight k better := by
  -- A larger rank is a larger divisor, and the smaller one is already positive.
  have larger : (better : ℚ) < worse := by exact_mod_cast ranked
  unfold rankWeight
  exact one_div_lt_one_div_of_lt (rankDivisor_pos k counted) (by linarith)

/-- What a channel gives to any chunk is not negative. -/
theorem total_rankWeights_nonneg {channel : Channel} (distinct : channel.ids.Nodup)
    (chunkId : Int) : 0 ≤ total (rankWeights k channel) chunkId := by
  -- A found chunk gets the weight of its rank, and any other chunk gets nothing.
  by_cases found : chunkId ∈ channel.ids
  · rw [total_rankWeights_rank distinct found]
    exact (rankWeight_pos (Channel.rank_bounds found).1).le
  · rw [total_rankWeights_of_not_mem found]

end Weights

section Scores

variable {channels : List Channel} {k : Nat}

/-- The weights added up for a chunk are those of its ranks in the channels that found it. -/
theorem total_rankWeights_flatMap (distinct : ∀ channel ∈ channels, channel.ids.Nodup)
    (chunkId : Int) :
    total (channels.flatMap (rankWeights k)) chunkId = fusionScore channels k chunkId := by
  -- The channels contribute one after the other, and only those that found the chunk do.
  rw [total_flatMap]
  induction channels with
  | nil => rfl
  | cons channel rest ih =>
    obtain ⟨here, later⟩ := List.forall_mem_cons.mp distinct
    rw [List.map_cons, List.sum_cons, ih later]
    by_cases found : chunkId ∈ channel.ids
    · rw [total_rankWeights_rank here found]
      simp [fusionScore, found, rankWeight]
    · rw [total_rankWeights_of_not_mem found, zero_add]
      simp [fusionScore, found]

/-- A dominating chunk has the strictly larger score. -/
theorem Dominates.score_lt (distinct : ∀ channel ∈ channels, channel.ids.Nodup)
    {better worse : Int} (dominates : Dominates channels better worse) :
    total (channels.flatMap (rankWeights k)) worse <
      total (channels.flatMap (rankWeights k)) better := by
  rw [total_flatMap, total_flatMap]
  -- No channel gives the better chunk less, and the one where it is ahead gives it more.
  refine List.sum_lt_sum _ _ ?_ ?_
  · intro channel member
    by_cases found : worse ∈ channel.ids
    · obtain ⟨also, ranked⟩ := dominates.neverBehind channel member found
      rw [total_rankWeights_rank (distinct channel member) found,
        total_rankWeights_rank (distinct channel member) also]
      exact rankWeight_antitone k ranked (Channel.rank_bounds also).1
    · rw [total_rankWeights_of_not_mem found]
      exact total_rankWeights_nonneg (distinct channel member) better
  · obtain ⟨channel, member, held, ahead⟩ := dominates.somewhereAhead
    refine ⟨channel, member, ?_⟩
    have counted := (Channel.rank_bounds held).1
    rw [total_rankWeights_rank (distinct channel member) held]
    by_cases found : worse ∈ channel.ids
    · rw [total_rankWeights_rank (distinct channel member) found]
      exact rankWeight_strictAnti (ahead found) counted
    · rw [total_rankWeights_of_not_mem found]
      exact rankWeight_pos counted

end Scores

section Order

variable {channels : List Channel} {k : Nat}

/-- Larger scores come first, and equal scores stay in first-occurrence order. -/
theorem reciprocalRankFusion_pairwise :
    (reciprocalRankFusion channels k).Pairwise fun first second =>
      second.score < first.score ∨ (first.score = second.score ∧
        firstOccurrence channels first.chunkId < firstOccurrence channels second.chunkId) := by
  -- The table lists the chunks by first occurrence, which is what the stable sort starts from.
  have entries : (channels.flatMap (rankWeights k)).map Prod.fst =
      channels.flatMap Channel.ids := by
    simp [List.map_flatMap]
  have met := accumulate_keys_pairwise (channels.flatMap (rankWeights k))
  rw [entries, List.pairwise_map] at met
  rw [reciprocalRankFusion, pairwise_sortDesc_iff, List.pairwise_map]
  refine met.imp fun {first second} earlier => ?_
  obtain ⟨firstId, firstScore⟩ := first
  obtain ⟨secondId, secondScore⟩ := second
  -- An outscored chunk moves behind, and a chunk that is not outscored stays in front.
  by_cases outscored : firstScore < secondScore
  · rw [if_pos outscored]
    exact Or.inl outscored
  · rw [if_neg outscored]
    rcases lt_or_eq_of_le (not_lt.mp outscored) with larger | same
    · exact Or.inl larger
    · exact Or.inr ⟨same.symm, earlier⟩

/-- Each chunk some channel found is returned with the sum of its weights. -/
theorem fused_mem_reciprocalRankFusion {chunkId : Int}
    (found : ∃ channel ∈ channels, chunkId ∈ channel.ids) :
    { chunkId, score := total (channels.flatMap (rankWeights k)) chunkId } ∈
      reciprocalRankFusion channels k :=
  -- The hit carries the sum of all its weights.
  mem_reciprocalRankFusion_total.mpr ⟨found, rfl⟩

/-- The chunks returned by fusion are those some channel found. -/
theorem mem_reciprocalRankFusion_ids {chunkId : Int} :
    chunkId ∈ (reciprocalRankFusion channels k).map FusedHit.chunkId ↔
      ∃ channel ∈ channels, chunkId ∈ channel.ids := by
  -- A returned chunk was found, and a found chunk is returned with its sum.
  constructor
  · intro returned
    obtain ⟨hit, member, rfl⟩ := List.mem_map.mp returned
    exact (mem_reciprocalRankFusion_total.mp member).1
  · intro found
    exact List.mem_map.mpr ⟨_, fused_mem_reciprocalRankFusion found, rfl⟩

/-- A dominating chunk comes before the chunk it dominates. -/
theorem Dominates.precedes (distinct : ∀ channel ∈ channels, channel.ids.Nodup)
    {better worse : Int} (dominates : Dominates channels better worse)
    (found : ∃ channel ∈ channels, worse ∈ channel.ids) :
    Precedes ((reciprocalRankFusion channels k).map FusedHit.chunkId) better worse := by
  -- Both chunks are returned with their sums, and the larger sum is sorted in front.
  have ahead : ∃ channel ∈ channels, better ∈ channel.ids := by
    obtain ⟨channel, member, held, _⟩ := dominates.somewhereAhead
    exact ⟨channel, member, held⟩
  have left := fused_mem_reciprocalRankFusion (k := k) ahead
  have right := fused_mem_reciprocalRankFusion (k := k) found
  have larger := dominates.score_lt (k := k) distinct
  exact (reciprocalRankFusion_precedes left right larger).map FusedHit.chunkId

end Order

/-- Fusion is complete, adds up the rank weights, sorts stably and respects dominance. -/
theorem reciprocalRankFusion_complete (channels : List Channel) (k : Nat)
    (distinct : ∀ channel ∈ channels, channel.ids.Nodup) :
    ((reciprocalRankFusion channels k).map FusedHit.chunkId).Nodup ∧
    (∀ chunkId, chunkId ∈ (reciprocalRankFusion channels k).map FusedHit.chunkId ↔
      ∃ channel ∈ channels, chunkId ∈ channel.ids) ∧
    (∀ hit ∈ reciprocalRankFusion channels k,
      hit.score = fusionScore channels k hit.chunkId) ∧
    ((reciprocalRankFusion channels k).Pairwise fun first second =>
      second.score < first.score ∨ (first.score = second.score ∧
        firstOccurrence channels first.chunkId < firstOccurrence channels second.chunkId)) ∧
    ∀ better worse, Dominates channels better worse →
      (∃ channel ∈ channels, worse ∈ channel.ids) →
      Precedes ((reciprocalRankFusion channels k).map FusedHit.chunkId) better worse := by
  -- Each part is a law of its own, and the sums are those over the channels.
  refine ⟨reciprocalRankFusion_nodup_ids channels, fun _ => mem_reciprocalRankFusion_ids, ?_,
    reciprocalRankFusion_pairwise, fun _ _ dominates found => dominates.precedes distinct found⟩
  intro hit member
  rw [(mem_reciprocalRankFusion_total.mp member).2, total_rankWeights_flatMap distinct]

/-- Two channels, of which only the first found the second chunk. -/
def overlappingChannels : List Channel := [[(4, 0.9), (7, 0.5)], [(4, 0.8)]]

/-- A chunk both channels found comes before one that stands behind it in the only other list. -/
theorem reciprocalRankFusion_overlapping :
    Precedes ((reciprocalRankFusion overlappingChannels 0).map FusedHit.chunkId) 4 7 := by
  -- In the first channel the chunk stands ahead, and the second found nothing else.
  have ahead : Dominates overlappingChannels 4 7 := ⟨by decide, by decide⟩
  have found : ∃ channel ∈ overlappingChannels, 7 ∈ channel.ids := by decide
  have complete := reciprocalRankFusion_complete overlappingChannels 0 (by decide)
  exact complete.2.2.2.2 4 7 ahead found

end TorqueFinder
