import Mathlib.Algebra.Order.Field.Rat
import Mathlib.Tactic.NormNum
import Mathlib.Tactic.Positivity
import TorqueFinder.Lib.StableSort
import TorqueFinder.Lib.Tally

/-! Reciprocal rank fusion of the retrieval channels. -/

namespace TorqueFinder

open Ranking Tally

/-- A chunk together with its fused score. -/
structure FusedHit where
  chunkId : Int
  score : ℚ
  deriving DecidableEq

/-- The results of one channel: chunk ids with the raw scores of that channel, best first. -/
abbrev Channel := List (Int × ℚ)

/-- The rank offset of reciprocal rank fusion. -/
def rrfK : Nat := 60

/-- How many hits each channel is asked for. -/
def defaultTopKPerChannel : Nat := 20

/-- The weight a channel gives to its hit at a one-based rank. -/
def rankWeight (k rank : Nat) : ℚ := 1 / (k + rank)

/-- The weights one channel gives to its chunks, which never look at the raw scores. -/
def rankWeights (k : Nat) (channel : Channel) : List (Int × ℚ) :=
  -- Ranks are counted from one.
  (channel.zipIdx 1).map fun (hit, rank) => (hit.1, rankWeight k rank)

/-- Fuse ranked lists into one, with the best fused score first. -/
def reciprocalRankFusion (channels : List Channel) (k : Nat := rrfK) : List FusedHit :=
  let fused := accumulate (channels.flatMap (rankWeights k))
  -- Equal scores stay in the order in which the channels first gave the chunks.
  sortDesc FusedHit.score (fused.map fun (chunkId, score) => { chunkId, score })

/-- The chunks a channel found. -/
def Channel.ids (channel : Channel) : List Int := channel.map Prod.fst

/-- The rank of a chunk in a channel that found it, counted from one. -/
def Channel.rank (channel : Channel) (chunkId : Int) : Nat := channel.ids.idxOf chunkId + 1

/-- The score fusion gives to a chunk: the sum of its rank weights over the channels. -/
def rrfScore (channels : List Channel) (chunkId : Int) : ℚ :=
  total (channels.flatMap (rankWeights rrfK)) chunkId

section Laws

variable {channels : List Channel} {chunkId : Int}

/-- The weighted chunks of a channel are the chunks it found. -/
@[simp] theorem rankWeights_ids (k : Nat) (channel : Channel) :
    (rankWeights k channel).map Prod.fst = channel.ids := by
  -- Pairing with ranks and projecting to the first component leaves the channel itself.
  have paired : (channel.zipIdx 1).map Prod.fst = channel := by simp
  rw [Channel.ids]
  conv_rhs => rw [← paired]
  rw [rankWeights, List.map_map, List.map_map]
  rfl

/-- Fusion at any offset returns the chunks some channel found, each with its summed weights. -/
theorem mem_reciprocalRankFusion_total {k : Nat} {hit : FusedHit} :
    hit ∈ reciprocalRankFusion channels k ↔
      (∃ channel ∈ channels, hit.chunkId ∈ channel.ids) ∧
        hit.score = total (channels.flatMap (rankWeights k)) hit.chunkId := by
  -- Sorting and pairing keep the entries, so membership is that of the accumulated table.
  obtain ⟨chunkId, score⟩ := hit
  simp only [reciprocalRankFusion, mem_sortDesc, List.mem_map, Prod.exists, FusedHit.mk.injEq]
  constructor
  · intro ranked
    obtain ⟨key, value, member, rfl, rfl⟩ := ranked
    obtain ⟨weighted, summed⟩ := mem_accumulate.mp member
    rw [List.map_flatMap] at weighted
    simpa [summed] using weighted
  · intro ranked
    obtain ⟨found, rfl⟩ := ranked
    refine ⟨chunkId, _, mem_accumulate.mpr ⟨?_, rfl⟩, rfl, rfl⟩
    rw [List.map_flatMap]
    simpa using found

/-- Fusion returns exactly the chunks some channel found, each with its summed score. -/
theorem mem_reciprocalRankFusion {hit : FusedHit} :
    hit ∈ reciprocalRankFusion channels ↔
      (∃ channel ∈ channels, hit.chunkId ∈ channel.ids) ∧
        hit.score = rrfScore channels hit.chunkId :=
  -- A chunk is fused when some channel has found it.
  mem_reciprocalRankFusion_total

/-- Fusion lists no chunk twice. -/
theorem reciprocalRankFusion_nodup_ids (channels : List Channel) {k : Nat} :
    ((reciprocalRankFusion channels k).map FusedHit.chunkId).Nodup := by
  -- The table holds each key once, and sorting only rearranges it.
  have once := accumulate_nodup (channels.flatMap (rankWeights k))
  refine ((sortDesc_perm FusedHit.score _).map FusedHit.chunkId).nodup_iff.mpr ?_
  simpa [Function.comp_def] using once

/-- Fusion puts the larger score first. -/
theorem reciprocalRankFusion_precedes {k : Nat} {first second : FusedHit}
    (left : first ∈ reciprocalRankFusion channels k)
    (right : second ∈ reciprocalRankFusion channels k) (larger : second.score < first.score) :
    Precedes (reciprocalRankFusion channels k) first second :=
  -- The fused list is sorted by score.
  sortDesc_precedes_of_lt ((mem_sortDesc _ _).mp left) ((mem_sortDesc _ _).mp right) larger

/-- Two channels contribute the sum of what each of them gives. -/
theorem rrfScore_pair (first second : Channel) (chunkId : Int) :
    rrfScore [first, second] chunkId =
      total (rankWeights rrfK first) chunkId + total (rankWeights rrfK second) chunkId := by
  -- The weights of both channels are added.
  simp [rrfScore, total, List.filter_append]

/-- A channel gives nothing to a chunk it did not find. -/
theorem total_rankWeights_of_not_mem {k : Nat} {channel : Channel}
    (absent : chunkId ∉ channel.ids) : total (rankWeights k channel) chunkId = 0 :=
  total_of_not_mem (by simpa using absent)

/-- Without repeats, a channel gives a chunk it found the weight of its rank. -/
theorem total_rankWeights_rank {k : Nat} {channel : Channel} (distinct : channel.ids.Nodup)
    (found : chunkId ∈ channel.ids) :
    total (rankWeights k channel) chunkId = rankWeight k (channel.rank chunkId) := by
  -- The chunk stands at one index, and its rank there is the index counted from one.
  obtain ⟨hit, member, rfl⟩ := List.mem_map.mp found
  obtain ⟨index, bound, located⟩ := List.getElem_of_mem member
  have place : channel.rank hit.1 = index + 1 := by
    have inside : index < channel.ids.length := by simpa [Channel.ids] using bound
    have here : channel.ids[index] = hit.1 := by simp [Channel.ids, located]
    rw [Channel.rank, ← here, distinct.idxOf_getElem index inside]
  refine total_of_mem (by simpa using distinct) ?_
  refine List.mem_map.mpr ⟨(hit, index + 1), ?_, by rw [place]⟩
  rw [List.mk_mem_zipIdx_iff_le_and_getElem?_sub]
  simpa using List.getElem?_eq_some_iff.mpr ⟨bound, located⟩

/-- The rank of a chunk a channel found lies between one and the channel's length. -/
theorem Channel.rank_bounds {channel : Channel} (found : chunkId ∈ channel.ids) :
    1 ≤ channel.rank chunkId ∧ channel.rank chunkId ≤ channel.length := by
  -- The rank is the place in the channel, counted from one.
  have inside := List.idxOf_lt_length_iff.mpr found
  simp only [Channel.ids, List.length_map] at inside
  simp only [Channel.rank, Channel.ids]
  omega

/-- The weight of a rank counted from one has a positive divisor. -/
theorem rankDivisor_pos (k : Nat) {rank : Nat} (counted : 1 ≤ rank) : (0 : ℚ) < k + rank := by
  have positive : (1 : ℚ) ≤ rank := by exact_mod_cast counted
  positivity

/-- A chunk of higher rank never has the larger weight. -/
theorem rankWeight_antitone (k : Nat) {better worse : Nat} (ranked : better ≤ worse)
    (counted : 1 ≤ better) : rankWeight k worse ≤ rankWeight k better := by
  -- A larger rank is a larger positive divisor.
  have larger : (better : ℚ) ≤ worse := by exact_mod_cast ranked
  have positive := rankDivisor_pos k counted
  unfold rankWeight
  gcongr

/-- What one channel gives is at most the weight of the first rank. -/
theorem total_rankWeights_le {channel : Channel} (distinct : channel.ids.Nodup) :
    total (rankWeights rrfK channel) chunkId ≤ 1 / 61 := by
  -- A found chunk has some rank, and the first rank weighs most.
  by_cases found : chunkId ∈ channel.ids
  · rw [total_rankWeights_rank distinct found]
    refine (rankWeight_antitone rrfK (Channel.rank_bounds found).1 le_rfl).trans (le_of_eq ?_)
    norm_num [rankWeight, rrfK]
  · rw [total_rankWeights_of_not_mem found]
    norm_num

/-- What a channel of at most twenty hits gives to one of them is at least the last weight. -/
theorem le_total_rankWeights {channel : Channel} (distinct : channel.ids.Nodup)
    (short : channel.length ≤ defaultTopKPerChannel) (found : chunkId ∈ channel.ids) :
    1 / 80 ≤ total (rankWeights rrfK channel) chunkId := by
  -- The rank is at most the length, and later ranks weigh less.
  obtain ⟨counted, bounded⟩ := Channel.rank_bounds found
  rw [total_rankWeights_rank distinct found]
  refine (le_of_eq ?_).trans (rankWeight_antitone rrfK (bounded.trans short) counted)
  norm_num [rankWeight, rrfK, defaultTopKPerChannel]

/-- A chunk found by both channels leads one found by a single channel by a wide margin. -/
theorem rrfScore_both_channels {keyword vector : Channel} (keywordDistinct : keyword.ids.Nodup)
    (vectorDistinct : vector.ids.Nodup) (keywordShort : keyword.length ≤ defaultTopKPerChannel)
    (vectorShort : vector.length ≤ defaultTopKPerChannel) {both single : Int}
    (inKeyword : both ∈ keyword.ids) (inVector : both ∈ vector.ids)
    (notBoth : ¬ (single ∈ keyword.ids ∧ single ∈ vector.ids)) :
    1 / 40 - 1 / 61 ≤ rrfScore [keyword, vector] both - rrfScore [keyword, vector] single := by
  -- Each channel gives the chunk found twice at least the weight of the last rank.
  have least : 1 / 80 + 1 / 80 ≤ rrfScore [keyword, vector] both := by
    rw [rrfScore_pair]
    exact add_le_add (le_total_rankWeights keywordDistinct keywordShort inKeyword)
      (le_total_rankWeights vectorDistinct vectorShort inVector)
  -- One of the two channels gives nothing to the other chunk.
  have most : rrfScore [keyword, vector] single ≤ 1 / 61 := by
    rw [rrfScore_pair]
    by_cases found : single ∈ keyword.ids
    · rw [total_rankWeights_of_not_mem fun also => notBoth ⟨found, also⟩, add_zero]
      exact total_rankWeights_le keywordDistinct
    · rw [total_rankWeights_of_not_mem found, zero_add]
      exact total_rankWeights_le vectorDistinct
  linarith

end Laws

end TorqueFinder
