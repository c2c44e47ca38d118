import TorqueFinder.Lib.Positions
import TorqueFinder.Retrieval.PageExpansionLaws

/-! Each reranking pass as a bounded and monotone permutation of the positions of the pool. -/

namespace TorqueFinder

open Ranking

variable {fused : List FusedHit}

/-- A pass moves the hits without changing them, within a bound and along its boosts. -/
def IsBoundedPass (resorts : Prop) (bound : ℚ) (boost : FusedHit → ℚ)
    (fused out : List FusedHit) : Prop :=
  -- The hits are moved by the pass, and none is added or lost.
  out.Perm fused ∧
    ∃ moved : Rearrangement fused out, BoundedMonotone resorts bound FusedHit.score boost moved

/-- A pass that sorts by score plus boost, unless it has nothing to go by, is such a pass. -/
theorem isBoundedPass_sort {idle resorts : Prop} [Decidable idle] (active : resorts → ¬ idle)
    {boost : FusedHit → ℚ} {low high : ℚ} (least : ∀ hit, low ≤ boost hit)
    (most : ∀ hit, boost hit ≤ high) (fused : List FusedHit) :
    IsBoundedPass resorts (high - low) boost fused
      (if idle then fused else sortDesc (fun hit => hit.score + boost hit) fused) := by
  by_cases nothing : idle
  · -- Without anything to go by, every position stays where it is.
    rw [if_pos nothing]
    exact ⟨List.Perm.refl fused, Rearrangement.refl fused,
      boundedMonotone_refl _ fused fun sorts => active sorts nothing⟩
  · rw [if_neg nothing]
    exact ⟨sortDesc_perm _ fused, sortDescRearrangement _ fused,
      boundedMonotone_sortDesc least most fused⟩

section Passes

variable (order : SetOrder) (queryText : String) (fused : List FusedHit)

/-- The title pass is bounded by its cap. -/
theorem rerankByTitle_isBoundedPass (titles : Int → Option String) :
    IsBoundedPass (rerankTokens queryText ≠ ∅) titleBoostCap (hitTitleBoost queryText titles) fused
      (rerankByTitle queryText fused titles) := by
  -- The boost lies between zero and its cap.
  have active : rerankTokens queryText ≠ ∅ → ¬ rerankTokens queryText = ∅ := id
  have pass := isBoundedPass_sort active (hitTitleBoost_nonneg queryText titles)
    (hitTitleBoost_le queryText titles) fused
  rwa [sub_zero] at pass

/-- The product pass is bounded by its boost and its penalty together. -/
theorem rerankByProduct_isBoundedPass (facets : Int → Option ProductMeta) :
    IsBoundedPass ((extractQueryScope order queryText).isIdentified = true)
      (productMatchBoost + productMismatchPenalty)
      (hitProductDelta (extractQueryScope order queryText) facets) fused
      (rerankByProduct order queryText fused facets) := by
  -- The delta lies between the penalty and the boost.
  have active : (extractQueryScope order queryText).isIdentified = true →
      ¬ (!(extractQueryScope order queryText).isIdentified) = true := by
    simp
  have pass := isBoundedPass_sort active (le_hitProductDelta _ facets)
    (hitProductDelta_le (extractQueryScope order queryText) facets) fused
  rwa [sub_neg_eq_add] at pass

/-- The within-document pass is bounded by its bonus. -/
theorem rerankWithinDoc_isBoundedPass (metas : Int → Option ChunkMeta) (leaderDocId : Int) :
    IsBoundedPass (rerankTokens queryText ≠ ∅) rerankBonus
      (withinDocBonus queryText metas leaderDocId) fused
      (rerankWithinDoc queryText fused metas leaderDocId) := by
  -- The bonus is all or nothing.
  have active : rerankTokens queryText ≠ ∅ → ¬ rerankTokens queryText = ∅ := id
  have least : ∀ hit, 0 ≤ withinDocBonus queryText metas leaderDocId hit := withinDocBonus_nonneg
  have pass := isBoundedPass_sort active least withinDocBonus_le fused
  rwa [sub_zero] at pass

end Passes

/-- All three passes are bounded and monotone permutations of the pool, in whatever order it is. -/
theorem rerank_isBoundedPass (order : SetOrder) (queryText : String) (fused : List FusedHit)
    (titles : Int → Option String) (facets : Int → Option ProductMeta)
    (metas : Int → Option ChunkMeta) (leaderDocId : Int) :
    IsBoundedPass (rerankTokens queryText ≠ ∅) titleBoostCap (hitTitleBoost queryText titles) fused
        (rerankByTitle queryText fused titles) ∧
      IsBoundedPass ((extractQueryScope order queryText).isIdentified = true)
        (productMatchBoost + productMismatchPenalty)
        (hitProductDelta (extractQueryScope order queryText) facets) fused
        (rerankByProduct order queryText fused facets) ∧
      IsBoundedPass (rerankTokens queryText ≠ ∅) rerankBonus
        (withinDocBonus queryText metas leaderDocId) fused
        (rerankWithinDoc queryText fused metas leaderDocId) :=
  -- Each pass is the same sort with a boost of its own.
  ⟨rerankByTitle_isBoundedPass queryText fused titles,
    rerankByProduct_isBoundedPass order queryText fused facets,
    rerankWithinDoc_isBoundedPass queryText fused metas leaderDocId⟩

end TorqueFinder
